import MediaRelay.Text.Basic

/-!
# UTF-8

Each character is written as one to four bytes. Reading accepts exactly what writing produces
(`decode?_eq_some_iff`): longer forms than needed, surrogates and lone continuation bytes are
refused.
-/

namespace MediaRelay.Utf8

/-- The bytes of a character. -/
def charBytes (c : Char) : Bytes :=
  let n := c.toNat
  if n < 0x80 then
    [.ofNat n]
  else if n < 0x800 then
    [.ofNat (0xC0 + n / 0x40), .ofNat (0x80 + n % 0x40)]
  else if n < 0x10000 then
    [.ofNat (0xE0 + n / 0x1000), .ofNat (0x80 + n / 0x40 % 0x40), .ofNat (0x80 + n % 0x40)]
  else
    [.ofNat (0xF0 + n / 0x40000), .ofNat (0x80 + n / 0x1000 % 0x40),
      .ofNat (0x80 + n / 0x40 % 0x40), .ofNat (0x80 + n % 0x40)]

/-- The bytes of a text. -/
def encode (text : Text) : Bytes := text.flatMap charBytes

/-- The six bits that a continuation byte carries. -/
def tail? (b : UInt8) : Option Nat :=
  if 0x80 ≤ b.toNat ∧ b.toNat < 0xC0 then some (b.toNat - 0x80) else none

/-- The character with a code point, if it is at least the given one and not a surrogate. -/
def charFrom? (least point : Nat) : Option Char :=
  if valid : point.isValidChar then
    if least ≤ point then some (Char.ofNatAux point valid) else none
  else
    none

/-- The character that a form of several bytes spells: `lead` is what the first byte carries. -/
def spelled? (least lead : Nat) (tails : List UInt8) : Option Char :=
  (tails.foldlM (fun point b => (tail? b).map fun bits => point * 0x40 + bits) lead).bind
    (charFrom? least)

/-- Reads bytes as text. -/
def decode? : Bytes → Option Text
  | [] => some []
  | a :: rest =>
    if a.toNat < 0x80 then
      (decode? rest).map (Char.ofNat a.toNat :: ·)
    else if a.toNat < 0xC0 then
      none
    else if a.toNat < 0xE0 then
      match rest with
      | b :: rest => (spelled? 0x80 (a.toNat - 0xC0) [b]).bind fun c =>
          (decode? rest).map (c :: ·)
      | _ => none
    else if a.toNat < 0xF0 then
      match rest with
      | b :: b' :: rest => (spelled? 0x800 (a.toNat - 0xE0) [b, b']).bind fun c =>
          (decode? rest).map (c :: ·)
      | _ => none
    else
      match rest with
      | b :: b' :: b'' :: rest => (spelled? 0x10000 (a.toNat - 0xF0) [b, b', b'']).bind fun c =>
          (decode? rest).map (c :: ·)
      | _ => none

/-! ## Reading undoes writing -/

theorem encode_append (left right : Text) : encode (left ++ right) = encode left ++ encode right :=
  List.flatMap_append

theorem encode_cons (c : Char) (text : Text) : encode (c :: text) = charBytes c ++ encode text :=
  List.flatMap_cons

theorem toNat_ofNat_of_lt {n : Nat} (small : n < 256) : (UInt8.ofNat n).toNat = n := by
  simp [Nat.mod_eq_of_lt small]

theorem tail?_ofNat {n : Nat} (small : n < 0x40) : tail? (.ofNat (0x80 + n)) = some n := by
  rw [tail?, toNat_ofNat_of_lt (by omega)]
  simp only [Option.ite_none_right_eq_some, Option.some.injEq]
  omega

theorem tail?_eq_some {b : UInt8} {bits : Nat} (read : tail? b = some bits) :
    b.toNat = 0x80 + bits ∧ bits < 0x40 := by
  simp only [tail?, Option.ite_none_right_eq_some, Option.some.injEq] at read
  omega

theorem charFrom?_toNat {least : Nat} {c : Char} (enough : least ≤ c.toNat) :
    charFrom? least c.toNat = some c := by
  have valid : c.toNat.isValidChar := c.valid
  have self : Char.ofNatAux c.toNat valid = c := (dif_pos valid).symm.trans (Char.ofNat_toNat c)
  rw [charFrom?, dif_pos valid, if_pos enough, self]

theorem charFrom?_eq_some {least point : Nat} {c : Char}
    (spelled : charFrom? least point = some c) : c.toNat = point ∧ least ≤ point := by
  obtain ⟨valid, spelled⟩ := Option.dite_none_right_eq_some.mp spelled
  obtain ⟨enough, same⟩ := Option.ite_none_right_eq_some.mp spelled
  obtain rfl := Option.some.inj same
  exact ⟨rfl, enough⟩

theorem toNat_lt (c : Char) : c.toNat < 0x110000 := by
  have valid : c.toNat.isValidChar := c.valid
  simp only [Nat.isValidChar] at valid
  omega

/-- The bytes of a character are read back as that character. -/
theorem decode?_charBytes_append (c : Char) (rest : Bytes) :
    decode? (charBytes c ++ rest) = (decode? rest).map (c :: ·) := by
  have limit := toNat_lt c
  have self : Char.ofNat c.toNat = c := Char.ofNat_toNat c
  generalize size : c.toNat = n at *
  unfold charBytes
  simp only [size]
  split
  · rename_i one
    rw [List.cons_append, List.nil_append, decode?.eq_def]
    simp only [toNat_ofNat_of_lt (show n < 256 by omega), one, reduceIte, self]
  · split
    · have lead : (UInt8.ofNat (0xC0 + n / 0x40)).toNat = 0xC0 + n / 0x40 :=
        toNat_ofNat_of_lt (by omega)
      simp only [List.cons_append, List.nil_append]
      rw [decode?.eq_def]
      simp only [lead]
      rw [if_neg (by omega), if_neg (by omega), if_pos (by omega)]
      have point : (n / 0x40) * 0x40 + n % 0x40 = c.toNat := by omega
      simp only [spelled?, List.foldlM_cons, List.foldlM_nil, tail?_ofNat (Nat.mod_lt n (by omega)),
        Option.map_some, Nat.add_sub_cancel_left, Option.bind_eq_bind, Option.bind_some,
        Option.pure_def, point]
      rw [charFrom?_toNat (by omega), Option.bind_some]
    · split
      · have lead : (UInt8.ofNat (0xE0 + n / 0x1000)).toNat = 0xE0 + n / 0x1000 :=
          toNat_ofNat_of_lt (by omega)
        simp only [List.cons_append, List.nil_append]
        rw [decode?.eq_def]
        simp only [lead]
        rw [if_neg (by omega), if_neg (by omega), if_neg (by omega), if_pos (by omega)]
        have point : (n / 0x1000 * 0x40 + n / 0x40 % 0x40) * 0x40 + n % 0x40 = c.toNat := by omega
        simp only [spelled?, List.foldlM_cons, List.foldlM_nil,
          tail?_ofNat (Nat.mod_lt n (by omega)), tail?_ofNat (Nat.mod_lt (n / 0x40) (by omega)),
          Option.map_some, Nat.add_sub_cancel_left, Option.bind_eq_bind, Option.bind_some,
          Option.pure_def, point]
        rw [charFrom?_toNat (by omega), Option.bind_some]
      · have lead : (UInt8.ofNat (0xF0 + n / 0x40000)).toNat = 0xF0 + n / 0x40000 :=
          toNat_ofNat_of_lt (by omega)
        simp only [List.cons_append, List.nil_append]
        rw [decode?.eq_def]
        simp only [lead]
        rw [if_neg (by omega), if_neg (by omega), if_neg (by omega), if_neg (by omega)]
        have point : ((n / 0x40000 * 0x40 + n / 0x1000 % 0x40) * 0x40 + n / 0x40 % 0x40) * 0x40 +
            n % 0x40 = c.toNat := by omega
        simp only [spelled?, List.foldlM_cons, List.foldlM_nil,
          tail?_ofNat (Nat.mod_lt n (by omega)), tail?_ofNat (Nat.mod_lt (n / 0x40) (by omega)),
          tail?_ofNat (Nat.mod_lt (n / 0x1000) (by omega)),
          Option.map_some, Nat.add_sub_cancel_left, Option.bind_eq_bind, Option.bind_some,
          Option.pure_def, point]
        rw [charFrom?_toNat (by omega), Option.bind_some]

theorem decode?_encode_append (text : Text) (rest : Bytes) :
    decode? (encode text ++ rest) = (decode? rest).map (text ++ ·) := by
  induction text with
  | nil => cases h : decode? rest <;> simp [encode, h]
  | cons c text hypothesis =>
    rw [encode_cons, List.append_assoc, decode?_charBytes_append, hypothesis, Option.map_map]
    rfl

@[simp] theorem decode?_encode (text : Text) : decode? (encode text) = some text := by
  simpa [decode?] using decode?_encode_append text []

theorem encode_ne_nil {text : Text} (filled : text ≠ []) : encode text ≠ [] := by
  intro empty
  have decoded := decode?_encode text
  rw [empty, decode?, Option.some.injEq] at decoded
  exact filled decoded.symm

/-- The bytes of a form of several bytes are not ASCII. -/
theorem le_of_mem_charBytes {b : UInt8} {c : Char} (long : 0x80 ≤ c.toNat)
    (member : b ∈ charBytes c) : 0x80 ≤ b.toNat := by
  have limit := toNat_lt c
  unfold charBytes at member
  simp only [Nat.not_lt.mpr long, reduceIte] at member
  split at member
  · simp only [List.mem_cons, List.not_mem_nil, or_false] at member
    rcases member with rfl | rfl <;> rw [toNat_ofNat_of_lt (by omega)] <;> omega
  · split at member
    · simp only [List.mem_cons, List.not_mem_nil, or_false] at member
      rcases member with rfl | rfl | rfl <;> rw [toNat_ofNat_of_lt (by omega)] <;> omega
    · simp only [List.mem_cons, List.not_mem_nil, or_false] at member
      rcases member with rfl | rfl | rfl | rfl <;> rw [toNat_ofNat_of_lt (by omega)] <;> omega

/-- The byte of an ASCII character stands for that character only. -/
theorem not_mem_encode {c : Char} {text : Text} (ascii : c.toNat < 0x80) (absent : c ∉ text) :
    UInt8.ofNat c.toNat ∉ encode text := by
  intro member
  obtain ⟨other, among, spelled⟩ := List.mem_flatMap.mp member
  have value : (UInt8.ofNat c.toNat).toNat = c.toNat := toNat_ofNat_of_lt (by omega)
  by_cases long : 0x80 ≤ other.toNat
  · have := le_of_mem_charBytes long spelled
    omega
  · rw [charBytes, if_pos (by omega), List.mem_singleton] at spelled
    have same := congrArg UInt8.toNat spelled
    rw [value, toNat_ofNat_of_lt (by omega)] at same
    exact absent (Char.toNat_inj.mp same ▸ among)

/-! ## Writing undoes reading -/

theorem ofNat_eq_of_toNat {n : Nat} {b : UInt8} (same : b.toNat = n) : UInt8.ofNat n = b := by
  rw [← same, UInt8.ofNat_toNat]

theorem charBytes_of_spelled_two {a b : UInt8} {c : Char} (low : 0xC0 ≤ a.toNat)
    (high : a.toNat < 0xE0) (spelled : spelled? 0x80 (a.toNat - 0xC0) [b] = some c) :
    charBytes c = [a, b] := by
  simp only [spelled?, List.foldlM_cons, List.foldlM_nil, Option.bind_eq_bind, Option.pure_def,
    Option.bind_eq_some_iff, Option.map_eq_some_iff, Option.some.injEq] at spelled
  obtain ⟨point, ⟨_, ⟨bits, read, rfl⟩, rfl⟩, found⟩ := spelled
  obtain ⟨value, enough⟩ := charFrom?_eq_some found
  obtain ⟨byte, small⟩ := tail?_eq_some read
  unfold charBytes
  simp only [value]
  rw [if_neg (by omega), if_pos (by omega), ofNat_eq_of_toNat (b := a) (by omega),
    ofNat_eq_of_toNat (b := b) (by omega)]

theorem charBytes_of_spelled_three {a b b' : UInt8} {c : Char} (low : 0xE0 ≤ a.toNat)
    (high : a.toNat < 0xF0) (spelled : spelled? 0x800 (a.toNat - 0xE0) [b, b'] = some c) :
    charBytes c = [a, b, b'] := by
  simp only [spelled?, List.foldlM_cons, List.foldlM_nil, Option.bind_eq_bind, Option.pure_def,
    Option.bind_eq_some_iff, Option.map_eq_some_iff, Option.some.injEq] at spelled
  obtain ⟨point, ⟨_, ⟨bits, read, rfl⟩, _, ⟨bits', read', rfl⟩, rfl⟩, found⟩ := spelled
  obtain ⟨value, enough⟩ := charFrom?_eq_some found
  obtain ⟨byte, small⟩ := tail?_eq_some read
  obtain ⟨byte', small'⟩ := tail?_eq_some read'
  unfold charBytes
  simp only [value]
  rw [if_neg (by omega), if_neg (by omega), if_pos (by omega),
    ofNat_eq_of_toNat (b := a) (by omega), ofNat_eq_of_toNat (b := b) (by omega),
    ofNat_eq_of_toNat (b := b') (by omega)]

theorem charBytes_of_spelled_four {a b b' b'' : UInt8} {c : Char} (low : 0xF0 ≤ a.toNat)
    (spelled : spelled? 0x10000 (a.toNat - 0xF0) [b, b', b''] = some c) :
    charBytes c = [a, b, b', b''] := by
  simp only [spelled?, List.foldlM_cons, List.foldlM_nil, Option.bind_eq_bind, Option.pure_def,
    Option.bind_eq_some_iff, Option.map_eq_some_iff, Option.some.injEq] at spelled
  obtain ⟨point, ⟨_, ⟨bits, read, rfl⟩, _, ⟨bits', read', rfl⟩, _, ⟨bits'', read'', rfl⟩, rfl⟩,
    found⟩ := spelled
  obtain ⟨value, enough⟩ := charFrom?_eq_some found
  obtain ⟨byte, small⟩ := tail?_eq_some read
  obtain ⟨byte', small'⟩ := tail?_eq_some read'
  obtain ⟨byte'', small''⟩ := tail?_eq_some read''
  unfold charBytes
  simp only [value]
  rw [if_neg (by omega), if_neg (by omega), if_neg (by omega),
    ofNat_eq_of_toNat (b := a) (by omega), ofNat_eq_of_toNat (b := b) (by omega),
    ofNat_eq_of_toNat (b := b') (by omega), ofNat_eq_of_toNat (b := b'') (by omega)]

theorem eq_encode_of_decode? {bytes : Bytes} {text : Text} (read : decode? bytes = some text) :
    bytes = encode text := by
  fun_induction decode? bytes generalizing text with
  | case1 =>
    simp only [Option.some.injEq] at read
    subst read
    rfl
  | case2 a rest small hypothesis =>
    obtain ⟨later, found, rfl⟩ := Option.map_eq_some_iff.mp read
    have value : (Char.ofNat a.toNat).toNat = a.toNat := by
      rw [Char.ofNat, dif_pos (Or.inl (by omega))]
      rfl
    have single : charBytes (Char.ofNat a.toNat) = [a] := by
      simp only [charBytes, value, small, reduceIte, UInt8.ofNat_toNat]
    rw [encode_cons, single, hypothesis found]
    rfl
  | case3 => simp at read
  | case4 a large high second b rest hypothesis =>
    obtain ⟨c, spelled, behind⟩ := Option.bind_eq_some_iff.mp read
    obtain ⟨later, found, rfl⟩ := Option.map_eq_some_iff.mp behind
    rw [encode_cons, charBytes_of_spelled_two (by omega) second spelled, hypothesis found]
    rfl
  | case5 => simp at read
  | case6 a large high second third b b' rest hypothesis =>
    obtain ⟨c, spelled, behind⟩ := Option.bind_eq_some_iff.mp read
    obtain ⟨later, found, rfl⟩ := Option.map_eq_some_iff.mp behind
    rw [encode_cons, charBytes_of_spelled_three (by omega) third spelled, hypothesis found]
    rfl
  | case7 => simp at read
  | case8 a large high second third b b' b'' rest hypothesis =>
    obtain ⟨c, spelled, behind⟩ := Option.bind_eq_some_iff.mp read
    obtain ⟨later, found, rfl⟩ := Option.map_eq_some_iff.mp behind
    rw [encode_cons, charBytes_of_spelled_four (by omega) spelled, hypothesis found]
    rfl
  | case9 => simp at read

/-- Reading accepts exactly what writing produces. -/
theorem decode?_eq_some_iff {bytes : Bytes} {text : Text} :
    decode? bytes = some text ↔ bytes = encode text :=
  ⟨eq_encode_of_decode?, fun same => same ▸ decode?_encode text⟩

end MediaRelay.Utf8
