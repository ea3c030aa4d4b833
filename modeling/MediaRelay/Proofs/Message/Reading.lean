import MediaRelay.Media.Frame
import MediaRelay.Message.RequestReader
import Mathlib.Data.List.TakeWhile

/-! # Reading does not look ahead

What a reader finds at the front of the input does not depend on what comes behind it: a message
that reads well by itself reads the same with more input after it, which is then left over
(`Request.read_append`, `Frame.read_head_append`).
-/

namespace MediaRelay

namespace Line

variable {line input rest : Bytes} {text : Text}

/-- A line ends at the first line feed. -/
theorem read_line (unbroken : lineFeed ∉ line) (rest : Bytes) :
    read (line ++ lineFeed :: rest) =
      if maxLine ≤ line.length then .error (.malformed .lineTooLong)
      else match Utf8.decode? (withoutReturn line) with
        | some text => .ok (some (text, rest))
        | none => .error (.malformed .notUtf8) := by
  have front : (line ++ lineFeed :: rest).takeWhile (fun b => b ≠ lineFeed) = line := by
    rw [List.takeWhile_append_of_pos]
    · simp
    · intro b member
      simpa using fun (same : b = lineFeed) => unbroken (same ▸ member)
  have filled : (line ++ lineFeed :: rest).isEmpty = false := by simp
  by_cases long : maxLine ≤ line.length
  · simp only [read, front, filled, long, Bool.false_eq_true, ↓reduceIte]
  · cases decoded : Utf8.decode? (withoutReturn line) with
    | none =>
        simp only [read, front, filled, List.drop_left, long, decoded, Bool.false_eq_true,
          ↓reduceIte]
    | some text =>
        simp only [read, front, filled, List.drop_left, long, decoded, Bool.false_eq_true,
          ↓reduceIte]

/-- Without a line feed there is no line. -/
theorem read_unended (unended : lineFeed ∉ input) (filled : input ≠ []) :
    read input =
      if maxLine ≤ input.length then .error (.malformed .lineTooLong) else .error .truncated := by
  have front : input.takeWhile (fun b => b ≠ lineFeed) = input := by
    rw [List.takeWhile_eq_self_iff]
    intro b member
    simpa using fun (same : b = lineFeed) => unended (same ▸ member)
  simp only [read, front, List.isEmpty_iff, filled, ↓reduceIte, List.drop_length]

theorem mem_of_read (found : read input = .ok (some (text, rest))) : lineFeed ∈ input := by
  by_contra unended
  by_cases nothing : input = []
  · subst nothing
    cases found
  · rw [read_unended unended nothing] at found
    split at found <;> cases found

/-- A line is what stands before the first line feed, if it is short enough and well spelled. -/
theorem read_eq_some_iff : read input = .ok (some (text, rest)) ↔
    ∃ line, input = line ++ lineFeed :: rest ∧ lineFeed ∉ line ∧ line.length < maxLine ∧
      Utf8.decode? (withoutReturn line) = some text := by
  constructor
  · intro found
    obtain ⟨line, behind, rfl, unbroken⟩ := List.eq_append_cons_of_mem (mem_of_read found)
    rw [read_line unbroken] at found
    split at found
    · exact nomatch found
    · rename_i short
      split at found
      · rename_i decoded
        simp only [Except.ok.injEq, Option.some.injEq, Prod.mk.injEq] at found
        obtain ⟨rfl, rfl⟩ := found
        exact ⟨line, rfl, unbroken, Nat.not_le.mp short, decoded⟩
      · exact nomatch found
  · rintro ⟨line, rfl, unbroken, short, decoded⟩
    rw [read_line unbroken, if_neg (Nat.not_le.mpr short), decoded]

theorem read_append (found : read input = .ok (some (text, rest))) (behind : Bytes) :
    read (input ++ behind) = .ok (some (text, rest ++ behind)) := by
  obtain ⟨line, rfl, unbroken, short, decoded⟩ := read_eq_some_iff.mp found
  refine read_eq_some_iff.mpr ⟨line, ?_, unbroken, short, decoded⟩
  rw [List.append_assoc, List.cons_append]

/-- Whether empty lines are skipped does not depend on what follows a line. -/
theorem skipEmpty_append (broken : lineFeed ∈ skipEmpty input) (behind : Bytes) :
    skipEmpty (input ++ behind) = skipEmpty input ++ behind := by
  fun_induction skipEmpty input with
  | case1 rest ih => exact ih broken
  | case2 rest ih => exact ih broken
  | case3 input noFeed noReturn =>
      -- At least two bytes are left, or one that is no line feed.
      match input, broken with
      | [first], broken => exact (noFeed [] (by simpa [lineFeed, eq_comm] using broken)).elim
      | first :: second :: rest, _ =>
          simp only [List.cons_append]
          unfold skipEmpty
          split
          · rename_i same
            simp only [List.cons.injEq] at same
            exact (noFeed (second :: rest) (by rw [same.1])).elim
          · rename_i same
            simp only [List.cons.injEq] at same
            exact (noReturn rest (by rw [same.1, same.2.1])).elim
          · rfl

end Line

namespace Request

variable {input rest : Bytes} {headers : Headers} {request : Request}

theorem readBody_append_of_ok {length : Nat} {body : Bytes}
    (found : readBody length input = .ok (body, rest)) (behind : Bytes) :
    readBody length (input ++ behind) = .ok (body, rest ++ behind) := by
  obtain ⟨rfl, rfl⟩ := eq_append_of_readBody found
  rw [List.append_assoc, readBody_append]

/-! ## Header lines -/

theorem readHeaders_ended (allowed : Nat) (ended : Line.read input = .ok (some ([], rest))) :
    readHeaders allowed input = .ok ([], rest) := by
  unfold readHeaders
  simp only [ended]

theorem readHeaders_line {line : Text} {after : Bytes} {field : Text × Text} (filled : line ≠ [])
    (opened : Line.read input = .ok (some (line, after))) (named : field? line = some field)
    (allowed : Nat) :
    readHeaders (allowed + 1) input =
      (readHeaders allowed after).map fun others => (field :: others.1, others.2) := by
  obtain ⟨first, line, rfl⟩ := List.exists_cons_of_ne_nil filled
  rw [readHeaders]
  simp only [opened, named]
  cases readHeaders allowed after <;> rfl

theorem readHeaders_field {allowed : Nat} {line : Text} {after : Bytes} {field : Text × Text}
    (filled : line ≠ []) (opened : Line.read input = .ok (some (line, after)))
    (named : field? line = some field) (others : readHeaders allowed after = .ok (headers, rest)) :
    readHeaders (allowed + 1) input = .ok (field :: headers, rest) := by
  rw [readHeaders_line filled opened named, others]
  rfl

/-- Header fields end at once, or the first is followed by the others. -/
theorem readHeaders_cases {allowed : Nat}
    (found : readHeaders allowed input = .ok (headers, rest)) :
    (Line.read input = .ok (some ([], rest)) ∧ headers = []) ∨
      ∃ fewer line after field fields, allowed = fewer + 1 ∧ line ≠ [] ∧
        Line.read input = .ok (some (line, after)) ∧ field? line = some field ∧
        readHeaders fewer after = .ok (fields, rest) ∧ headers = field :: fields := by
  unfold readHeaders at found
  split at found
  · exact nomatch found
  · exact nomatch found
  · rename_i ended
    simp only [Except.ok.injEq, Prod.mk.injEq] at found
    obtain ⟨rfl, rfl⟩ := found
    exact .inl ⟨ended, rfl⟩
  · rename_i line after filled opened
    split at found
    · exact nomatch found
    · rename_i fewer
      split at found
      · exact nomatch found
      · rename_i field named
        split at found
        · exact nomatch found
        · rename_i fields left others
          simp only [Except.ok.injEq, Prod.mk.injEq] at found
          obtain ⟨rfl, rfl⟩ := found
          have text : line ≠ [] := by
            rintro rfl
            exact filled rfl
          exact .inr ⟨fewer, line, after, field, fields, rfl, text, opened, named, others, rfl⟩

/-- By induction on how many header lines are allowed. -/
theorem readHeaders_append {allowed : Nat}
    (found : readHeaders allowed input = .ok (headers, rest)) (behind : Bytes) :
    readHeaders allowed (input ++ behind) = .ok (headers, rest ++ behind) := by
  induction allowed generalizing input headers with
  | zero =>
      obtain ⟨ended, rfl⟩ | ⟨_, _, _, _, _, spare, _⟩ := readHeaders_cases found
      · exact readHeaders_ended 0 (Line.read_append ended behind)
      · exact nomatch spare
  | succ allowed ih =>
      obtain ⟨ended, rfl⟩ |
        ⟨_, line, after, field, fields, spare, filled, opened, named, others, rfl⟩ :=
        readHeaders_cases found
      · exact readHeaders_ended _ (Line.read_append ended behind)
      · obtain rfl := Nat.succ.inj spare
        exact readHeaders_field filled (Line.read_append opened behind) named (ih others)

/-! ## Requests -/

theorem readAfterLine_append {method uri version : Text}
    (found : readAfterLine method uri version input = .ok (request, rest)) (behind : Bytes) :
    readAfterLine method uri version (input ++ behind) = .ok (request, rest ++ behind) := by
  obtain ⟨⟨headers, headed⟩, fields, found⟩ := bind_eq_ok_iff.mp found
  obtain ⟨length, stated, found⟩ := bind_eq_ok_iff.mp found
  obtain ⟨⟨body, left⟩, taken, found⟩ := bind_eq_ok_iff.mp found
  simp only [pure, Except.pure, Except.ok.injEq, Prod.mk.injEq] at found
  obtain ⟨rfl, rfl⟩ := found
  refine bind_eq_ok_iff.mpr ⟨_, readHeaders_append fields behind, ?_⟩
  refine bind_eq_ok_iff.mpr ⟨_, stated, ?_⟩
  exact bind_eq_ok_iff.mpr ⟨_, readBody_append_of_ok taken behind, rfl⟩

/-- A request is a request line in the version that is spoken, with what belongs to it. -/
theorem read_eq_some_iff : read input = .ok (some (request, rest)) ↔
    ∃ line after method uri, Line.read (Line.skipEmpty input) = .ok (some (line, after)) ∧
      parts? line = some (method, uri, protocolVersion) ∧
      readAfterLine method uri protocolVersion after = .ok (request, rest) := by
  constructor
  · intro found
    obtain ⟨line?, opened, found⟩ := bind_eq_ok_iff.mp found
    cases line? with
    | none => exact nomatch found
    | some opening =>
        obtain ⟨line, after⟩ := opening
        cases parted : parts? line with
        | none => simp [parted, throw, throwThe, MonadExceptOf.throw] at found
        | some parts =>
            obtain ⟨method, uri, version⟩ := parts
            by_cases spoken : version = protocolVersion
            · simp only [parted, spoken, ne_eq, not_true_eq_false, ↓reduceIte] at found
              obtain ⟨whole, read, found⟩ := bind_eq_ok_iff.mp found
              simp only [pure, Except.pure, Except.ok.injEq, Option.some.injEq] at found
              exact ⟨line, after, method, uri, opened, spoken ▸ parted, found ▸ read⟩
            · simp [parted, spoken, bind, Except.bind, throw, throwThe, MonadExceptOf.throw]
                at found
  · rintro ⟨line, after, method, uri, opened, parted, read⟩
    refine bind_eq_ok_iff.mpr ⟨_, opened, ?_⟩
    simp only [parted, ne_eq, not_true_eq_false, ↓reduceIte]
    exact bind_eq_ok_iff.mpr ⟨_, read, rfl⟩

/-- **A request reads the same whatever stands behind it.** -/
theorem read_append (found : read input = .ok (some (request, rest))) (behind : Bytes) :
    read (input ++ behind) = .ok (some (request, rest ++ behind)) := by
  obtain ⟨line, after, method, uri, opened, parted, read⟩ := read_eq_some_iff.mp found
  refine read_eq_some_iff.mpr ⟨line, after ++ behind, method, uri, ?_, parted,
    readAfterLine_append read behind⟩
  rw [Line.skipEmpty_append (Line.mem_of_read opened)]
  exact Line.read_append opened behind

end Request

namespace Frame

/-- A frame that fits reads the same whatever stands behind it. -/
theorem read_head_append {frame : Frame} {room : Nat} (short : frame.payload.length ≤ maxPayload)
    (fits : frame.payload.length ≤ room) (behind : Bytes) :
    read room (frame.head ++ frame.payload ++ behind) = .ok (some (frame, behind)) := by
  have stated : lengthOf (.ofNat (frame.payload.length / 256)) (.ofNat frame.payload.length) =
      frame.payload.length := lengthOf_ofNat (by unfold maxPayload at short; omega)
  have closed : opensRequest marker = false := by decide
  unfold read head
  simp only [List.cons_append, List.nil_append, closed, Bool.false_eq_true, ↓reduceIte, stated,
    ne_eq, not_true_eq_false, List.take_left, List.drop_left]
  simp [Nat.not_lt.mpr short, Nat.not_lt.mpr fits]

/-- The two bytes that a length is read from are those it is stated in. -/
theorem ofNat_lengthOf (high low : UInt8) :
    UInt8.ofNat (lengthOf high low / 256) = high ∧ UInt8.ofNat (lengthOf high low) = low := by
  have := low.toNat_lt
  constructor
  · have quotient : lengthOf high low / 256 = high.toNat := by
      unfold lengthOf
      omega
    rw [quotient, UInt8.ofNat_toNat]
  · apply UInt8.toNat.inj
    rw [UInt8.toNat_ofNat']
    unfold lengthOf
    omega

/-- What is read as a frame is one at the front of the input, and it fits. -/
theorem eq_append_of_read {room : Nat} {input rest : Bytes} {frame : Frame}
    (found : read room input = .ok (some (frame, rest))) :
    input = frame.head ++ frame.payload ++ rest ∧ frame.payload.length ≤ room ∧
      frame.payload.length ≤ maxPayload := by
  unfold read at found
  split at found
  · exact nomatch found
  · rename_i lead others
    by_cases opens : opensRequest lead = true
    · simp [opens] at found
    by_cases marked : lead = marker
    · subst marked
      simp only [opens, Bool.false_eq_true, ↓reduceIte, ne_eq, not_true_eq_false] at found
      split at found
      · rename_i channel high low behind
        split at found
        · exact nomatch found
        · rename_i small
          split at found
          · exact nomatch found
          · rename_i whole
            simp only [Except.ok.injEq, Option.some.injEq, Prod.mk.injEq] at found
            obtain ⟨rfl, rfl⟩ := found
            have stated := ofNat_lengthOf high low
            have length : (behind.take (lengthOf high low)).length = lengthOf high low := by
              rw [List.length_take] at whole ⊢
              omega
            rw [not_or] at small
            simp only [head, length, stated.1, stated.2]
            refine ⟨?_, by omega, by omega⟩
            simp
      · exact nomatch found
    · simp [opens, marked] at found

/-- A frame reader stops before a request and leaves it alone. -/
theorem read_of_opensRequest {room : Nat} {lead : UInt8} {rest : Bytes}
    (opens : opensRequest lead = true) : read room (lead :: rest) = .ok none := by
  simp [read, opens]

end Frame

end MediaRelay
