import MediaRelay.Proofs.Message.Reading
import Mathlib.Data.List.DropRight

/-! # What a request can hold

A line is read up to its line feed, so that no text that is read holds one: not the target of a
request and no value of a field (`Request.unbroken_of_read`). Values are trimmed once and for all.
Anything else may stand in them, carriage returns and colons included.
-/

namespace MediaRelay

namespace Text

variable {mark c : Char} {text piece : Text}

theorem mem_of_mem_trimmed (member : c ∈ trimmed text) : c ∈ text := by
  have kept : trimmed text <+: text.dropWhile isBlank := List.rdropWhile_prefix isBlank _
  exact (List.dropWhile_sublist isBlank).subset (kept.subset member)

/-- Nothing is left to trim of a trimmed text. -/
theorem trimmed_trimmed (text : Text) : trimmed (trimmed text) = trimmed text := by
  have front : (trimmed text).dropWhile isBlank = trimmed text := by
    rw [List.dropWhile_eq_self_iff]
    intro filled
    -- Trimming the end leaves the first character, which trimming the front has stopped at.
    have kept : trimmed text <+: text.dropWhile isBlank := List.rdropWhile_prefix isBlank _
    rw [kept.getElem filled]
    exact List.dropWhile_get_zero_not isBlank text (filled.trans_le kept.length_le)
  unfold trimmed trimmedOf at front ⊢
  rw [front]
  exact List.rdropWhile_idempotent isBlank _

theorem mem_of_mem_pieces (among : piece ∈ pieces mark text) (member : c ∈ piece) : c ∈ text := by
  induction text generalizing piece with
  | nil =>
      rw [pieces, List.mem_singleton] at among
      rwa [among] at member
  | cons first rest ih =>
      rw [pieces] at among
      by_cases same : first = mark
      · rw [if_pos same, List.mem_cons] at among
        rcases among with rfl | among
        · exact absurd member List.not_mem_nil
        · exact List.mem_cons_of_mem first (ih among member)
      · rw [if_neg same] at among
        cases split : pieces mark rest with
        | nil =>
            rw [split, List.mem_singleton] at among
            rw [among, List.mem_singleton] at member
            exact member ▸ List.mem_cons_self
        | cons other more =>
            rw [split, List.mem_cons] at among
            rcases among with rfl | among
            · rcases List.mem_cons.mp member with rfl | member
              · exact List.mem_cons_self
              · exact List.mem_cons_of_mem first (ih (split ▸ List.mem_cons_self) member)
            · exact List.mem_cons_of_mem first
                (ih (split ▸ List.mem_cons_of_mem other among) member)

end Text

namespace Line

theorem unbroken_of_read {input rest : Bytes} {text : Text}
    (found : read input = .ok (some (text, rest))) : '\n' ∉ text := by
  obtain ⟨line, -, unbroken, -, decoded⟩ := read_eq_some_iff.mp found
  intro member
  apply unbroken
  have fed : lineFeed ∈ withoutReturn line := by
    rw [Utf8.decode?_eq_some_iff.mp decoded]
    exact List.mem_flatMap.mpr ⟨'\n', member, List.mem_singleton.mpr rfl⟩
  unfold withoutReturn at fed
  split at fed
  · exact (List.dropLast_sublist line).subset fed
  · exact fed

end Line

namespace Headers

/-- A field whose value is trimmed and stands in one line. -/
structure Bare (field : Text × Text) : Prop where
  trimmed : Text.trimmed field.2 = field.2
  unbroken : '\n' ∉ field.2

end Headers

namespace Request

variable {input rest : Bytes} {request : Request} {line method uri version : Text}

theorem pieces_of_parts? (parted : parts? line = some (method, uri, version)) :
    Text.pieces ' ' line = [method, uri, version] := by
  unfold parts? at parted
  split at parted
  · rename_i split
    split at parted
    · exact nomatch parted
    · cases parted
      exact split
  · exact nomatch parted

theorem bare_of_field? {field : Text × Text} (unbroken : '\n' ∉ line)
    (named : field? line = some field) : Headers.Bare field := by
  unfold field? at named
  split at named
  · rename_i name value cut
    split at named
    · exact nomatch named
    · cases named
      refine ⟨Text.trimmed_trimmed value, fun member => unbroken ?_⟩
      rw [(Text.cut?_eq_some_iff.mp cut).1]
      exact List.mem_append_right name (List.mem_cons_of_mem ':' (Text.mem_of_mem_trimmed member))
  · exact nomatch named

/-- By induction on how many header lines are allowed. -/
theorem bare_of_readHeaders {allowed : Nat} {headers : Headers}
    (found : readHeaders allowed input = .ok (headers, rest)) :
    ∀ field ∈ headers, Headers.Bare field := by
  induction allowed generalizing input headers with
  | zero =>
      obtain ⟨-, rfl⟩ | ⟨_, _, _, _, _, spare, _⟩ := readHeaders_cases found
      · exact fun _ member => absurd member List.not_mem_nil
      · exact nomatch spare
  | succ allowed ih =>
      obtain ⟨-, rfl⟩ | ⟨_, _, _, _, _, spare, -, opened, named, others, rfl⟩ :=
        readHeaders_cases found
      · exact fun _ member => absurd member List.not_mem_nil
      · obtain rfl := Nat.succ.inj spare
        rw [List.forall_mem_cons]
        exact ⟨bare_of_field? (Line.unbroken_of_read opened) named, ih others⟩

/-- What is known of every request that was read. -/
structure Unbroken (request : Request) : Prop where
  uri : '\n' ∉ request.uri
  fields : ∀ field ∈ request.headers, Headers.Bare field

theorem unbroken_of_read (heard : read input = .ok (some (request, rest))) :
    request.Unbroken := by
  obtain ⟨line, after, method, uri, opened, parted, behind⟩ := read_eq_some_iff.mp heard
  obtain ⟨⟨headers, headed⟩, fields, behind⟩ := bind_eq_ok_iff.mp behind
  obtain ⟨_, -, behind⟩ := bind_eq_ok_iff.mp behind
  obtain ⟨⟨_, _⟩, -, behind⟩ := bind_eq_ok_iff.mp behind
  cases behind
  refine ⟨fun member => Line.unbroken_of_read opened ?_, bare_of_readHeaders fields⟩
  apply Text.mem_of_mem_pieces _ member
  · exact ' '
  · rw [pieces_of_parts? parted]
    exact List.mem_cons_of_mem method List.mem_cons_self

theorem Unbroken.number {number : Text} (unbroken : request.Unbroken)
    (numbered : request.cseq? = some number) :
    Text.trimmed number = number ∧ '\n' ∉ number := by
  obtain ⟨field, found, rfl⟩ := Option.map_eq_some_iff.mp numbered
  have bare := unbroken.fields field (List.mem_of_find?_eq_some found)
  exact ⟨bare.trimmed, bare.unbroken⟩

end Request

end MediaRelay
