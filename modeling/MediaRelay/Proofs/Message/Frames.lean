import MediaRelay.Proofs.Message.Reading

/-! # Streams of frames

Reading one frame after the other takes a stream apart into frames and what is left when no more
come, and does so in one way only: the frames with what is left are the stream again
(`Frame.readAll_eq_ok_iff`). A frame that is cut off anywhere is neither a frame nor anything else
(`Frame.read_of_cut`).
-/

namespace MediaRelay.Frame

variable {frame : Frame} {frames : List Frame} {room : Nat} {input rest front message : Bytes}

/-- The frame as it is sent, if it is short enough. -/
def bytes (frame : Frame) : Bytes := frame.head ++ frame.payload

theorem encode_eq_ok_iff :
    frame.encode = .ok message ↔ frame.payload.length ≤ maxPayload ∧ message = frame.bytes := by
  unfold encode
  split
  · rename_i long
    simp [Nat.not_le.mpr long]
  · rename_i short
    simp [Nat.not_lt.mp short, bytes, eq_comm]

theorem mapM_encode (short : ∀ frame ∈ frames, frame.payload.length ≤ maxPayload) :
    frames.mapM encode = .ok (frames.map bytes) := by
  induction frames with
  | nil => rfl
  | cons frame frames ih =>
      obtain ⟨first, others⟩ := List.forall_mem_cons.mp short
      rw [List.mapM_cons]
      refine bind_eq_ok_iff.mpr ⟨frame.bytes, encode_eq_ok_iff.mpr ⟨first, rfl⟩, ?_⟩
      exact bind_eq_ok_iff.mpr ⟨_, ih others, rfl⟩

/-! ## One frame -/

/-- A frame is read where one stands that fits, and nothing else is taken. -/
theorem read_eq_some_iff : read room input = .ok (some (frame, rest)) ↔
    input = frame.bytes ++ rest ∧ frame.payload.length ≤ room ∧
      frame.payload.length ≤ maxPayload := by
  constructor
  · exact eq_append_of_read
  · rintro ⟨rfl, fits, short⟩
    exact read_head_append short fits rest

/-- No frame comes at the end of the input and where a request opens. -/
theorem read_eq_none_iff : read room input = .ok none ↔
    input = [] ∨ ∃ lead others, input = lead :: others ∧ 0x41 ≤ lead ∧ lead ≤ 0x5A := by
  constructor
  · intro ended
    cases input with
    | nil => exact .inl rfl
    | cons lead others =>
        refine .inr ⟨lead, others, rfl, ?_⟩
        by_cases opens : opensRequest lead = true
        · simpa [opensRequest] using opens
        · -- Whatever else comes first is read or refused.
          simp only [read, opens, Bool.false_eq_true, ↓reduceIte] at ended
          split at ended
          · cases ended
          · split at ended
            · split at ended
              · cases ended
              · split at ended <;> cases ended
            · cases ended
  · rintro (rfl | ⟨lead, others, rfl, low, high⟩)
    · rfl
    · exact read_of_opensRequest (by simp [opensRequest, low, high])

theorem length_lt_of_read (found : read room input = .ok (some (frame, rest))) :
    rest.length < input.length := by
  obtain ⟨rfl, _⟩ := read_eq_some_iff.mp found
  simp only [bytes, head, List.length_append, List.length_cons]
  omega

/-- A head whose payload is not all there. -/
theorem read_head_short (short : frame.payload.length ≤ maxPayload)
    (fits : frame.payload.length ≤ room) (cut : rest.length < frame.payload.length) :
    read room (frame.head ++ rest) = .error .truncated := by
  have stated : lengthOf (.ofNat (frame.payload.length / 256)) (.ofNat frame.payload.length) =
      frame.payload.length := lengthOf_ofNat (by unfold maxPayload at short; omega)
  have closed : opensRequest marker = false := by decide
  have missing : (rest.take frame.payload.length).length < frame.payload.length :=
    Nat.lt_of_le_of_lt (List.length_take_le' ..) cut
  unfold read head
  simp only [List.cons_append, List.nil_append, closed, Bool.false_eq_true, ↓reduceIte, ne_eq,
    not_true_eq_false, stated, Nat.not_lt.mpr short, Nat.not_lt.mpr fits, or_self, missing]

/-- A marker that no whole head follows. -/
theorem read_marker_short (few : rest.length < 3) :
    read room (marker :: rest) = .error .truncated := by
  have closed : opensRequest marker = false := by decide
  simp only [read, closed, Bool.false_eq_true, ↓reduceIte, ne_eq, not_true_eq_false]
  split
  · simp only [List.length_cons] at few
    omega
  · rfl

/-- A frame that is cut off is truncated, whether the cut is within the head or behind it. -/
theorem read_of_cut (short : frame.payload.length ≤ maxPayload)
    (fits : frame.payload.length ≤ room) (begins : front <+: frame.bytes) (begun : front ≠ [])
    (proper : front ≠ frame.bytes) : read room front = .error .truncated := by
  obtain ⟨missing, whole⟩ := begins
  have lacking : missing ≠ [] := by
    rintro rfl
    exact proper (List.append_nil front ▸ whole)
  obtain ⟨lead, others, rfl⟩ := List.exists_cons_of_ne_nil begun
  by_cases few : others.length < 3
  · obtain rfl : lead = marker := (List.cons.inj whole).1
    exact read_marker_short few
  · have headed : frame.head = (lead :: others).take 4 := by
      have first := congrArg (List.take 4) whole
      rw [List.take_append_of_le_length (by simp; omega)] at first
      exact first.symm
    have behind : lead :: others = frame.head ++ (lead :: others).drop 4 := by
      rw [headed, List.take_append_drop]
    rw [bytes, behind, List.append_assoc] at whole
    have payload := congrArg List.length (List.append_cancel_left whole)
    rw [List.length_append] at payload
    have left := List.length_pos_iff.mpr lacking
    rw [behind]
    exact read_head_short short fits (by omega)

/-! ## Whole streams -/

/-- Reads one frame after the other, and returns them with what is left when no more come. -/
def readAll (room : Nat) (input : Bytes) : Except RelayError (List Frame × Bytes) :=
  match _ : read room input with
  | .error error => .error error
  | .ok none => .ok ([], input)
  | .ok (some (frame, rest)) =>
    (readAll room rest).map fun later => (frame :: later.1, later.2)
termination_by input.length
decreasing_by exact length_lt_of_read (by assumption)

theorem readAll_of_none (ended : read room input = .ok none) :
    readAll room input = .ok ([], input) := by
  unfold readAll
  split <;> simp_all

theorem readAll_of_some (found : read room input = .ok (some (frame, rest))) :
    readAll room input = (readAll room rest).map fun later => (frame :: later.1, later.2) := by
  rw [readAll]
  split <;> simp_all

/-- **A stream is read in one way.** By induction on the frames, and on what is read. -/
theorem readAll_eq_ok_iff : readAll room input = .ok (frames, rest) ↔
    input = frames.flatMap bytes ++ rest ∧
      (∀ frame ∈ frames, frame.payload.length ≤ room ∧ frame.payload.length ≤ maxPayload) ∧
      read room rest = .ok none := by
  constructor
  · intro taken
    fun_induction readAll room input generalizing frames rest with
    | case1 input error faulty => cases taken
    | case2 input ended =>
        cases taken
        exact ⟨rfl, by simp, ended⟩
    | case3 input frame behind found ih =>
        obtain ⟨later, others, same⟩ := map_eq_ok_iff.mp taken
        cases same
        obtain ⟨split, fit, ended⟩ := ih others
        obtain ⟨whole, fits⟩ := read_eq_some_iff.mp found
        refine ⟨?_, List.forall_mem_cons.mpr ⟨fits, fit⟩, ended⟩
        rw [List.flatMap_cons, List.append_assoc, ← split, whole]
  · rintro ⟨rfl, fit, ended⟩
    induction frames with
    | nil => exact readAll_of_none ended
    | cons frame frames ih =>
        obtain ⟨first, others⟩ := List.forall_mem_cons.mp fit
        have found : read room (frame.bytes ++ (frames.flatMap bytes ++ rest)) =
            .ok (some (frame, frames.flatMap bytes ++ rest)) :=
          read_eq_some_iff.mpr ⟨rfl, first⟩
        rw [List.flatMap_cons, List.append_assoc, readAll_of_some found, ih others]
        rfl

/-- **Frames are decoded exactly.** The messages of frames that are short enough, before the end of
the stream or a request, are read as those frames, and what comes next is left unread. Whatever is
read as a frame, with any room, is the message of that frame. Of a message that is cut off no frame
is read, but that it is truncated. -/
theorem decodes_exactly :
    (∀ {frames : List Frame} {rest : Bytes},
      (∀ frame ∈ frames, frame.payload.length ≤ maxPayload) →
      (rest = [] ∨ ∃ lead others, rest = lead :: others ∧ 0x41 ≤ lead ∧ lead ≤ 0x5A) →
      ∃ messages, frames.mapM encode = .ok messages ∧
        readAll maxPayload (messages.flatten ++ rest) = .ok (frames, rest) ∧
        read maxPayload rest = .ok none) ∧
    (∀ {room : Nat} {input rest : Bytes} {frame : Frame},
      read room input = .ok (some (frame, rest)) →
      ∃ message, frame.encode = .ok message ∧ input = message ++ rest ∧
        frame.payload.length ≤ room) ∧
    ∀ {frame : Frame} {message front : Bytes}, frame.encode = .ok message →
      front <+: message → front ≠ [] → front ≠ message →
      read maxPayload front = .error .truncated := by
  refine ⟨?_, ?_, ?_⟩
  · intro frames rest short ends
    have ended : read maxPayload rest = .ok none := read_eq_none_iff.mpr ends
    refine ⟨frames.map bytes, mapM_encode short, ?_, ended⟩
    rw [← List.flatMap_def]
    exact readAll_eq_ok_iff.mpr
      ⟨rfl, fun frame member => ⟨short frame member, short frame member⟩, ended⟩
  · intro room input rest frame found
    obtain ⟨split, fits, short⟩ := read_eq_some_iff.mp found
    exact ⟨frame.bytes, encode_eq_ok_iff.mpr ⟨short, rfl⟩, split, fits⟩
  · intro frame message front encoded begins begun proper
    obtain ⟨short, rfl⟩ := encode_eq_ok_iff.mp encoded
    exact read_of_cut short short begins begun proper

/-- A payload that looks like a frame, no payload, and one that looks like a request. -/
def lookalikes : List Frame :=
  [⟨0, [0x24, 1, 0, 1, 7]⟩, ⟨255, []⟩, ⟨3, [0x50, 0x4C, 0x41, 0x59]⟩]

theorem decodes_exactly_lookalikes : ∃ messages, lookalikes.mapM encode = .ok messages ∧
    readAll maxPayload (messages.flatten ++ [0x50, 0x24]) = .ok (lookalikes, [0x50, 0x24]) ∧
    (∃ message, encode ⟨1, [9]⟩ = .ok message ∧ [0x24, 1, 0, 1, 9, 0x24] = message ++ [0x24]) ∧
    read maxPayload [0x24, 0, 0, 5, 0x24, 1, 0, 1] = .error .truncated := by
  obtain ⟨streams, converse, cut⟩ := decodes_exactly
  obtain ⟨messages, encoded, taken, _⟩ := streams (by decide : ∀ frame ∈ lookalikes,
    frame.payload.length ≤ maxPayload) (.inr ⟨0x50, [0x24], rfl, by decide, by decide⟩)
  have found : read 1 [0x24, 1, 0, 1, 9, 0x24] = .ok (some (⟨1, [9]⟩, [0x24])) :=
    read_eq_some_iff.mpr ⟨by decide, by decide, by decide⟩
  obtain ⟨message, written, split, _⟩ := converse found
  refine ⟨messages, encoded, taken, ⟨message, written, split⟩, ?_⟩
  exact cut (rfl : encode ⟨0, [0x24, 1, 0, 1, 7]⟩ = .ok [0x24, 0, 0, 5, 0x24, 1, 0, 1, 7])
    (by decide) (by decide) (by decide)

end MediaRelay.Frame
