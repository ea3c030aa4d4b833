import MediaRelay.Proofs.Message.Grammar

/-! # No message begins another

What is wrong with an input stays wrong with more input behind it, unless the input only ends too
early (`Request.Fault.append`). So a message that is cut off anywhere, between a carriage return and
its line feed, inside a character or inside the body, is never taken for a request nor for a
malformed one: it is truncated, or nothing if no more than empty lines are left of it
(`Request.message_prefix_free`).
-/

namespace MediaRelay

variable {input : Bytes} {error : RelayError}

theorem Line.Fault.append (faulty : Line.Fault input error) (lasting : error ≠ .truncated)
    (behind : Bytes) : Line.Fault (input ++ behind) error := by
  cases faulty with
  | cut => exact absurd rfl lasting
  | long unended full =>
      refine .long ?_ (Nat.le_trans full (List.length_append ▸ Nat.le_add_right _ _))
      rwa [List.take_append_of_le_length full]
  | misspelled unbroken short illegible =>
      rw [List.append_assoc, List.cons_append]
      exact .misspelled unbroken short illegible

theorem Headers.Fault.append {spare : Nat} (faulty : Headers.Fault spare input error)
    (lasting : error ≠ .truncated) (behind : Bytes) :
    Headers.Fault spare (input ++ behind) error := by
  cases faulty with
  | line faulty => exact .line (faulty.append lasting behind)
  | tooMany none written filled =>
      rw [List.append_assoc]
      exact .tooMany none written filled
  | nameless some written filled unnamed =>
      rw [List.append_assoc]
      exact .nameless some written filled unnamed

namespace Request

/-- The first rule that is broken stays the first one. -/
theorem Fault.append (faulty : Fault input error) (lasting : error ≠ .truncated)
    (behind : Bytes) : Fault (input ++ behind) error := by
  cases faulty with
  | line returns filled faulty =>
      rw [List.append_assoc]
      exact .line returns (List.append_ne_nil_of_left_ne_nil filled behind)
        (faulty.append lasting behind)
  | parts returns written filled unparted =>
      rw [List.append_assoc, List.append_assoc]
      exact .parts returns written filled unparted
  | version returns written parts foreign =>
      rw [List.append_assoc, List.append_assoc]
      exact .version returns written parts foreign
  | headers begun faulty =>
      rw [List.append_assoc]
      exact .headers begun (faulty.append lasting behind)
  | length begun returned misstated =>
      rw [List.append_assoc, List.append_assoc]
      exact .length begun returned misstated
  | body => exact absurd rfl lasting

variable {message front : Bytes} {request : Request}

/-- Of a message that is cut off, nothing is read or too little. -/
theorem read_of_cut {missing : Bytes} (complete : read (front ++ missing) = .ok (some (request, [])))
    (cut : missing ≠ []) :
    (∃ returns : List Bool, front = returns.flatMap Line.emptyLine) ∨
      read front = .error .truncated := by
  rcases written_or_fault front with empty | ⟨other, first, rest, written, rfl⟩ | ⟨error, faulty⟩
  · exact .inl empty
  · -- A request that ended before the cut would leave the missing part over.
    rw [List.append_assoc, written.read] at complete
    simp only [Except.ok.injEq, Option.some.injEq, Prod.mk.injEq, List.append_eq_nil_iff] at complete
    exact absurd complete.2.2 cut
  · by_cases early : error = .truncated
    · exact .inr (early ▸ faulty.read)
    · rw [(faulty.append early missing).read] at complete
      cases complete

/-- **Messages are prefix-free.** A message reads the same whatever stands behind it, all of which
is left over, and what a message begins with is never read as a request, nor found malformed or in
another version. -/
theorem message_prefix_free (complete : read message = .ok (some (request, []))) :
    (∀ behind, read (message ++ behind) = .ok (some (request, behind))) ∧
      ∀ front, front <+: message → front ≠ message →
        ((∃ returns : List Bool, front = returns.flatMap Line.emptyLine) → read front = .ok none) ∧
        ((¬ ∃ returns : List Bool, front = returns.flatMap Line.emptyLine) →
          read front = .error .truncated) := by
  constructor
  · exact read_append complete
  · rintro front ⟨missing, rfl⟩ proper
    have cut : missing ≠ [] := by
      rintro rfl
      exact proper (List.append_nil front).symm
    refine ⟨read_eq_none_iff.mpr, fun filled => ?_⟩
    exact (read_of_cut complete cut).resolve_left filled

/-- A message behind an empty line, with a character of two bytes, an end of a line without a
carriage return, and a body. -/
def severed : Bytes :=
  Utf8.encode "\r\nPLAY /lö RTSP/1.0\r\nCSeq:1\ncontent-length: +2\r\n\nab".toList

theorem message_prefix_free_severed :
    read severed = .ok (some (⟨"PLAY".toList, "/lö".toList, protocolVersion,
        [("CSeq".toList, "1".toList), ("content-length".toList, "+2".toList)], [97, 98]⟩, [])) ∧
      read (severed ++ [13]) = .ok (some (⟨"PLAY".toList, "/lö".toList, protocolVersion,
        [("CSeq".toList, "1".toList), ("content-length".toList, "+2".toList)], [97, 98]⟩, [13])) ∧
      read (severed.take 2) = .ok none ∧ read (severed.take 10) = .error .truncated := by
  have complete : read severed = .ok (some (⟨"PLAY".toList, "/lö".toList, protocolVersion,
      [("CSeq".toList, "1".toList), ("content-length".toList, "+2".toList)], [97, 98]⟩, [])) := by
    decide +kernel
  obtain ⟨followed, cut⟩ := message_prefix_free complete
  refine ⟨complete, followed [13], ?_, ?_⟩
  · exact (cut _ (List.take_prefix 2 severed) (by decide +kernel)).1 ⟨[true], by decide +kernel⟩
  · apply (cut _ (List.take_prefix 10 severed) (by decide +kernel)).2
    rintro ⟨returns, same⟩
    have skipped := Line.skipEmpty_emptyLines returns []
    rw [List.append_nil, ← same] at skipped
    exact absurd skipped (by decide +kernel)

end Request

end MediaRelay
