import MediaRelay.Proofs.Message.RoundTrip

/-! # The extent of a message

What a reader takes from the front of the input is a message by itself: it reads the same with
anything else behind it, or with nothing (`Request.exists_message_of_read`). So the input is a
message and the rest, and nothing of the rest has been looked at.
-/

namespace MediaRelay

namespace Line

variable {input rest : Bytes} {text : Text}

/-- What is skipped is empty lines. -/
theorem exists_emptyLines (input : Bytes) :
    ∃ returns : List Bool, input = returns.flatMap emptyLine ++ skipEmpty input := by
  fun_induction skipEmpty input with
  | case1 rest ih =>
      obtain ⟨returns, same⟩ := ih
      exact ⟨false :: returns, congrArg (10 :: ·) same⟩
  | case2 rest ih =>
      obtain ⟨returns, same⟩ := ih
      exact ⟨true :: returns, congrArg (13 :: 10 :: ·) same⟩
  | case3 input _ _ => exact ⟨[], rfl⟩

theorem exists_front_of_read (found : read input = .ok (some (text, rest))) :
    ∃ front, input = front ++ rest ∧
      ∀ behind, read (front ++ behind) = .ok (some (text, behind)) := by
  obtain ⟨line, rfl, unbroken, short, decoded⟩ := read_eq_some_iff.mp found
  refine ⟨line ++ [lineFeed], by simp, fun behind => ?_⟩
  exact read_eq_some_iff.mpr ⟨line, by simp, unbroken, short, decoded⟩

/-- A line of text is not skipped, whatever stands behind it. -/
theorem exists_front_of_read_skipEmpty (found : read (skipEmpty input) = .ok (some (text, rest)))
    (filled : text ≠ []) :
    ∃ front, input = front ++ rest ∧
      ∀ behind, read (skipEmpty (front ++ behind)) = .ok (some (text, behind)) := by
  obtain ⟨returns, same⟩ := exists_emptyLines input
  obtain ⟨line, left, unbroken, short, decoded⟩ := read_eq_some_iff.mp found
  have written : withoutReturn line ≠ [] := by
    intro empty
    rw [empty] at decoded
    exact filled (Option.some.inj decoded).symm
  refine ⟨returns.flatMap emptyLine ++ (line ++ [lineFeed]), ?_, fun behind => ?_⟩
  · rw [same, left]
    simp
  · rw [List.append_assoc, skipEmpty_emptyLines, List.append_assoc, List.singleton_append,
      skipEmpty_line unbroken written]
    exact read_eq_some_iff.mpr ⟨line, rfl, unbroken, short, decoded⟩

end Line

namespace Request

variable {input rest : Bytes} {headers : Headers} {request : Request}

/-- By induction on how many header lines are allowed. -/
theorem exists_front_of_readHeaders {allowed : Nat}
    (found : readHeaders allowed input = .ok (headers, rest)) :
    ∃ front, input = front ++ rest ∧
      ∀ behind, readHeaders allowed (front ++ behind) = .ok (headers, behind) := by
  induction allowed generalizing input headers with
  | zero =>
      obtain ⟨ended, rfl⟩ | ⟨_, _, _, _, _, spare, _⟩ := readHeaders_cases found
      · obtain ⟨front, rfl, read⟩ := Line.exists_front_of_read ended
        exact ⟨front, rfl, fun behind => readHeaders_ended 0 (read behind)⟩
      · cases spare
  | succ allowed ih =>
      obtain ⟨ended, rfl⟩ |
        ⟨_, line, after, field, fields, spare, filled, opened, named, others, rfl⟩ :=
        readHeaders_cases found
      · obtain ⟨front, rfl, read⟩ := Line.exists_front_of_read ended
        exact ⟨front, rfl, fun behind => readHeaders_ended _ (read behind)⟩
      · obtain rfl := Nat.succ.inj spare
        obtain ⟨first, rfl, read⟩ := Line.exists_front_of_read opened
        obtain ⟨second, rfl, later⟩ := ih others
        refine ⟨first ++ second, by rw [List.append_assoc], fun behind => ?_⟩
        rw [List.append_assoc]
        exact readHeaders_field filled (read _) named (later behind)

theorem exists_front_of_readAfterLine {method uri version : Text}
    (found : readAfterLine method uri version input = .ok (request, rest)) :
    ∃ front, input = front ++ rest ∧
      ∀ behind, readAfterLine method uri version (front ++ behind) = .ok (request, behind) := by
  obtain ⟨⟨headers, headed⟩, fields, found⟩ := bind_eq_ok_iff.mp found
  obtain ⟨length, stated, found⟩ := bind_eq_ok_iff.mp found
  obtain ⟨⟨body, left⟩, taken, found⟩ := bind_eq_ok_iff.mp found
  simp only [pure, Except.pure, Except.ok.injEq, Prod.mk.injEq] at found
  obtain ⟨rfl, rfl⟩ := found
  obtain ⟨front, rfl, read⟩ := exists_front_of_readHeaders fields
  obtain ⟨rfl, rfl⟩ := eq_append_of_readBody taken
  refine ⟨front ++ body, by rw [List.append_assoc], fun behind => ?_⟩
  rw [List.append_assoc]
  refine bind_eq_ok_iff.mpr ⟨_, read _, ?_⟩
  refine bind_eq_ok_iff.mpr ⟨_, stated, ?_⟩
  exact bind_eq_ok_iff.mpr ⟨_, readBody_append body behind, rfl⟩

/-- **A request is a message of its own**, which is all that is read for it. -/
theorem exists_message_of_read (found : read input = .ok (some (request, rest))) :
    ∃ message, input = message ++ rest ∧
      ∀ behind, read (message ++ behind) = .ok (some (request, behind)) := by
  obtain ⟨line, after, method, uri, opened, parted, read⟩ := read_eq_some_iff.mp found
  have filled : line ≠ [] := by
    rintro rfl
    cases parted
  obtain ⟨first, rfl, lined⟩ := Line.exists_front_of_read_skipEmpty opened filled
  obtain ⟨second, rfl, later⟩ := exists_front_of_readAfterLine read
  refine ⟨first ++ second, by rw [List.append_assoc], fun behind => ?_⟩
  rw [List.append_assoc]
  exact read_eq_some_iff.mpr ⟨line, _, method, uri, lined _, parted, later behind⟩

end Request

end MediaRelay
