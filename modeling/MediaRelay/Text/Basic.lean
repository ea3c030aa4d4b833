/-!
# Text and bytes

Text is a list of characters and a message a list of bytes, so that whatever reads them recurses
on what it has read. This module holds the operations on text that the message formats share:
comparing without regard to case, cutting at a mark and trimming.
-/

namespace MediaRelay

abbrev Text := List Char

abbrev Bytes := List UInt8

namespace Text

/-- Whether two texts differ at most in the case of their ASCII letters. -/
def sameFolded (left right : Text) : Bool := left.map Char.toLower == right.map Char.toLower

/-- What follows the given lead, if the text begins with it. -/
def after? : (lead : Text) → Text → Option Text
  | [], text => some text
  | _ :: _, [] => none
  | first :: lead, other :: text => if first = other then after? lead text else none

/-- Whether the phrase stands anywhere in the text. -/
def hasPhrase (phrase : Text) : Text → Bool
  | [] => phrase.isEmpty
  | first :: rest => phrase.isPrefixOf (first :: rest) || hasPhrase phrase rest

/-- The text before the first mark and the text after it. -/
def cut? (mark : Char) : Text → Option (Text × Text)
  | [] => none
  | first :: rest =>
    if first = mark then
      some ([], rest)
    else
      (cut? mark rest).map fun halves => (first :: halves.1, halves.2)

/-- The text before the first mark; all of it if there is none. -/
def upTo (mark : Char) (text : Text) : Text := text.takeWhile fun c => c ≠ mark

/-- The pieces between the marks, the empty ones included. -/
def pieces (mark : Char) : Text → List Text
  | [] => [[]]
  | first :: rest =>
    if first = mark then
      [] :: pieces mark rest
    else
      match pieces mark rest with
      | [] => [[first]]
      | piece :: more => (first :: piece) :: more

/-- Removes the characters of a class from both ends. -/
def trimmedOf (drop : Char → Bool) (text : Text) : Text :=
  ((text.dropWhile drop).reverse.dropWhile drop).reverse

@[simp] theorem after?_append (lead text : Text) : after? lead (lead ++ text) = some text := by
  induction lead with
  | nil => rfl
  | cons first lead hypothesis => simpa [after?] using hypothesis

theorem eq_append_of_after? {lead text rest : Text} (found : after? lead text = some rest) :
    text = lead ++ rest := by
  fun_induction after? lead text with
  | case1 text => simpa using found
  | case2 => simp at found
  | case3 lead first text hypothesis => simpa using hypothesis found
  | case4 => simp at found

/-- The first mark is where a text is cut. -/
theorem cut?_eq_some_iff {mark : Char} {text before behind : Text} :
    cut? mark text = some (before, behind) ↔ text = before ++ mark :: behind ∧ mark ∉ before := by
  induction text generalizing before with
  | nil => simp [cut?]
  | cons first rest hypothesis =>
    rw [cut?]
    by_cases same : first = mark
    · subst same
      cases before with
      | nil => simp [eq_comm]
      | cons other before =>
        simp only [reduceIte, List.cons_append, List.cons.injEq, List.mem_cons]
        grind
    · simp only [same, reduceIte, Option.map_eq_some_iff, Prod.exists, Prod.mk.injEq]
      cases before with
      | nil => simp [same]
      | cons other before =>
        simp only [List.cons.injEq, List.cons_append, List.mem_cons, not_or]
        grind

theorem cut?_eq_none_iff {mark : Char} {text : Text} : cut? mark text = none ↔ mark ∉ text := by
  induction text with
  | nil => simp [cut?]
  | cons first rest hypothesis =>
    rw [cut?]
    by_cases same : first = mark
    · simp [same]
    · simp [same, hypothesis, Ne.symm same]

theorem pieces_of_not_mem {mark : Char} {text : Text} (unmarked : mark ∉ text) :
    pieces mark text = [text] := by
  induction text with
  | nil => rfl
  | cons first rest hypothesis =>
    simp only [List.mem_cons, not_or] at unmarked
    simp [pieces, Ne.symm unmarked.1, hypothesis unmarked.2]

/-- The first piece ends at the first mark. -/
theorem pieces_append {mark : Char} {piece : Text} (unmarked : mark ∉ piece) (rest : Text) :
    pieces mark (piece ++ mark :: rest) = piece :: pieces mark rest := by
  induction piece with
  | nil => simp [pieces]
  | cons first piece hypothesis =>
    simp only [List.mem_cons, not_or] at unmarked
    simp [pieces, Ne.symm unmarked.1, hypothesis unmarked.2]

end Text

end MediaRelay
