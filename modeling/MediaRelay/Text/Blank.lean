import MediaRelay.Text.Basic

/-!
# Blank characters

The characters with Unicode's White_Space property, and trimming by them.
-/

namespace MediaRelay.Text

/-- The ranges of code points with the White_Space property, first and last code point each. -/
def blankRanges : List (Nat × Nat) :=
  [(0x9, 0xD), (0x20, 0x20), (0x85, 0x85), (0xA0, 0xA0), (0x1680, 0x1680), (0x2000, 0x200A),
    (0x2028, 0x2029), (0x202F, 0x202F), (0x205F, 0x205F), (0x3000, 0x3000)]

/-- Whether a character is white space. -/
def isBlank (c : Char) : Bool :=
  blankRanges.any fun range => range.1 ≤ c.toNat && c.toNat ≤ range.2

/-- The text without the blanks at its ends. -/
def trimmed (text : Text) : Text := trimmedOf isBlank text

/-- The text up to the first blank, blanks before it left out. -/
def firstWord (text : Text) : Text :=
  (text.dropWhile isBlank).takeWhile fun c => !isBlank c

/-- A blank at the front is trimmed off. -/
theorem trimmed_cons {c : Char} (blank : isBlank c = true) (text : Text) :
    trimmed (c :: text) = trimmed text := by
  simp [trimmed, trimmedOf, blank]

/-- A text without blanks is left as it is. -/
theorem trimmed_eq_self {text : Text} (solid : ∀ c ∈ text, isBlank c = false) :
    trimmed text = text := by
  have uncut {other : Text} (solid : ∀ c ∈ other, isBlank c = false) :
      other.dropWhile isBlank = other := by
    cases other with
    | nil => rfl
    | cons first rest => exact List.dropWhile_cons_of_neg (by simp [solid first])
  rw [trimmed, trimmedOf, uncut solid, uncut (by simpa using solid), List.reverse_reverse]

/-- Digits are not blank. -/
theorem isBlank_of_isDigit {c : Char} (digit : c.isDigit = true) : isBlank c = false := by
  have low : 48 ≤ c.toNat := by simp [Char.isDigit, UInt32.le_iff_toNat_le] at digit; exact digit.1
  have high : c.toNat ≤ 57 := by simp [Char.isDigit, UInt32.le_iff_toNat_le] at digit; exact digit.2
  simp [isBlank, blankRanges]
  omega

end MediaRelay.Text
