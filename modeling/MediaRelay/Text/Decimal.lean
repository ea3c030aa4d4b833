import MediaRelay.Text.Basic

/-!
# Decimal numbers

Numbers are written with the fewest digits. They are read more freely: a plus sign may stand
before the digits and zeros may lead them, but the value has to stay within a limit.
-/

namespace MediaRelay.Decimal

/-- The digits of a number. -/
def digits (number : Nat) : Text := Nat.toDigits 10 number

/-- The number that a list of digits spells. -/
def value (text : Text) : Nat := Nat.ofDigitChars 10 text 0

/-- Drops one plus sign. -/
def unsigned : Text → Text
  | '+' :: rest => rest
  | text => text

/-- Reads a number up to a limit: an optional plus sign and at least one digit. -/
def read? (limit : Nat) (text : Text) : Option Nat :=
  let spelled := unsigned text
  if spelled ≠ [] ∧ spelled.all Char.isDigit ∧ value spelled ≤ limit then
    some (value spelled)
  else
    none

theorem isDigit_of_mem_digits {number : Nat} {c : Char} (member : c ∈ digits number) :
    c.isDigit = true :=
  Nat.isDigit_of_mem_toDigits (by decide) (by decide) member

@[simp] theorem value_digits (number : Nat) : value (digits number) = number :=
  Nat.ofDigitChars_toDigits (by decide) (by decide)

theorem unsigned_digits (number : Nat) : unsigned (digits number) = digits number := by
  have noSign : '+' ∉ digits number := fun member => by
    simpa using isDigit_of_mem_digits member
  unfold unsigned
  split
  · rename_i rest spelled
    simp [spelled] at noSign
  · rfl

/-- A number within the limit is read back. -/
theorem read?_digits {limit number : Nat} (within : number ≤ limit) :
    read? limit (digits number) = some number := by
  have digitsOnly : (digits number).all Char.isDigit = true :=
    List.all_eq_true.mpr fun _ => isDigit_of_mem_digits
  have someDigit : digits number ≠ [] := Nat.toDigits_ne_nil
  simp [read?, unsigned_digits, digitsOnly, someDigit, within]

end MediaRelay.Decimal
