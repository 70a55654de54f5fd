/-!
# Decimal numbers

A count is written as decimal digits, after at most one plus sign, and stays below
the largest machine word of sixty-four bits.  Leading zeros are allowed; anything
else is no number.
-/

namespace MixUnits.Text.Decimal

/-- One more than the largest number that can be written. -/
def bound : Nat := 0x10000000000000000

/-- The digits after an optional plus sign. -/
def unsigned : List Char → List Char
  | '+' :: digits => digits
  | digits => digits

/-- The value of a character as a decimal digit. -/
def digit? (character : Char) : Option Nat :=
  if '0' ≤ character ∧ character ≤ '9' then
    some (character.toNat - '0'.toNat)
  else
    none

/-- The value of a list of decimal digits. -/
def value (digits : List Nat) : Nat :=
  digits.foldl (fun total digit => total * 10 + digit) 0

/-- The number a text writes, if it writes one below `bound`. -/
def read? (text : String) : Option Nat :=
  match (unsigned text.toList).mapM digit? with
  | none | some [] => none
  | some digits => if value digits < bound then some (value digits) else none

end MixUnits.Text.Decimal
