/-!
# Character codes

A MIX character is a code of six bits.  The codes 0 to 55 have a printed form, one
byte each; the codes 56 to 63 have none and print as a question mark.  Delta, sigma
and pi have no byte of their own and are written as a tilde and square brackets.

Reading a byte folds small letters into capitals, so `ofByte?` is a left inverse of
`toByte` on the codes that have a form.
-/

namespace MixUnits

/-- A character code, a field of six bits. -/
abbrev Code := Fin 64

namespace Code

/-- The code of the blank character. -/
def blank : Code := 0

/-- The code that stands for the absence of a character. -/
def absent : Code := 63

/-- The characters of the codes 0 to 55, in order of code. -/
def characters : List Char :=
  [' ', 'A', 'B', 'C', 'D', 'E', 'F', 'G', 'H', 'I',
    '~', 'J', 'K', 'L', 'M', 'N', 'O', 'P', 'Q', 'R',
    '[', ']', 'S', 'T', 'U', 'V', 'W', 'X', 'Y', 'Z',
    '0', '1', '2', '3', '4', '5', '6', '7', '8', '9',
    '.', ',', '(', ')', '+', '-', '*', '/', '=', '$',
    '<', '>', '@', ';', ':', Char.ofNat 39]

/-- The bytes of the codes 0 to 55, in order of code. -/
def forms : List UInt8 :=
  characters.map fun character => character.toNat.toUInt8

/-- The byte printed for a code without a form, a question mark. -/
def unassignedForm : UInt8 := 63

/-- The byte printed for a code. -/
def toByte (code : Code) : UInt8 :=
  forms[code.val]?.getD unassignedForm

/-- Small letters become capitals, every other byte stays. -/
def foldCase (byte : UInt8) : UInt8 :=
  if 97 ≤ byte ∧ byte ≤ 122 then byte - 32 else byte

/-- The code of a byte, if it has one. -/
def ofByte? (byte : UInt8) : Option Code :=
  (forms.idxOf? (foldCase byte)).map (Fin.ofNat 64)

/-- The code of a byte, with `absent` for a byte that has none. -/
def ofByte (byte : UInt8) : Code :=
  (ofByte? byte).getD absent

/-- The code of a byte, read as a blank when it has none. -/
def ofByteOrBlank (byte : UInt8) : Code :=
  (ofByte? byte).getD blank

@[simp]
theorem length_forms : forms.length = 56 := by
  decide

/-- A code with a form reads back from its byte. -/
theorem ofByte?_toByte
    {code : Code}
    (formed : code.val < 56) :
    ofByte? (toByte code) = some code := by
  revert code
  decide

/-- A code without a form prints as a byte without a code. -/
theorem ofByte?_toByte_of_unformed
    {code : Code}
    (unformed : 56 ≤ code.val) :
    ofByte? (toByte code) = none := by
  revert code
  decide

end Code

end MixUnits
