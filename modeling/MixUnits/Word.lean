import MixUnits.Character
import MixUnits.Notice

/-!
# Machine words

A word is a sign and a magnitude of thirty bits, and the magnitude is five character
fields, the first the most significant.  The sign is kept apart, so there are two
zeros.  Outside the machine a word is a number of thirty-two bits: the sign is the
highest, the magnitude the lowest thirty, and the bit between them is never set.
-/

namespace MixUnits

/-- The sign of a word. -/
inductive Sign where
  | positive
  | negative
  deriving DecidableEq, Repr

/-- A sign and five fields of six bits. -/
@[ext]
structure Word where
  sign : Sign
  magnitude : Nat
  magnitude_lt : magnitude < 0x40000000
  deriving DecidableEq

namespace Word

/-- The positive zero, which fills blank memory and blank media. -/
def zero : Word where
  sign := .positive
  magnitude := 0
  magnitude_lt := by decide

instance : Inhabited Word :=
  ⟨zero⟩

/-- A word of a given sign that keeps the lowest thirty bits of a magnitude. -/
def truncate
    (sign : Sign)
    (magnitude : Nat) :
    Word where
  sign := sign
  magnitude := magnitude % 0x40000000
  magnitude_lt := Nat.mod_lt _ (by decide)

/-- The notice of a magnitude that does not fit into thirty bits. -/
def truncateNotices (magnitude : Nat) : List Notice :=
  if 0x40000000 ≤ magnitude then [.magnitudeTruncated magnitude] else []

/-- The magnitude of five fields. -/
def pack (fields : Fin 5 → Code) : Nat :=
  ((((fields 0).val * 64 + (fields 1).val) * 64 + (fields 2).val) * 64 +
    (fields 3).val) * 64 + (fields 4).val

theorem pack_lt (fields : Fin 5 → Code) : pack fields < 0x40000000 := by
  have first := (fields 0).isLt
  have second := (fields 1).isLt
  have third := (fields 2).isLt
  have fourth := (fields 3).isLt
  have fifth := (fields 4).isLt
  unfold pack
  omega

/-- The positive word of five fields, the most significant first. -/
def ofFields (fields : Fin 5 → Code) : Word where
  sign := .positive
  magnitude := pack fields
  magnitude_lt := pack_lt fields

/-- The field at an index; there is none from the fifth on, and it reads as zero. -/
def field
    (word : Word)
    (index : Nat) :
    Code :=
  if index < 5 then
    ⟨word.magnitude / Nat.pow 64 (4 - index) % 64, Nat.mod_lt _ (by decide)⟩
  else
    Code.blank

/-- The five fields of a word. -/
def fields (word : Word) : Fin 5 → Code :=
  fun index => word.field index.val

/-- The five characters of a word; the sign is not shown. -/
def text (word : Word) : List UInt8 :=
  (List.ofFn word.fields).map Code.toByte

/-- The number that stores a word. -/
def toBits (word : Word) : UInt32 :=
  UInt32.ofNat ((if word.sign = .negative then 0x80000000 else 0) + word.magnitude)

/-- The word that a number stores. -/
def ofBits (bits : UInt32) : Word where
  sign := if 0x80000000 ≤ bits.toNat then .negative else .positive
  magnitude := bits.toNat % 0x40000000
  magnitude_lt := Nat.mod_lt _ (by decide)

@[simp]
theorem length_text (word : Word) : word.text.length = 5 := by
  simp [text]

@[simp]
theorem toNat_toBits (word : Word) :
    word.toBits.toNat =
      (if word.sign = .negative then 0x80000000 else 0) + word.magnitude := by
  have bounded := word.magnitude_lt
  rw [toBits, UInt32.toNat_ofNat', Nat.mod_eq_of_lt]
  split <;> omega

/-- A stored word reads back as it was, also a negative zero. -/
@[simp]
theorem ofBits_toBits (word : Word) : ofBits word.toBits = word := by
  have bounded := word.magnitude_lt
  apply Word.ext
  · simp only [ofBits, toNat_toBits]
    cases signed : word.sign with
    | positive => simp; omega
    | negative => simp
  · simp only [ofBits, toNat_toBits]
    split <;> omega

/-- The fields of a word built from fields are these fields. -/
@[simp]
theorem fields_ofFields (given : Fin 5 → Code) : (ofFields given).fields = given := by
  have first := (given 0).isLt
  have second := (given 1).isLt
  have third := (given 2).isLt
  have fourth := (given 3).isLt
  have fifth := (given 4).isLt
  funext index
  apply Fin.ext
  match index with
  | 0 => change pack given / 64 ^ 4 % 64 = (given 0).val; simp only [pack]; omega
  | 1 => change pack given / 64 ^ 3 % 64 = (given 1).val; simp only [pack]; omega
  | 2 => change pack given / 64 ^ 2 % 64 = (given 2).val; simp only [pack]; omega
  | 3 => change pack given / 64 ^ 1 % 64 = (given 3).val; simp only [pack]; omega
  | 4 => change pack given / 64 ^ 0 % 64 = (given 4).val; simp only [pack]; omega

end Word

end MixUnits
