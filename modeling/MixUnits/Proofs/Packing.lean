import Mathlib.Data.Nat.Bitwise
import MixUnits.Proofs.Characters
import MixUnits.Word.Origin

/-!
# Packing and storing words

A word is packed and stored by shifts and masks on numbers of thirty-two bits: its bytes are
shifted in from the right, its fields are shifted out again, and masks divide sign and
magnitude.  All of it is arithmetic.  A mask of the lowest bits takes a remainder, a shift
divides or multiplies by a power of two, and joining numbers that have no bit in common adds
them.

So nothing is lost on the way: a word comes back from its number and, but for its sign, from
its fields, and a number from its word, but for the one bit that a word does not keep.
-/

namespace MixUnits.Word

/-- A mask of the lowest bits leaves a remainder. -/
theorem toNat_and_mask
    (bits : UInt32)
    {mask : UInt32}
    (count : Nat)
    (lowest : mask.toNat = 2 ^ count - 1) :
    (bits &&& mask).toNat = bits.toNat % 2 ^ count := by
  rw [UInt32.toNat_and, lowest, Nat.and_two_pow_sub_one_eq_mod]

theorem toNat_and_magnitude (bits : UInt32) :
    (bits &&& 0x3FFFFFFF).toNat = bits.toNat % 0x40000000 :=
  toNat_and_mask bits 30 rfl

/-- A mask of one bit finds out whether the bit is set. -/
theorem and_two_pow_eq_zero_iff
    (number place : Nat) :
    number &&& 2 ^ place = 0 ↔ number / 2 ^ place % 2 = 0 := by
  rw [Nat.and_two_pow, Nat.testBit_eq_decide_div_mod_eq]
  rcases Nat.mod_two_eq_zero_or_one (number / 2 ^ place) with low | high
  · simp only [low, Nat.zero_ne_one, decide_false, Bool.toNat_false, Nat.zero_mul]
  · have positive := Nat.two_pow_pos place
    simp only [high, decide_true, Bool.toNat_true, Nat.one_mul, Nat.one_ne_zero, iff_false]
    exact Nat.ne_of_gt positive

section Storage

/-- The sign is stored in the highest bit. -/
theorem and_sign_eq_zero_iff (bits : UInt32) :
    bits &&& 0x80000000 = 0 ↔ bits.toNat < 0x80000000 := by
  have bounded := bits.toNat_lt
  rw [← UInt32.toNat_inj, UInt32.toNat_and]
  change bits.toNat &&& 2 ^ 31 = 0 ↔ _
  rw [and_two_pow_eq_zero_iff]
  omega

/-- A magnitude is reported exactly if it has a bit above the thirty that are kept. -/
theorem truncateNotices_eq_nil_iff (bits : UInt32) :
    truncateNotices bits.toNat = [] ↔ bits &&& ~~~0x3FFFFFFF = 0 := by
  have bounded := bits.toNat_lt
  have upper : (~~~0x3FFFFFFF : UInt32).toNat = 2 ^ 31 ||| 2 ^ 30 := by decide
  have unreported : truncateNotices bits.toNat = [] ↔ bits.toNat < 0x40000000 := by
    rw [truncateNotices, ← Nat.not_le]
    exact ite_eq_right_iff.trans (by simp)
  rw [unreported, ← UInt32.toNat_inj, UInt32.toNat_and, upper, Nat.and_or_distrib_left]
  change _ ↔ _ ||| _ = 0
  rw [Nat.or_eq_zero_iff, and_two_pow_eq_zero_iff, and_two_pow_eq_zero_iff]
  omega

/-- The number of a word is its sign joined with its magnitude. -/
theorem toBits_eq_or (word : Word) :
    word.toBits =
      (if word.sign = .negative then 0x80000000 else 0) ||| UInt32.ofNat word.magnitude := by
  have bounded : word.magnitude < 2 ^ 31 := Nat.lt_trans word.magnitude_lt (by decide)
  have magnitude : (UInt32.ofNat word.magnitude).toNat = word.magnitude := by
    rw [UInt32.toNat_ofNat', Nat.mod_eq_of_lt (Nat.lt_trans bounded (by decide))]
  apply UInt32.toNat_inj.1
  rw [toNat_toBits, UInt32.toNat_or, magnitude]
  split
  · exact Nat.two_pow_add_eq_or_of_lt bounded 1
  · exact (Nat.zero_add _).trans (Nat.zero_or _).symm

/-- Every bit of a stored number but one is kept. -/
theorem toBits_ofBits (bits : UInt32) : (ofBits bits).toBits = bits &&& 0xBFFFFFFF := by
  have bounded := bits.toNat_lt
  have mask : 0xBFFFFFFF = 2 ^ 31 ||| (2 ^ 30 - 1) := by decide
  have low : bits.toNat &&& (2 ^ 30 - 1) = bits.toNat % 2 ^ 30 :=
    Nat.and_two_pow_sub_one_eq_mod bits.toNat 30
  have few : bits.toNat % 2 ^ 30 < 2 ^ 31 :=
    Nat.lt_trans (Nat.mod_lt _ (by decide)) (by decide)
  apply UInt32.toNat_inj.1
  rw [toNat_toBits, UInt32.toNat_and]
  change _ = bits.toNat &&& 0xBFFFFFFF
  rw [mask, Nat.and_or_distrib_left, low, Nat.and_two_pow, Nat.testBit_eq_decide_div_mod_eq]
  by_cases signed : 0x80000000 ≤ bits.toNat
  · have high : bits.toNat / 2 ^ 31 % 2 = 1 := by omega
    have sum := Nat.two_pow_add_eq_or_of_lt few 1
    rw [Nat.mul_one] at sum
    simp only [ofBits, signed, if_true, high, decide_true, Bool.toNat_true, Nat.one_mul]
    exact sum
  · have high : bits.toNat / 2 ^ 31 % 2 = 0 := by omega
    simp only [ofBits, signed, if_false, reduceCtorEq, high, Nat.zero_ne_one, decide_false,
      Bool.toNat_false, Nat.zero_mul, Nat.zero_or, Nat.zero_add]
    rfl

theorem toBits_injective : Function.Injective toBits :=
  Function.LeftInverse.injective ofBits_toBits

end Storage

section Gathering

/-- A word of five fields is built like any other word, and nothing of it is cut off. -/
theorem ofFields_eq_truncate (fields : Fin 5 → Code) :
    ofFields fields = truncate .positive (pack fields) ∧ truncateNotices (pack fields) = [] := by
  have bounded := pack_lt fields
  constructor
  · apply Word.ext
    · rfl
    · exact (Nat.mod_eq_of_lt bounded).symm
  · exact if_neg (Nat.not_le_of_lt bounded)

/-- With room for six more bits, shifting a byte in is adding a digit. -/
theorem toNat_shiftIn
    {bits : UInt32}
    (room : bits.toNat < 0x1000000)
    (byte : UInt8) :
    (shiftIn bits byte).toNat = bits.toNat * 64 + byte.toNat % 64 := by
  have upper : (bits <<< 6).toNat = 2 ^ 6 * bits.toNat := by
    have fits : bits.toNat * 2 ^ 6 < 2 ^ 32 := by omega
    rw [UInt32.toNat_shiftLeft]
    change bits.toNat <<< 6 % 2 ^ 32 = _
    rw [Nat.shiftLeft_eq, Nat.mod_eq_of_lt fits, Nat.mul_comm]
  have lower : (byte.toUInt32 &&& 0x3F).toNat = byte.toNat % 2 ^ 6 := by
    rw [toNat_and_mask _ 6 rfl, UInt8.toNat_toUInt32]
  have few : byte.toNat % 2 ^ 6 < 2 ^ 6 := Nat.mod_lt _ (by decide)
  rw [shiftIn, UInt32.toNat_or, upper, lower, ← Nat.two_pow_add_eq_or_of_lt few, Nat.mul_comm]
  rfl

/-- Up to five bytes find room, and no bit is shifted out at the top. -/
theorem toNat_foldl_shiftIn
    (bytes : List UInt8)
    (count : Nat)
    {bits : UInt32}
    (few : count + bytes.length ≤ 5)
    (bounded : bits.toNat < Nat.pow 64 count) :
    (bytes.foldl shiftIn bits).toNat =
      bytes.foldl (fun total byte => total * 64 + byte.toNat % 64) bits.toNat := by
  -- What was shifted in before has `count` digits, and so the next byte finds room.
  induction bytes generalizing count bits with
  | nil => rfl
  | cons byte rest ih =>
      rw [List.length_cons] at few
      have room : bits.toNat < 0x1000000 :=
        Nat.lt_of_lt_of_le bounded (Nat.pow_le_pow_right (by decide) (by omega : count ≤ 4))
      have next := toNat_shiftIn room byte
      have grown : (shiftIn bits byte).toNat < Nat.pow 64 (count + 1) := by
        have digit : byte.toNat % 64 < 64 := Nat.mod_lt _ (by decide)
        change _ < Nat.pow 64 count * 64
        omega
      rw [List.foldl_cons, List.foldl_cons, ih (count + 1) (by omega) grown, next]

/-- The codes in the lowest six bits of five bytes. -/
def codesOf (bytes : Fin 5 → UInt8) : Fin 5 → Code :=
  fun column => ⟨(bytes column).toNat % 64, Nat.mod_lt _ (by decide)⟩

theorem toNat_gather (bytes : Fin 5 → UInt8) :
    (gather bytes).toNat = pack (codesOf bytes) := by
  have empty : (0 : UInt32).toNat < Nat.pow 64 0 := Nat.zero_lt_one
  rw [gather, toNat_foldl_shiftIn (List.ofFn bytes) 0 (by simp) empty]
  simp only [List.ofFn_succ, List.ofFn_zero, List.foldl_cons, List.foldl_nil]
  rw [UInt32.toNat_zero, Nat.zero_mul, Nat.zero_add]
  rfl

/-- The word of five bytes has their codes as its fields, and nothing is reported. -/
theorem build_bytes (bytes : Fin 5 → UInt8) :
    (Origin.bytes bytes).build = (ofFields (codesOf bytes), []) := by
  rcases ofFields_eq_truncate (codesOf bytes) with ⟨same, silent⟩
  rw [Origin.build, toNat_gather, same, silent]

/-- The five fields of a word as bytes. -/
def fieldBytes (word : Word) : Fin 5 → UInt8 :=
  fun column => UInt8.ofNat (word.fields column).val

theorem codesOf_fieldBytes (word : Word) : codesOf word.fieldBytes = word.fields := by
  funext column
  have few := (word.fields column).isLt
  have byte : (UInt8.ofNat (word.fields column).val).toNat = (word.fields column).val := by
    rw [UInt8.toNat_ofNat', Nat.mod_eq_of_lt (Nat.lt_trans few (by decide))]
  apply Fin.ext
  change (UInt8.ofNat (word.fields column).val).toNat % 64 = _
  rw [byte, Nat.mod_eq_of_lt few]

end Gathering

section Fields

/-- The six bits of a number that a field takes; there are none from the fifth field on. -/
def shiftOut
    (bits : UInt32)
    (index : Nat) :
    UInt32 :=
  if index < 5 then (bits >>> UInt32.ofNat (6 * (4 - index))) &&& 0x3F else 0

theorem toNat_shiftOut
    (bits : UInt32)
    {index : Nat}
    (few : index < 5) :
    (shiftOut bits index).toNat = bits.toNat / Nat.pow 64 (4 - index) % 64 := by
  have places : (UInt32.ofNat (6 * (4 - index))).toNat % 32 = 6 * (4 - index) := by
    have small : 6 * (4 - index) < 32 := by omega
    rw [UInt32.toNat_ofNat', Nat.mod_eq_of_lt (Nat.lt_trans small (by decide)),
      Nat.mod_eq_of_lt small]
  rw [shiftOut, if_pos few, toNat_and_mask _ 6 rfl, UInt32.toNat_shiftRight, places,
    Nat.shiftRight_eq_div_pow, Nat.pow_mul]
  rfl

/-- The bit of the sign stands above all fields and is in none of them. -/
theorem div_pow_mod_of_sign
    (magnitude : Nat)
    {place : Nat}
    (few : place ≤ 4) :
    (0x80000000 + magnitude) / Nat.pow 64 place % 64 =
      magnitude / Nat.pow 64 place % 64 := by
  have factor : 0x80000000 = Nat.pow 64 place * (64 * (0x2000000 / Nat.pow 64 place)) := by
    revert place
    decide
  have positive : 0 < Nat.pow 64 place := Nat.pow_pos (by decide)
  rw [factor, Nat.mul_add_div positive, Nat.mul_add_mod]

/-- Neither is any other bit above the magnitude. -/
theorem mod_div_pow_mod
    (number : Nat)
    {place : Nat}
    (few : place ≤ 4) :
    number % 0x40000000 / Nat.pow 64 place % 64 = number / Nat.pow 64 place % 64 := by
  have factor : 0x40000000 = Nat.pow 64 place * (64 * (0x1000000 / Nat.pow 64 place)) := by
    revert place
    decide
  rw [factor, Nat.mod_mul_right_div_self, Nat.mod_mul_right_mod]

/-- A field can be shifted out of the stored number as it is, with its sign. -/
theorem val_field_eq_shiftOut
    (word : Word)
    (index : Nat) :
    (word.field index).val = (shiftOut word.toBits index).toNat := by
  by_cases few : index < 5
  · rw [toNat_shiftOut _ few, toNat_toBits, field, if_pos few]
    split
    · exact (div_pow_mod_of_sign word.magnitude (Nat.sub_le 4 index)).symm
    · rw [Nat.zero_add]
  · rw [field, shiftOut, if_neg few, if_neg few]
    rfl

theorem val_field
    (word : Word)
    (index : Nat) :
    (word.field index).val =
      if index < 5 then word.magnitude / Nat.pow 64 (4 - index) % 64 else 0 := by
  rw [field]
  split
  · rfl
  · rfl

/-- The characters of a stored word are those of the lowest thirty bits, six at a time. -/
theorem text_ofBits (bits : UInt32) :
    (ofBits bits).text =
      (List.range 5).map fun column =>
        Code.toByte ⟨bits.toNat / Nat.pow 64 (4 - column) % 64, Nat.mod_lt _ (by decide)⟩ := by
  apply List.ext_getElem?
  intro column
  rw [List.getElem?_map]
  by_cases few : column < 5
  · rw [getElem?_text (ofBits bits) ⟨column, few⟩, List.getElem?_range few, Option.map_some]
    refine congrArg (some ∘ Code.toByte) (Fin.ext ?_)
    exact (val_field (ofBits bits) column).trans
      ((if_pos few).trans (mod_div_pow_mod bits.toNat (Nat.sub_le 4 column)))
  · have beyond := Nat.le_of_not_lt few
    rw [List.getElem?_eq_none (by rwa [length_text]),
      List.getElem?_eq_none (by rwa [List.length_range]), Option.map_none]

end Fields

namespace Origin

/-- The number of which a word takes its magnitude. -/
def number : Origin → UInt32
  | .parts _ given => given
  | .bytes given => gather given
  | .bits given => given
  | .nothing => 0

/-- The sign that a word takes, which bytes do not have. -/
def sign : Origin → Sign
  | .parts given _ => given
  | .bits given => if given &&& 0x80000000 = 0 then .positive else .negative
  | .bytes _ | .nothing => .positive

/-- Whatever a word is built of, its magnitude is what a mask leaves of a number. -/
theorem build_eq (origin : Origin) :
    origin.build.1.sign = origin.sign ∧
      origin.build.1.magnitude = (origin.number &&& 0x3FFFFFFF).toNat := by
  rw [toNat_and_magnitude]
  cases origin with
  | parts sign given => exact ⟨rfl, rfl⟩
  | bytes given => exact ⟨rfl, rfl⟩
  | bits given =>
      refine ⟨?_, rfl⟩
      simp only [build, ofBits, sign, and_sign_eq_zero_iff, ← Nat.not_le, ite_not]
  | nothing => exact ⟨rfl, rfl⟩

end Origin

/--
Whatever a word is built of, its magnitude is a number cut to thirty bits by a mask, and a
magnitude that is given is reported exactly if it is cut.  A word comes back from the number
that stores it, which joins its sign to its magnitude, and no other word has this number; a
number comes back from its word but for the bit below the sign.  The fields of a word make the
word again without its sign, and five bytes become the fields of their word modulo sixty-four,
without a report.  A field is a digit of the magnitude to the base sixty-four, which can be
shifted out of the stored number; from the fifth on it is zero.
-/
theorem packing_is_lossless
    (origin : Origin)
    (word other : Word)
    (bytes : Fin 5 → UInt8)
    (bits : UInt32)
    (index : Nat) :
    let built := origin.build.1
    let gathered := (Origin.bytes bytes).build
    (built.sign = origin.sign ∧
      built.magnitude = (origin.number &&& 0x3FFFFFFF).toNat ∧
        built.magnitude < 0x40000000) ∧
    ((Origin.parts word.sign bits).build.2 = [] ↔ bits &&& ~~~0x3FFFFFFF = 0) ∧
    (word.toBits =
        (if word.sign = .negative then 0x80000000 else 0) ||| UInt32.ofNat word.magnitude ∧
      ofBits word.toBits = word ∧ (ofBits bits).toBits = bits &&& ~~~0x40000000) ∧
    (word = other ↔ word.toBits = other.toBits) ∧
    (Origin.bytes word.fieldBytes).build = (word.unsigned, []) ∧
    ((∀ column, (gathered.1.fields column).val = (bytes column).toNat % 64) ∧
      gathered.1.sign = .positive ∧ gathered.2 = []) ∧
    ((word.field index).val =
        (if index < 5 then word.magnitude / Nat.pow 64 (4 - index) % 64 else 0) ∧
      (word.field index).val = (shiftOut word.toBits index).toNat) := by
  intro built gathered
  rcases origin.build_eq with ⟨sign, magnitude⟩
  have again : (Origin.bytes word.fieldBytes).build = (word.unsigned, []) := by
    rw [build_bytes, codesOf_fieldBytes, ofFields_fields]
  have made : gathered = (ofFields (codesOf bytes), []) := build_bytes bytes
  refine
    ⟨⟨sign, magnitude, built.magnitude_lt⟩, truncateNotices_eq_nil_iff bits,
      ⟨word.toBits_eq_or, word.ofBits_toBits, toBits_ofBits bits⟩, toBits_injective.eq_iff.symm,
      again, ?_, word.val_field index, word.val_field_eq_shiftOut index⟩
  rw [made]
  refine ⟨fun column => ?_, rfl, rfl⟩
  rw [fields_ofFields]
  rfl

-- A byte above the codes loses its highest bits, and the first byte is the first field.
example : [1, 2, 3, 4, 0x45].foldl shiftIn 0 = 0x1083105 := by decide

end MixUnits.Word
