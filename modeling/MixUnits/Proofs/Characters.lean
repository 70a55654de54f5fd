import MixUnits.Word

/-!
# Characters that come back

A byte that has a code is the form of this code, but for the case of a letter, and the
form of a code that has one leads back to it.  So printed words can be read again; what
is lost is the sign, and a code without a form comes back as a blank.
-/

namespace MixUnits

/-- Where every item gives as many characters, those of an item are found by its index. -/
theorem getElem?_flatMap_of_length
    {α β : Type}
    {characters : α → List β}
    {size place : Nat}
    (sized : ∀ item, (characters item).length = size)
    (within : place < size)
    (items : List α)
    (index : Nat) :
    (items.flatMap characters)[size * index + place]? =
      items[index]?.bind fun item => (characters item)[place]? := by
  induction items generalizing index with
  | nil => rfl
  | cons first rest ih =>
      rw [List.flatMap_cons]
      cases index with
      | zero =>
          rw [Nat.mul_zero, Nat.zero_add, List.getElem?_append_left (sized first ▸ within)]
          rfl
      | succ index =>
          have place_eq : size * (index + 1) + place = size + (size * index + place) := by
            rw [Nat.mul_succ, Nat.add_comm (size * index), Nat.add_assoc]
          rw [place_eq, List.getElem?_append_right (sized first ▸ Nat.le_add_right _ _),
            sized first, Nat.add_sub_cancel_left, ih, List.getElem?_cons_succ]

theorem length_flatMap_of_length
    {α β : Type}
    {characters : α → List β}
    {size : Nat}
    (sized : ∀ item, (characters item).length = size)
    (items : List α) :
    (items.flatMap characters).length = size * items.length := by
  induction items with
  | nil => rfl
  | cons first rest ih =>
      rw [List.flatMap_cons, List.length_append, sized, ih, List.length_cons, Nat.mul_succ,
        Nat.add_comm]

namespace Code

/-- A byte has a code only if the code has a form, which is the byte as a capital. -/
theorem toByte_of_ofByte?
    {byte : UInt8}
    {code : Code}
    (coded : ofByte? byte = some code) :
    code.val < 56 ∧ toByte code = foldCase byte := by
  rw [ofByte?, Option.map_eq_some_iff] at coded
  rcases coded with ⟨index, found, rfl⟩
  rcases List.idxOf?_eq_some_iff.1 found with ⟨within, form, -⟩
  have formed : index < 56 := by simpa using within
  have index_eq : (Fin.ofNat 64 index).val = index :=
    Nat.mod_eq_of_lt (Nat.lt_trans formed (by decide))
  refine ⟨index_eq.symm ▸ formed, ?_⟩
  rw [toByte, index_eq, List.getElem?_eq_getElem within, form, Option.getD_some]

/-- What is read for a byte is a code that has a form. -/
theorem ofByteOrBlank_lt (byte : UInt8) : (ofByteOrBlank byte).val < 56 := by
  rw [ofByteOrBlank]
  cases read : ofByte? byte with
  | none => decide
  | some code => exact (toByte_of_ofByte? read).1

/-- A code without a form is replaced by a blank. -/
def formedOrBlank (code : Code) : Code :=
  if code.val < 56 then code else blank

theorem formedOrBlank_of_lt
    {code : Code}
    (formed : code.val < 56) :
    code.formedOrBlank = code :=
  if_pos formed

@[simp]
theorem ofByteOrBlank_toByte (code : Code) :
    ofByteOrBlank (toByte code) = code.formedOrBlank := by
  rw [ofByteOrBlank, formedOrBlank]
  by_cases formed : code.val < 56
  · rw [if_pos formed, ofByte?_toByte formed, Option.getD_some]
  · rw [if_neg formed, ofByte?_toByte_of_unformed (Nat.le_of_not_lt formed),
      Option.getD_none]

/-- No code is printed as a line feed. -/
theorem toByte_ne_lineFeed (code : Code) : toByte code ≠ 10 := by
  revert code
  decide

/-- Only the blank is read as a blank character. -/
theorem ofByte?_eq_some_blank_iff (byte : UInt8) :
    ofByte? byte = some blank ↔ byte = 32 := by
  constructor
  · intro read
    have form : foldCase byte = 32 := (toByte_of_ofByte? read).2.symm
    rw [foldCase] at form
    split at form
    · next small =>
      have capital : byte = 64 := by
        rw [← UInt8.sub_add_cancel byte 32, form]
        rfl
      rw [capital] at small
      exact absurd small (by decide)
    · exact form
  · rintro rfl
    decide

end Code

namespace Word

/-- The same word without its sign. -/
def unsigned (word : Word) : Word :=
  { word with sign := .positive }

/-- Every field of a word is a code with a form. -/
def IsFormed (word : Word) : Prop :=
  ∀ column, (word.fields column).val < 56

instance (word : Word) : Decidable word.IsFormed :=
  inferInstanceAs (Decidable (∀ column : Fin 5, (word.fields column).val < 56))

/-- What can be read of a printed word: no sign, and blanks for the codes without a form. -/
def legible (word : Word) : Word :=
  ofFields fun column => (word.fields column).formedOrBlank

theorem ofFields_blank : ofFields (fun _ => Code.blank) = zero :=
  rfl

theorem ofFields_eq_zero_iff (fields : Fin 5 → Code) :
    ofFields fields = zero ↔ ∀ column, fields column = Code.blank := by
  constructor
  · intro same column
    have alike := congrArg Word.fields (same.trans ofFields_blank.symm)
    rw [fields_ofFields, fields_ofFields] at alike
    exact congrFun alike column
  · intro blank
    rw [← ofFields_blank]
    exact congrArg ofFields (funext blank)

/-- The fields of a word make up its magnitude. -/
theorem ofFields_fields (word : Word) : ofFields word.fields = word.unsigned := by
  have bounded := word.magnitude_lt
  have packed :
      pack word.fields =
        (((word.magnitude / 16777216 % 64 * 64 + word.magnitude / 262144 % 64) * 64 +
          word.magnitude / 4096 % 64) * 64 + word.magnitude / 64 % 64) * 64 +
            word.magnitude / 1 % 64 :=
    rfl
  apply Word.ext
  · rfl
  · change pack word.fields = word.magnitude
    omega

/-- Of a word whose fields all have forms nothing is lost but the sign. -/
theorem legible_of_isFormed
    {word : Word}
    (formed : word.IsFormed) :
    word.legible = word.unsigned := by
  rw [legible, ← ofFields_fields]
  exact congrArg ofFields (funext fun column => Code.formedOrBlank_of_lt (formed column))

theorem field_ofFields
    (given : Fin 5 → Code)
    (column : Fin 5) :
    (ofFields given).field column.val = given column :=
  congrFun (fields_ofFields given) column

/-- The characters of a word are the forms of its fields. -/
theorem getElem?_text
    (word : Word)
    (column : Fin 5) :
    word.text[column.val]? = some (Code.toByte (word.fields column)) := by
  rw [text, List.getElem?_map, List.getElem?_ofFn, dif_pos column.isLt, Option.map_some]

theorem length_flatMap_text (words : List Word) :
    (words.flatMap text).length = 5 * words.length :=
  length_flatMap_of_length length_text words

theorem lineFeed_not_mem_flatMap_text (words : List Word) : 10 ∉ words.flatMap text := by
  intro member
  rcases List.mem_flatMap.1 member with ⟨word, -, character⟩
  rcases List.mem_map.1 character with ⟨code, -, printed⟩
  exact Code.toByte_ne_lineFeed code printed

/-- The characters of some words are those of their fields, in order. -/
theorem getElem?_flatMap_text
    (words : List Word)
    (index : Nat)
    {column : Nat}
    (within : column < 5) :
    (words.flatMap text)[5 * index + column]? =
      words[index]?.map fun word => Code.toByte (word.field column) := by
  rw [getElem?_flatMap_of_length length_text within]
  cases words[index]? with
  | none => rfl
  | some word => exact getElem?_text word ⟨column, within⟩

/-- A word without a sign that holds forms only is legible as it is. -/
theorem legible_ofFields
    {fields : Fin 5 → Code}
    (formed : ∀ column, (fields column).val < 56) :
    (ofFields fields).legible = ofFields fields := by
  have whole : (ofFields fields).IsFormed := by
    rw [IsFormed, fields_ofFields]
    exact formed
  exact legible_of_isFormed whole

end Word

end MixUnits
