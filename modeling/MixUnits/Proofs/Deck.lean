import MixUnits.Proofs.Card

/-!
# A deck that is read card by card

A reader takes the cards of its deck in the order of their numbers, whether or not they can be
read, and of all files it looks at the one with the number only.  Whatever is in this file, each
word has its place: the characters of the words before it come first, and a separator behind
every fourth of them but the first.  A place behind the end of the file is blank, and so is one
with a byte that has no code.
-/

namespace MixUnits

namespace Card

/-- The number of separators on a card before the word at an index. -/
def separatorsBefore (index : Nat) : Nat :=
  (index - 1) / 4

theorem separatorsBefore_succ (index : Nat) :
    separatorsBefore (index + 1) =
      separatorsBefore index + if endsGroup index then 1 else 0 := by
  rw [separatorsBefore, separatorsBefore, endsGroup]
  cases index with
  | zero => rfl
  | succ index =>
      by_cases group : (index + 1) % 4 = 0
      · simp only [group, Nat.succ_pos, decide_true, Bool.and_self, if_true]
        omega
      · simp only [group, decide_false, Bool.and_false, Bool.false_eq_true, if_false]
        omega

theorem separatorsBefore_le
    (start index : Nat) :
    separatorsBefore start ≤ separatorsBefore (start + index) :=
  Nat.div_le_div_right (Nat.sub_le_sub_right (Nat.le_add_right start index) 1)

/-- The code that is read at a place of a card. -/
def codeAt
    (characters : List UInt8)
    (place : Nat) :
    Code :=
  (characters[place]?.bind Code.ofByte?).getD Code.blank

theorem codeAt_eq
    (characters : List UInt8)
    (place : Nat) :
    codeAt characters place =
      (characters[place]?.map Code.ofByteOrBlank).getD Code.blank := by
  rw [codeAt]
  cases characters[place]? with
  | none => rfl
  | some byte => rfl

/-- Every word is found behind the characters of the words before it and their separators. -/
theorem getElem?_decodeFrom
    (start : Nat)
    (characters : List UInt8)
    {index count : Nat}
    (within : index < count) :
    (decodeFrom start count characters)[index]? =
      some
        (Word.ofFields fun column =>
          codeAt characters
            (5 * index + column.val +
              (separatorsBefore (start + index) - separatorsBefore start))) := by
  induction count generalizing start characters index with
  | zero => contradiction
  | succ count ih =>
      rw [decodeFrom]
      cases index with
      | zero =>
          refine congrArg (some ∘ Word.ofFields) (funext fun column => ?_)
          rw [Nat.add_zero, Nat.sub_self, Nat.mul_zero, Nat.zero_add, Nat.add_zero, codeAt_eq]
      | succ index =>
          rw [List.getElem?_cons_succ, ih (start + 1) _ (Nat.lt_of_succ_lt_succ within)]
          refine congrArg (some ∘ Word.ofFields) (funext fun column => ?_)
          have before := separatorsBefore_succ start
          have ascending := separatorsBefore_le (start + 1) index
          rw [Nat.add_right_comm, Nat.add_assoc] at ascending
          rw [codeAt, codeAt, List.getElem?_drop, Nat.add_right_comm start 1, Nat.add_assoc start]
          congr 3
          cases group : endsGroup start with
          | true =>
              rw [group, if_pos rfl] at before
              rw [if_pos rfl]
              omega
          | false =>
              rw [group, if_neg Bool.false_ne_true] at before
              rw [if_neg Bool.false_ne_true]
              omega

theorem getElem?_decode
    (characters : List UInt8)
    {index count : Nat}
    (within : index < count) :
    (decode count characters)[index]? =
      some
        (Word.ofFields fun column =>
          codeAt characters (5 * index + column.val + separatorsBefore index)) := by
  rw [decode, getElem?_decodeFrom 0 characters within, Nat.zero_add]
  rfl

/-- A word of a card is positive, and its fields stand where they were looked for. -/
theorem exists_getElem?_decode
    (contents : Array UInt8)
    {index count : Nat}
    (within : index < count) :
    ∃ word,
      (decode count contents.toList)[index]? = some word ∧
        word.sign = .positive ∧
          ∀ column,
            column < 5 →
              word.field column =
                (contents[5 * index + column + (index - 1) / 4]?.bind
                  Code.ofByte?).getD Code.blank := by
  refine ⟨_, getElem?_decode contents.toList within, rfl, ?_⟩
  intro column inside
  have read :=
    Word.field_ofFields
      (fun column =>
        codeAt contents.toList (5 * index + column.val + separatorsBefore index))
      ⟨column, inside⟩
  rwa [codeAt, Array.getElem?_toList] at read

/-- Cards of different numbers have files of different names. -/
theorem path_injective
    (deck : String)
    {card other : Nat}
    (same : path deck card = path deck other) :
    card = other := by
  have spelled : toString card = toString other :=
    (String.append_right_inj deck).1 ((String.append_left_inj ".card").1 same)
  have digits : Nat.toDigits 10 card = Nat.toDigits 10 other := by
    rw [← Nat.toList_repr, ← Nat.toList_repr]
    exact congrArg String.toList spelled
  calc
    card = Nat.ofDigitChars 10 (Nat.toDigits 10 card) 0 :=
      Nat.ofDigitChars_ten_toDigits.symm
    _ = Nat.ofDigitChars 10 (Nat.toDigits 10 other) 0 := by rw [digits]
    _ = other := Nat.ofDigitChars_ten_toDigits

end Card

namespace CardReader

/-- An input that is asked of a reader, with the files as they are then. -/
structure Call where
  now : UInt64
  files : FileSystem
  buffer : Buffer

/-- A reader after some inputs. -/
def inputs
    (reader : CardReader)
    (calls : List Call) :
    CardReader :=
  calls.foldl (fun reader call => (reader.input call.now call.files call.buffer).unit) reader

variable (reader : CardReader)

/-- As many cards are behind a reader as there were inputs. -/
theorem unit_inputs (calls : List Call) :
    (reader.inputs calls).deck = reader.deck ∧
      (reader.inputs calls).store.cursor = reader.store.cursor + calls.length := by
  induction calls generalizing reader with
  | nil => exact ⟨rfl, rfl⟩
  | cons call rest ih =>
      rcases reader.unit_input call.now call.files call.buffer with ⟨-, deck, cursor⟩
      rcases ih (reader.input call.now call.files call.buffer).unit with ⟨sameDeck, further⟩
      refine ⟨sameDeck.trans deck, further.trans ?_⟩
      rw [cursor, List.length_cons, Nat.add_assoc, Nat.add_comm 1]

/-- Only the file of the next card matters to an input. -/
theorem input_of_same_card
    {files others : FileSystem}
    (same :
      others.read (Card.path reader.deck reader.store.cursor) =
        files.read (Card.path reader.deck reader.store.cursor))
    (now : UInt64)
    (buffer : Buffer) :
    reader.input now others buffer = reader.input now files buffer := by
  rw [input, input, same]

/--
The inputs of a new reader take the cards of its deck in order, one each, and the reader is
behind the last of them whether or not they could be read.  An input looks at no file but that
of its card, whose name has the number of the card and which no other input looks at.  If the
file cannot be read the buffer is left alone.  Otherwise, whatever is in the file, each of the
first sixteen words of the buffer becomes a positive word with the codes that are at its places,
and blanks where there is no byte or one without a code; the words behind them are left alone.
-/
theorem inputs_read_deck_by_position
    (deck : String)
    (calls : List Call)
    (call : Call) :
    let name (card : Nat) := deck ++ String.ofList (Nat.toDigits 10 card) ++ ".card"
    let path := name calls.length
    let reader := (mount deck).inputs calls
    let received := reader.input call.now call.files call.buffer
    reader.store.cursor = calls.length ∧
    received.unit = (mount deck).inputs (calls ++ [call]) ∧
    received.accepted = true ∧
    (∀ others : FileSystem,
      others.read path = call.files.read path →
        reader.input call.now others call.buffer = received) ∧
    (∀ card, name card = path → card = calls.length) ∧
    received.buffer.size = call.buffer.size ∧
    (∀ cause, call.files.read path = .error cause → received.buffer = call.buffer) ∧
    ∀ contents,
      call.files.read path = .ok contents →
        (∀ index,
          index < min call.buffer.size 16 →
            ∃ word,
              received.buffer[index]? = some word ∧
              word.sign = .positive ∧
              ∀ column,
                column < 5 →
                  word.field column =
                    (contents[5 * index + column + (index - 1) / 4]?.bind
                      Code.ofByte?).getD Code.blank) ∧
        ∀ index, 16 ≤ index → received.buffer[index]? = call.buffer[index]? := by
  intro name path reader received
  rcases (mount deck).unit_inputs calls with ⟨sameDeck, passed⟩
  have cursor : reader.store.cursor = calls.length := passed.trans (Nat.zero_add _)
  have here : Card.path reader.deck reader.store.cursor = path := by
    rw [cursor]
    exact congrArg (Card.path · calls.length) sameDeck
  have size : received.buffer.size = call.buffer.size := by
    cases read : call.files.read path with
    | ok contents =>
        rw [(input_of_read (here ▸ read) call.now call.buffer).2, Buffer.size_overlay]
    | error cause => rw [buffer_input_of_unread (here ▸ read)]
  refine ⟨cursor, ?_, (reader.unit_input _ _ _).1, ?_, ?_, size, ?_, ?_⟩
  · rw [inputs, List.foldl_append]
    rfl
  · intro others same
    exact reader.input_of_same_card (here ▸ same) call.now call.buffer
  · intro card same
    exact Card.path_injective deck same
  · intro cause unread
    exact buffer_input_of_unread (here ▸ unread) call.now call.buffer
  · intro contents read
    refine ⟨?_, ?_⟩
    · intro index within
      rcases Nat.lt_min.1 within with ⟨held, few⟩
      rw [getElem?_buffer_input (here ▸ read) call.now held, if_pos few]
      exact Card.exists_getElem?_decode contents within
    · intro index beyond
      exact getElem?_buffer_input_of_le (here ▸ read) call.now beyond

end CardReader

end MixUnits
