import Mathlib.Data.List.Basic
import MixUnits.Device.Card
import MixUnits.Proofs.Characters
import MixUnits.Proofs.Replacement

/-!
# Cards that are punched and read

Punch and reader agree on the format of a card.  The punch writes the words one after
the other, with a separator behind three of them, and a reader of the same deck finds
every word again, as far as it is legible; words that were not punched are read as
zeros.  What a reader has read is legible, whatever the card, so it survives any number
of copies.
-/

namespace MixUnits

namespace Card

/-- The characters of some words, with one separator after each of the words 4, 8 and 12. -/
def layout (words : List Word) : List UInt8 :=
  words.zipIdx.flatMap fun (word, index) =>
    word.text ++ if index ∈ [4, 8, 12] then [separator] else []

/-- The word at an index of a card on which some words were punched, as it is read. -/
def readBack
    (words : List Word)
    (index : Nat) :
    Word :=
  match words[index]? with
  | some word => word.legible
  | none => .zero

theorem sign_readBack
    (words : List Word)
    (index : Nat) :
    (readBack words index).sign = .positive := by
  rw [readBack]
  split
  · rfl
  · rfl

/-- A code without a form is read as a blank, and so is what was not punched. -/
theorem field_readBack
    (words : List Word)
    (index : Nat)
    {column : Nat}
    (inside : column < 5) :
    (readBack words index).field column =
      match words[index]? with
      | some word =>
          if (word.field column).val < 56 then word.field column else Code.blank
      | none => Code.blank := by
  rw [readBack]
  cases words[index]? with
  | none =>
      rw [← Word.ofFields_blank]
      exact Word.field_ofFields (fun _ => Code.blank) ⟨column, inside⟩
  | some word =>
      exact Word.field_ofFields (fun column => (word.fields column).formedOrBlank) ⟨column, inside⟩

theorem path_zero (deck : String) : path deck 0 = deck ++ "0.card" := by
  rw [path, String.append_assoc]
  rfl

theorem endsGroup_iff
    {index : Nat}
    (within : index < geometry.blockSize) :
    endsGroup index = true ↔ index ∈ [4, 8, 12] := by
  revert index
  decide

theorem encodeFrom_eq_flatMap
    (index : Nat)
    (words : List Word) :
    encodeFrom index words =
      (words.zipIdx index).flatMap fun (word, index) =>
        word.text ++ if endsGroup index then [separator] else [] := by
  induction words generalizing index with
  | nil => rfl
  | cons word rest ih => rw [encodeFrom, ih, List.zipIdx_cons, List.flatMap_cons]

/-- The words of one card are punched as they are laid out. -/
theorem encode_eq_layout
    {words : List Word}
    (few : words.length ≤ geometry.blockSize) :
    encode words = layout words := by
  rw [encode, encodeFrom_eq_flatMap, layout]
  apply List.flatMap_congr
  rintro ⟨word, index⟩ member
  have within : index < words.length := List.snd_lt_of_mem_zipIdx member
  simp only [endsGroup_iff (Nat.lt_of_lt_of_le within few)]

theorem decodeFrom_nil
    (index count : Nat) :
    decodeFrom index (count + 1) [] = .zero :: decodeFrom (index + 1) count [] := by
  rw [decodeFrom, List.drop_nil, ← Word.ofFields_blank]
  rfl

/-- The first word is found at the beginning, and the others behind its separator, if any. -/
theorem decodeFrom_encodeFrom_cons
    (index count : Nat)
    (word : Word)
    (rest : List Word) :
    decodeFrom index (count + 1) (encodeFrom index (word :: rest)) =
      word.legible :: decodeFrom (index + 1) count (encodeFrom (index + 1) rest) := by
  rw [decodeFrom, List.cons_eq_cons]
  constructor
  · rw [Word.legible]
    refine congrArg Word.ofFields (funext fun column => ?_)
    have within : column.val < word.text.length := by simp
    rw [encodeFrom, List.append_assoc, List.getElem?_append_left within,
      Word.getElem?_text, Option.map_some, Option.getD_some, Code.ofByteOrBlank_toByte]
  · refine congrArg (decodeFrom (index + 1) count) ?_
    rw [encodeFrom]
    apply List.drop_left'
    cases endsGroup index <;> simp

/-- What was punched is read back, each word in its place. -/
theorem getElem?_decodeFrom_encodeFrom
    (start : Nat)
    (words : List Word)
    {index count : Nat}
    (within : index < count) :
    (decodeFrom start count (encodeFrom start words))[index]? =
      some (readBack words index) := by
  induction count generalizing start words index with
  | zero => contradiction
  | succ count ih =>
      cases words with
      | nil =>
          rw [encodeFrom, decodeFrom_nil]
          cases index with
          | zero => rfl
          | succ index => exact ih (start + 1) [] (Nat.lt_of_succ_lt_succ within)
      | cons word rest =>
          rw [decodeFrom_encodeFrom_cons]
          cases index with
          | zero => rfl
          | succ index => exact ih (start + 1) rest (Nat.lt_of_succ_lt_succ within)

/-- What is read from a card has no signs and no codes without a form. -/
theorem legible_of_mem_decodeFrom
    {start count : Nat}
    {characters : List UInt8}
    {word : Word}
    (member : word ∈ decodeFrom start count characters) :
    word.legible = word := by
  induction count generalizing start characters with
  | zero => contradiction
  | succ count ih =>
      rw [decodeFrom, List.mem_cons] at member
      rcases member with rfl | later
      · apply Word.legible_ofFields
        intro column
        cases characters[column.val]? with
        | none => decide
        | some byte => exact Code.ofByteOrBlank_lt byte
      · exact ih later

/-- A full card of words that were read from a card is read as these words. -/
theorem decode_layout_decode (characters : List UInt8) :
    decode 16 (layout (decode 16 characters)) = decode 16 characters := by
  have length := length_decode 16 characters
  rw [← encode_eq_layout (Nat.le_of_eq length)]
  apply List.ext_getElem?
  intro index
  by_cases within : index < 16
  · have held : index < (decode 16 characters).length := length.symm ▸ within
    have member := List.getElem_mem held
    have kept : readBack (decode 16 characters) index = (decode 16 characters)[index] := by
      simp only [readBack, List.getElem?_eq_getElem held]
      exact legible_of_mem_decodeFrom member
    rw [List.getElem?_eq_getElem held, ← kept]
    exact getElem?_decodeFrom_encodeFrom 0 _ within
  · rw [List.getElem?_eq_none, List.getElem?_eq_none]
    · exact length.symm ▸ Nat.le_of_not_lt within
    · exact (length_decode 16 _).symm ▸ Nat.le_of_not_lt within

end Card

namespace CardPunch

/-- What is done with a card punch, and what becomes of the files around it. -/
inductive Act where
  | punch (now : UInt64) (buffer : Buffer)
  | change (files : FileSystem)

/-- A card punch and the files around it. -/
structure Situation where
  unit : CardPunch
  files : FileSystem

/-- A card punch among files after one more act. -/
def act
    (situation : Situation) :
    Act → Situation
  | .punch now buffer =>
    let sent := situation.unit.output now situation.files buffer
    ⟨sent.unit, sent.files⟩
  | .change files => { situation with files := files }

/-- A new card punch among files after some acts. -/
def replay
    (files : FileSystem)
    (deck : String)
    (acts : List Act) :
    Situation :=
  acts.foldl act ⟨.mount deck, files⟩

/-- A card punch keeps its deck and stays on the first card, however often it punches. -/
theorem unit_replay
    (files : FileSystem)
    (deck : String)
    (acts : List Act) :
    (replay files deck acts).unit.deck = deck ∧
      (replay files deck acts).unit.store.cursor = 0 := by
  have onward
      (situation : Situation)
      (first : situation.unit.deck = deck ∧ situation.unit.store.cursor = 0) :
      (acts.foldl act situation).unit.deck = deck ∧
        (acts.foldl act situation).unit.store.cursor = 0 := by
    induction acts generalizing situation with
    | nil => exact first
    | cons next rest ih =>
        apply ih
        cases next with
        | punch now buffer => exact first
        | change files => exact first
  exact onward _ ⟨rfl, rfl⟩

/-- A punch that can write its first card leaves the words of the buffer on it. -/
theorem output_of_writable
    {punch : CardPunch}
    {deck : String}
    {files : FileSystem}
    (first : punch.deck = deck ∧ punch.store.cursor = 0)
    (writable : files.isWritable (deck ++ "0.card") = true)
    (now : UInt64)
    (buffer : Buffer) :
    (punch.output now files buffer).accepted = true ∧
      (punch.output now files buffer).files.read (deck ++ "0.card") =
        .ok (Card.layout (buffer.toList.take 16)).toArray := by
  have path_eq : Card.path punch.deck punch.store.cursor = deck ++ "0.card" := by
    rw [first.1, first.2, Card.path_zero]
  have few : (buffer.toList.take 16).length ≤ Card.geometry.blockSize :=
    List.length_take_le 16 _
  refine ⟨rfl, ?_⟩
  rw [← Card.encode_eq_layout few, ← path_eq]
  exact FileSystem.read_replace (path_eq ▸ writable) _ _

theorem isWritable_output
    (punch : CardPunch)
    (now : UInt64)
    (files : FileSystem)
    (buffer : Buffer)
    (path : String) :
    (punch.output now files buffer).files.isWritable path = files.isWritable path :=
  FileSystem.isWritable_replace _ _ _ _

end CardPunch

namespace CardReader

/-- A reader accepts every card and moves on, whether or not it can read it. -/
theorem unit_input
    (reader : CardReader)
    (now : UInt64)
    (files : FileSystem)
    (buffer : Buffer) :
    let received := reader.input now files buffer
    received.accepted = true ∧
      received.unit.deck = reader.deck ∧
        received.unit.store.cursor = reader.store.cursor + 1 := by
  simp only [input]
  split
  · exact ⟨rfl, rfl, rfl⟩
  · exact ⟨rfl, rfl, rfl⟩

theorem buffer_input_of_unread
    {reader : CardReader}
    {files : FileSystem}
    {cause : FileError}
    (unread : files.read (Card.path reader.deck reader.store.cursor) = .error cause)
    (now : UInt64)
    (buffer : Buffer) :
    (reader.input now files buffer).buffer = buffer := by
  simp only [input, unread]

theorem input_of_read
    {reader : CardReader}
    {files : FileSystem}
    {contents : Array UInt8}
    (read : files.read (Card.path reader.deck reader.store.cursor) = .ok contents)
    (now : UInt64)
    (buffer : Buffer) :
    let received := reader.input now files buffer
    received.accepted = true ∧
      received.buffer =
        buffer.overlay 0
          (Card.decode (min buffer.size Card.geometry.blockSize) contents.toList).toArray := by
  simp only [input, read, and_self]

theorem getElem?_buffer_input
    {reader : CardReader}
    {files : FileSystem}
    {contents : Array UInt8}
    (read : files.read (Card.path reader.deck reader.store.cursor) = .ok contents)
    (now : UInt64)
    {buffer : Buffer}
    {index : Nat}
    (within : index < buffer.size) :
    (reader.input now files buffer).buffer[index]? =
      if index < 16 then (Card.decode (min buffer.size 16) contents.toList)[index]?
      else buffer[index]? := by
  have length := Card.length_decode (min buffer.size 16) contents.toList
  have laid :
      (reader.input now files buffer).buffer =
        buffer.overlay 0 (Card.decode (min buffer.size 16) contents.toList).toArray :=
    (input_of_read read now buffer).2
  rw [laid, Buffer.getElem?_overlay, Array.getElem?_eq_getElem within, Option.map_some,
    if_pos (Nat.zero_le _), Nat.sub_zero, List.getElem?_toArray]
  by_cases held : index < 16
  · have decoded := Nat.lt_of_lt_of_eq (Nat.lt_min.2 ⟨within, held⟩) length.symm
    rw [if_pos held, List.getElem?_eq_getElem decoded, Option.getD_some]
  · have beyond : min buffer.size 16 ≤ index :=
      Nat.le_trans (Nat.min_le_right _ _) (Nat.le_of_not_lt held)
    rw [if_neg held, List.getElem?_eq_none (Nat.le_trans (Nat.le_of_eq length) beyond),
      Option.getD_none]

/-- The words of a buffer behind those of a card are kept. -/
theorem getElem?_buffer_input_of_le
    {reader : CardReader}
    {files : FileSystem}
    {contents : Array UInt8}
    (read : files.read (Card.path reader.deck reader.store.cursor) = .ok contents)
    (now : UInt64)
    {buffer : Buffer}
    {index : Nat}
    (beyond : 16 ≤ index) :
    (reader.input now files buffer).buffer[index]? = buffer[index]? := by
  by_cases within : index < buffer.size
  · exact (getElem?_buffer_input read now within).trans (if_neg (Nat.not_lt_of_le beyond))
  · have outside := Nat.le_of_not_lt within
    have size : (reader.input now files buffer).buffer.size = buffer.size := by
      rw [(input_of_read read now buffer).2, Buffer.size_overlay]
    rw [Array.getElem?_eq_none outside, Array.getElem?_eq_none (size.symm ▸ outside)]

/-- A buffer of the size of a card holds the words of the card and nothing else. -/
theorem buffer_input_of_size
    {reader : CardReader}
    {files : FileSystem}
    {contents : Array UInt8}
    (read : files.read (Card.path reader.deck reader.store.cursor) = .ok contents)
    (now : UInt64)
    {buffer : Buffer}
    (size : buffer.size = 16) :
    (reader.input now files buffer).buffer = (Card.decode 16 contents.toList).toArray := by
  have laid :
      (reader.input now files buffer).buffer =
        buffer.overlay 0 (Card.decode (min buffer.size 16) contents.toList).toArray :=
    (input_of_read read now buffer).2
  rw [laid, size, Nat.min_self]
  apply Buffer.overlay_of_size
  rw [List.size_toArray, Card.length_decode, size]

/-- A reader at a card on which some words were punched reads them back. -/
theorem getElem?_buffer_input_layout
    {reader : CardReader}
    {files : FileSystem}
    {words : List Word}
    (few : words.length ≤ 16)
    (punched :
      files.read (Card.path reader.deck reader.store.cursor) =
        .ok (Card.layout words).toArray)
    (now : UInt64)
    {buffer : Buffer}
    {index : Nat}
    (within : index < min buffer.size 16) :
    (reader.input now files buffer).buffer[index]? = some (Card.readBack words index) := by
  rcases Nat.lt_min.1 within with ⟨held, onCard⟩
  rw [getElem?_buffer_input punched now held, if_pos onCard, ← Card.encode_eq_layout few]
  exact Card.getElem?_decodeFrom_encodeFrom 0 words within

end CardReader

namespace CardPunch

/--
Whatever was punched before and whatever became of the files, a punch that can write its
card leaves the first sixteen words of the buffer there, each as its five characters, with
a separator after the words 4, 8 and 12.  A new reader of the deck finds their fields in its
first sixteen words, which are positive, with blanks for the codes without a form and for
words that were not punched; the words behind the sixteenth are left alone.  So a
card that was read, whatever it held, and then punched is read again with the same words.
-/
theorem punched_card_reads_back
    (files : FileSystem)
    (deck : String)
    (acts : List Act)
    (now moment : UInt64)
    (buffer target : Buffer)
    (writable : (replay files deck acts).files.isWritable (deck ++ "0.card") = true) :
    let situation := replay files deck acts
    let words := buffer.toList.take 16
    let sent := situation.unit.output now situation.files buffer
    let received := (CardReader.mount deck).input moment sent.files target
    sent.accepted = true ∧
      sent.files.read (deck ++ "0.card") = .ok (Card.layout words).toArray ∧
      received.accepted = true ∧
      received.buffer.size = target.size ∧
      (∀ index,
        index < min target.size 16 →
          ∃ word,
            received.buffer[index]? = some word ∧
              word.sign = .positive ∧
                ∀ column,
                  column < 5 →
                    word.field column =
                      match words[index]? with
                      | some punched =>
                          if (punched.field column).val < 56 then punched.field column
                          else Code.blank
                      | none => Code.blank) ∧
      (∀ index, 16 ≤ index → received.buffer[index]? = target[index]?) ∧
      ∀ (reader : CardReader) (others : FileSystem) (contents : Array UInt8)
        (first second : Buffer),
        first.size = 16 →
          second.size = 16 →
            others.read (Card.path reader.deck reader.store.cursor) = .ok contents →
              let read := (reader.input moment others first).buffer
              let copied := situation.unit.output now situation.files read
              ((CardReader.mount deck).input moment copied.files second).buffer = read := by
  intro situation words sent received
  have stayed := unit_replay files deck acts
  have here : Card.path deck 0 = deck ++ "0.card" := Card.path_zero deck
  rcases output_of_writable stayed writable now buffer with ⟨accepted, punched⟩
  have atCard :
      sent.files.read
          (Card.path (CardReader.mount deck).deck (CardReader.mount deck).store.cursor) =
        .ok (Card.layout words).toArray :=
    (congrArg sent.files.read here).trans punched
  rcases CardReader.input_of_read atCard moment target with ⟨taken, delivered⟩
  refine ⟨accepted, punched, taken, ?_, ?_, ?_, ?_⟩
  · rw [delivered, Buffer.size_overlay]
  · intro index within
    exact
      ⟨Card.readBack words index,
        CardReader.getElem?_buffer_input_layout (List.length_take_le 16 _) atCard moment within,
        Card.sign_readBack words index, fun column => Card.field_readBack words index⟩
  · intro index beyond
    exact CardReader.getElem?_buffer_input_of_le atCard moment beyond
  · intro reader others contents first second sizeFirst sizeSecond found read copied
    have read_eq : read = (Card.decode 16 contents.toList).toArray :=
      CardReader.buffer_input_of_size found moment sizeFirst
    have whole : read.toList.take 16 = Card.decode 16 contents.toList := by
      rw [read_eq]
      exact List.take_of_length_le (Nat.le_of_eq (Card.length_decode 16 _))
    have atCopy :
        copied.files.read
            (Card.path (CardReader.mount deck).deck (CardReader.mount deck).store.cursor) =
          .ok (Card.layout (Card.decode 16 contents.toList)).toArray := by
      rw [← whole]
      exact
        (congrArg copied.files.read here).trans (output_of_writable stayed writable now read).2
    rw [CardReader.buffer_input_of_size atCopy moment sizeSecond, Card.decode_layout_decode,
      read_eq]

/-- A card punched over: the sign is lost, and so is the code without a form. -/
theorem overpunched_card_reads_back :
    let situation := replay .empty "c" [.punch 0 #[.zero, .zero]]
    let sent := situation.unit.output 5000 situation.files #[.truncate .negative 127]
    situation.files.isWritable "c0.card" = true ∧
      sent.files.read "c0.card" =
        .ok (Card.layout [.truncate .negative 127]).toArray ∧
      ∃ word,
        ((CardReader.mount "c").input 9000 sent.files (Buffer.blank 1)).buffer[0]? =
            some word ∧
          word.sign = .positive ∧ word.field 3 = 1 ∧ word.field 4 = Code.blank := by
  have writable :
      (replay .empty "c" [.punch 0 #[.zero, .zero]]).files.isWritable ("c" ++ "0.card") =
        true := by
    simp only [replay, List.foldl_cons, List.foldl_nil, act, isWritable_output]
    decide
  rcases punched_card_reads_back .empty "c" [.punch 0 #[.zero, .zero]] 5000 9000
    #[.truncate .negative 127] (Buffer.blank 1) writable with
    ⟨-, punched, -, -, delivered, -⟩
  obtain ⟨word, read, sign, fields⟩ := delivered 0 (by decide)
  exact
    ⟨writable, punched, word, read, sign, (fields 3 (by decide)).trans (by decide),
      (fields 4 (by decide)).trans (by decide)⟩

end CardPunch

end MixUnits
