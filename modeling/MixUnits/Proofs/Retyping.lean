import Mathlib.Data.List.Basic
import MixUnits.Proofs.Delivery
import MixUnits.Proofs.Reading

/-!
# Printed lines that are typed in again

A printed line has twenty-four words, and a typed one has room for fourteen.  So a typewriter
whose source is what a printer has printed cuts each line into two records: the first fourteen
words fill a record, which ends by itself, and the other ten stand before the line feed, which
ends theirs and is taken with it.  The next line begins with a record of its own.

Words whose fields have forms come back without their signs.  The read behind the last line
finds the end, and so does every further one.
-/

namespace MixUnits

namespace Keyboard

theorem hasCode_toByte
    {code : Code}
    (formed : code.val < 56) :
    hasCode (Code.toByte code) = true := by
  rw [hasCode, Code.ofByte?_toByte formed, Option.isSome_some]

/-- The characters of words whose fields have forms all have codes. -/
theorem hasCode_of_mem_text
    {words : List Word}
    (formed : ∀ word ∈ words, word.IsFormed)
    {byte : UInt8}
    (member : byte ∈ words.flatMap Word.text) :
    hasCode byte = true := by
  rcases List.mem_flatMap.1 member with ⟨word, held, character⟩
  rcases List.mem_map.1 character with ⟨code, field, rfl⟩
  rcases List.mem_ofFn.1 field with ⟨column, rfl⟩
  exact hasCode_toByte (formed word held column)

/-- A whole record at the beginning of a source is read as a line, and the rest is left. -/
theorem line_bytes_append
    {record : Record}
    (whole : record.IsWhole)
    (rest : List UInt8) :
    line 70 ((record.bytes ++ rest).map .byte) =
      ⟨record.characters.map Code.ofByteOrBlank, rest.map .byte, false, []⟩ := by
  rw [line_map_byte, whole.leading_bytes_append rest]
  dsimp only
  rcases record with ⟨characters, _ | stop⟩
  · have full : characters.length = 70 := whole.ending
    rw [if_pos full, Record.bytes, Option.toList_none, List.append_nil, ← full, List.drop_left]
  · have short : characters.length < 70 := whole.ending.1
    rw [if_neg (Nat.ne_of_lt short), Record.bytes, Option.toList_some, List.append_assoc,
      List.singleton_append, List.drop_left]

theorem firstWord_text_append
    (word : Word)
    (rest : List UInt8) :
    firstWord ((word.text ++ rest).map Code.ofByteOrBlank) = word.legible := by
  refine congrArg Word.ofFields (funext fun column => ?_)
  rw [List.getElem?_map,
    List.getElem?_append_left (Nat.lt_of_lt_of_eq column.isLt word.length_text.symm),
    word.getElem?_text, Option.map_some, Option.getD_some, Code.ofByteOrBlank_toByte]

/-- Printed words that are read are the same words as far as they are legible, then zeros. -/
theorem toList_pack_text
    {words : List Word}
    {count : Nat}
    (few : words.length ≤ count) :
    (pack count ((words.flatMap Word.text).map Code.ofByteOrBlank)).toList =
      words.map Word.legible ++ List.replicate (count - words.length) .zero := by
  induction count generalizing words with
  | zero =>
      rw [List.length_eq_zero_iff.1 (Nat.le_zero.1 few)]
      rfl
  | succ count ih =>
      rw [toList_pack_succ]
      cases words with
      | nil =>
          have later := @ih [] (Nat.zero_le count)
          exact congrArg (Word.zero :: ·) later
      | cons word rest =>
          rw [List.flatMap_cons, firstWord_text_append, ← List.map_drop,
            List.drop_left' word.length_text, ih (Nat.le_of_succ_le_succ few),
            List.length_cons, Nat.add_sub_add_right]
          rfl

/-- Words whose fields have forms are read as they are but for their signs. -/
theorem pack_text
    {words : Buffer}
    {count : Nat}
    (few : words.size ≤ count)
    (formed : ∀ word ∈ words.toList, word.IsFormed) :
    pack count ((words.toList.flatMap Word.text).map Code.ofByteOrBlank) =
      words.map Word.unsigned ++ Buffer.blank (count - words.size) := by
  have legible : words.toList.map Word.legible = words.toList.map Word.unsigned :=
    List.map_congr_left fun word member => Word.legible_of_isFormed (formed word member)
  apply Array.ext'
  rw [toList_pack_text few, legible, Array.toList_append, Array.toList_map, Buffer.blank,
    Array.toList_replicate, Array.length_toList]

end Keyboard

namespace Typewriter

/-- What a read of fourteen words gives back for a whole record. -/
def Reply.ofRecord (record : Record) : Reply where
  buffer := Keyboard.pack 14 (record.characters.map Code.ofByteOrBlank)
  ended := false
  notices := []

/-- What a read of fourteen words gives back at the end of a source. -/
def Reply.atEnd : Reply where
  buffer := Buffer.blank 14
  ended := true
  notices := []

section Reads

variable
  {typewriter : Typewriter}
  {buffer : Buffer}
  {reads : List (UInt64 × Buffer)}

/-- A read takes the whole record at the beginning of a source and nothing behind it. -/
theorem input_of_record
    {record : Record}
    (whole : record.IsWhole)
    {rest : List UInt8}
    (source : typewriter.source = (record.bytes ++ rest).map .byte)
    (ongoing : typewriter.ended = false)
    (size : buffer.size = 14)
    (now : UInt64) :
    let received := typewriter.input now buffer
    received.unit.source = rest.map .byte ∧
      received.unit.ended = false ∧
        Reply.mk received.buffer received.unit.ended received.notices =
          Reply.ofRecord record := by
  rcases typewriter.input_of_size size now with ⟨left, ended, filled, notices⟩
  rw [source, Keyboard.line_bytes_append whole] at left ended filled notices
  rw [ongoing] at ended
  refine ⟨left, ended, ?_⟩
  rw [filled, ended, notices]
  rfl

/-- Every read behind the end gives back zeros and has met the end. -/
theorem replies_of_source_nil
    (source : typewriter.source = [])
    (sizes : ∀ call ∈ reads, call.2.size = 14) :
    typewriter.replies reads = List.replicate reads.length Reply.atEnd := by
  induction reads generalizing typewriter with
  | nil => rfl
  | cons call reads ih =>
      rcases call with ⟨now, buffer⟩
      rcases List.forall_mem_cons.1 sizes with ⟨size, later⟩
      rcases typewriter.input_of_size size now with ⟨left, ended, filled, notices⟩
      rw [source] at left ended filled notices
      have met : (typewriter.ended || (Keyboard.line 70 []).ended) = true :=
        Bool.or_true typewriter.ended
      have zeros : Keyboard.pack 14 (Keyboard.line 70 []).codes = Buffer.blank 14 := rfl
      rw [replies, ih left later, filled, zeros, ended, met, notices]
      rfl

/-- Whole records are given back one read each, and the reads behind them meet the end. -/
theorem replies_of_records
    {records : List Record}
    (wholes : ∀ record ∈ records, record.IsWhole)
    (source : typewriter.source = (records.flatMap Record.bytes).map .byte)
    (ongoing : typewriter.ended = false)
    (sizes : ∀ call ∈ reads, call.2.size = 14)
    (enough : records.length ≤ reads.length) :
    typewriter.replies reads =
      records.map Reply.ofRecord ++
        List.replicate (reads.length - records.length) Reply.atEnd := by
  induction records generalizing typewriter reads with
  | nil => exact replies_of_source_nil source sizes
  | cons record records ih =>
      cases reads with
      | nil => exact absurd enough (Nat.not_succ_le_zero _)
      | cons call reads =>
          rcases call with ⟨now, buffer⟩
          rcases List.forall_mem_cons.1 wholes with ⟨whole, laterWholes⟩
          rcases List.forall_mem_cons.1 sizes with ⟨size, laterSizes⟩
          rw [List.flatMap_cons] at source
          rcases input_of_record whole source ongoing size now with ⟨left, still, reply⟩
          rw [replies, reply,
            ih laterWholes left still laterSizes (Nat.le_of_succ_le_succ enough),
            List.length_cons, List.length_cons, Nat.add_sub_add_right]
          rfl

end Reads

end Typewriter

namespace LinePrinter

/-- A buffer that a line shows whole: twenty-four words whose fields all have forms. -/
structure IsShownWhole (buffer : Buffer) : Prop where
  size : buffer.size = 24
  formed : ∀ word ∈ buffer.toList, word.IsFormed

instance (buffer : Buffer) : Decidable (IsShownWhole buffer) :=
  decidable_of_iff (buffer.size = 24 ∧ ∀ word ∈ buffer.toList, word.IsFormed)
    ⟨fun ⟨size, formed⟩ => ⟨size, formed⟩, fun ⟨size, formed⟩ => ⟨size, formed⟩⟩

/-- The records that a typewriter finds on a printed line. -/
def records (buffer : Buffer) : List Record :=
  [⟨(buffer.slice 0 14).toList.flatMap Word.text, none⟩,
    ⟨(buffer.slice 14 24).toList.flatMap Word.text, some lineFeed⟩]

theorem length_records (buffer : Buffer) : (records buffer).length = 2 :=
  rfl

/-- A line is its records, one after the other. -/
theorem line_eq_bytes_records (buffer : Buffer) :
    line buffer = (records buffer).flatMap Record.bytes := by
  have parts :
      buffer.toList.take 24 = (buffer.slice 0 14).toList ++ (buffer.slice 14 24).toList := by
    rw [← Array.toList_append, Buffer.slice, Buffer.slice, Array.extract_append_extract,
      Array.toList_extract, List.extract_eq_take_drop]
    rfl
  rw [line, printerGeometry, parts, List.flatMap_append, List.append_assoc, records,
    List.flatMap_cons, List.flatMap_singleton, Record.bytes, Record.bytes, Option.toList_none,
    Option.toList_some, List.append_nil]

section Shown

variable
  {buffer : Buffer}
  (shown : IsShownWhole buffer)

include shown

theorem isFormed_of_mem_slice
    {start stop : Nat}
    {word : Word}
    (member : word ∈ (buffer.slice start stop).toList) :
    word.IsFormed := by
  rw [Buffer.slice, Array.toList_extract, List.extract_eq_take_drop] at member
  exact shown.formed word (List.mem_of_mem_drop (List.mem_of_mem_take member))

theorem isWhole_of_mem_records : ∀ record ∈ records buffer, record.IsWhole := by
  have coded (start stop : Nat) :
      ∀ byte ∈ (buffer.slice start stop).toList.flatMap Word.text,
        Keyboard.hasCode byte = true :=
    fun _ => Keyboard.hasCode_of_mem_text fun _ => isFormed_of_mem_slice shown
  have length (start stop : Nat) :
      ((buffer.slice start stop).toList.flatMap Word.text).length =
        5 * (min stop 24 - start) := by
    rw [Word.length_flatMap_text, Array.length_toList, Buffer.size_slice, shown.size]
  rw [records, List.forall_mem_cons, List.forall_mem_singleton]
  constructor
  · exact ⟨coded 0 14, length 0 14⟩
  · exact ⟨coded 14 24, (length 14 24).trans_lt (by decide), by decide⟩

/-- The words of a printed line are given back without their signs, in two blocks. -/
theorem map_ofRecord_records :
    (records buffer).map Typewriter.Reply.ofRecord =
      [⟨(buffer.slice 0 14).map Word.unsigned, false, []⟩,
        ⟨(buffer.slice 14 24).map Word.unsigned ++ Buffer.blank 4, false, []⟩] := by
  have given (start stop : Nat) (few : min stop 24 - start ≤ 14) :
      Keyboard.pack 14
          (((buffer.slice start stop).toList.flatMap Word.text).map Code.ofByteOrBlank) =
        (buffer.slice start stop).map Word.unsigned ++
          Buffer.blank (14 - (min stop 24 - start)) := by
    have size : (buffer.slice start stop).size = min stop 24 - start := by
      rw [Buffer.size_slice, shown.size]
    rw [← size] at few ⊢
    exact Keyboard.pack_text few fun _ => isFormed_of_mem_slice shown
  rw [records, List.map_cons, List.map_singleton, Typewriter.Reply.ofRecord,
    Typewriter.Reply.ofRecord, given 0 14 (by decide), given 14 24 (by decide)]
  have none : (buffer.slice 0 14).map Word.unsigned ++ Buffer.blank 0 =
      (buffer.slice 0 14).map Word.unsigned := Array.append_empty
  exact congrArg (fun block => [Typewriter.Reply.mk block false [], _]) none

end Shown

/-- The records of some lines, one after the other. -/
theorem lines_eq_bytes_records (calls : List (UInt64 × Buffer)) :
    lines calls = (calls.flatMap fun call => records call.2).flatMap Record.bytes := by
  rw [lines, List.flatMap_assoc]
  exact congrArg (calls.flatMap ·) (funext fun call => line_eq_bytes_records call.2)

end LinePrinter

namespace Typewriter

/--
Printed text can be typed in again.  If all words of some lines have forms in all their fields,
a typewriter on what a printer has printed gives back two blocks for each of the lines: its first
fourteen words, and then the other ten with four zeros behind them, all of them without their
signs, and it has not met the end.  The read behind the last line gives back zeros and meets the
end, and so does every further one.
-/
theorem replies_of_printed_lines
    {printer : LinePrinter}
    (willing : printer.sink.kind.isWilling = true)
    (unused : printer.sink.text = [])
    {lines : List (UInt64 × Buffer)}
    (shown : ∀ line ∈ lines, LinePrinter.IsShownWhole line.2)
    {reads : List (UInt64 × Buffer)}
    (sizes : ∀ read ∈ reads, read.2.size = 14)
    (enough : 2 * lines.length ≤ reads.length) :
    let typed := (printer.outputs lines).sink.text
    (mount (typed.map .byte)).replies reads =
      (lines.flatMap fun line =>
        [⟨(line.2.slice 0 14).map Word.unsigned, false, []⟩,
          ⟨(line.2.slice 14 24).map Word.unsigned ++ Buffer.blank 4, false, []⟩]) ++
        List.replicate (reads.length - 2 * lines.length) ⟨Buffer.blank 14, true, []⟩ := by
  intro typed
  have text : typed = LinePrinter.lines lines := by
    have printed := LinePrinter.text_outputs_of_isWilling willing lines
    rwa [unused, List.nil_append] at printed
  let records := lines.flatMap fun line => LinePrinter.records line.2
  have wholes : ∀ record ∈ records, record.IsWhole := by
    intro record member
    rcases List.mem_flatMap.1 member with ⟨line, held, found⟩
    exact LinePrinter.isWhole_of_mem_records (shown line held) record found
  have count : records.length = 2 * lines.length :=
    length_flatMap_of_length (fun line => LinePrinter.length_records line.2) lines
  have replies :=
    @replies_of_records (mount (typed.map .byte)) reads records wholes
      (by rw [text, LinePrinter.lines_eq_bytes_records]; rfl) rfl sizes (count ▸ enough)
  rw [replies, count, List.map_flatMap]
  refine congrArg (· ++ _) (List.flatMap_congr ?_)
  exact fun line held => LinePrinter.map_ofRecord_records (shown line held)

/-- A line of negative words, typed in again and read four times. -/
theorem replies_of_negative_line :
    let word (sign : Sign) (index : Nat) : Word := .truncate sign (index + 1)
    let line : Buffer := Array.ofFn (n := 24) fun index => word .negative index.val
    let typed :=
      ((LinePrinter.mount { kind := .interrupting }).outputs [(0, line)]).sink.text
    (mount (typed.map .byte)).replies (List.replicate 4 (0, Buffer.blank 14)) =
      [⟨Array.ofFn (n := 14) fun index => word .positive index.val, false, []⟩,
        ⟨(Array.ofFn (n := 10) fun index => word .positive (index.val + 14)) ++
          Buffer.blank 4, false, []⟩,
        ⟨Buffer.blank 14, true, []⟩,
        ⟨Buffer.blank 14, true, []⟩] := by
  intro word line typed
  have shown : ∀ call ∈ [((0 : UInt64), line)], LinePrinter.IsShownWhole call.2 := by decide
  have sizes :
      ∀ read ∈ List.replicate 4 ((0 : UInt64), Buffer.blank 14), read.2.size = 14 := by
    decide
  have replies :=
    @replies_of_printed_lines (LinePrinter.mount { kind := .interrupting }) rfl rfl _ shown _
      sizes (by decide)
  have first :
      (line.slice 0 14).map Word.unsigned =
        Array.ofFn (n := 14) fun index => word .positive index.val := by
    decide +kernel
  have second :
      (line.slice 14 24).map Word.unsigned =
        Array.ofFn (n := 10) fun index => word .positive (index.val + 14) := by
    decide +kernel
  rw [← first, ← second]
  exact replies

end Typewriter

end MixUnits
