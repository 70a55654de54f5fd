import MixUnits.Keyboard
import MixUnits.Proofs.Characters

/-!
# Typed bytes as records

Bytes that are typed fall into records.  A record has the characters at the beginning of
what is left, as many as have codes but no more than a line holds, and unless it is full
it takes the byte that ended it as well.  The last record is the one that meets the end
of the bytes.  A line that is read from the keyboard is the first of these records.
-/

namespace MixUnits

namespace Keyboard

/-- Whether a byte has a code. -/
def hasCode (byte : UInt8) : Bool :=
  (Code.ofByte? byte).isSome

/-- The longest run of bytes with codes at the beginning, up to a limit. -/
def leading
    (limit : Nat)
    (input : List UInt8) :
    List UInt8 :=
  (input.take limit).takeWhile hasCode

variable (limit : Nat) (input : List UInt8)

theorem length_leading_le : (leading limit input).length ≤ limit :=
  Nat.le_trans (List.takeWhile_sublist hasCode).length_le (List.length_take_le limit input)

theorem hasCode_of_mem_leading
    {byte : UInt8}
    (member : byte ∈ leading limit input) :
    hasCode byte = true :=
  List.all_eq_true.1 List.all_takeWhile byte member

theorem leading_isPrefixOf : leading limit input <+: input :=
  (List.takeWhile_prefix hasCode).trans (List.take_prefix limit input)

/-- The bytes with codes come first, and the others are left. -/
theorem leading_append_drop :
    leading limit input ++ input.drop (leading limit input).length = input := by
  have taken := List.prefix_iff_eq_take.1 (leading_isPrefixOf limit input)
  calc
    leading limit input ++ input.drop (leading limit input).length
      = input.take (leading limit input).length ++
          input.drop (leading limit input).length := by rw [← taken]
    _ = input := List.take_append_drop _ input

theorem leading_nil : leading limit [] = [] := by
  rw [leading, List.take_nil, List.takeWhile_nil]

theorem leading_cons_of_code
    {byte : UInt8}
    {code : Code}
    (coded : Code.ofByte? byte = some code)
    (rest : List UInt8) :
    leading (limit + 1) (byte :: rest) = byte :: leading limit rest := by
  simp [leading, hasCode, coded]

theorem leading_cons_of_uncoded
    {byte : UInt8}
    (uncoded : hasCode byte = false)
    (rest : List UInt8) :
    leading limit (byte :: rest) = [] := by
  cases limit with
  | zero => rfl
  | succ limit => simp [leading, uncoded]

/-- Bytes with codes are all taken, and what is taken behind them is what there is room for. -/
theorem leading_append
    {limit : Nat}
    {characters : List UInt8}
    (coded : ∀ byte ∈ characters, hasCode byte = true)
    (few : characters.length ≤ limit)
    (rest : List UInt8) :
    leading limit (characters ++ rest) =
      characters ++ leading (limit - characters.length) rest := by
  rw [leading, List.take_append, List.take_of_length_le few, List.takeWhile_append_of_pos coded,
    leading]

/-- The byte behind a run that is shorter than the limit has no code. -/
theorem hasCode_of_drop_leading
    {limit : Nat}
    {input rest : List UInt8}
    {stop : UInt8}
    (short : (leading limit input).length ≠ limit)
    (stopped : input.drop (leading limit input).length = stop :: rest) :
    hasCode stop = false := by
  induction limit generalizing input with
  | zero => exact absurd rfl short
  | succ limit ih =>
      cases input with
      | nil => simp [leading] at stopped
      | cons byte others =>
          cases coded : Code.ofByte? byte with
          | none =>
              have uncoded : hasCode byte = false := by rw [hasCode, coded, Option.isSome_none]
              rw [leading_cons_of_uncoded (limit + 1) uncoded others] at stopped
              obtain rfl : byte = stop := (List.cons.inj stopped).1
              exact uncoded
          | some code =>
              rw [leading_cons_of_code limit coded others, List.length_cons] at short stopped
              exact ih (fun full => short (congrArg (· + 1) full)) stopped

/-- What is read as a line from typed bytes. -/
theorem line_map_byte :
    line limit (input.map .byte) =
      (let characters := leading limit input
      let codes := characters.map Code.ofByteOrBlank
      if characters.length = limit then
        ⟨codes, (input.drop limit).map .byte, false, []⟩
      else
        match input.drop characters.length with
        | [] => ⟨codes, [], true, []⟩
        | _ :: rest => ⟨codes, rest.map .byte, false, []⟩) := by
  induction limit generalizing input with
  | zero => rfl
  | succ limit ih =>
      cases input with
      | nil => rfl
      | cons byte rest =>
          cases coded : Code.ofByte? byte with
          | none =>
              have uncoded : hasCode byte = false := by rw [hasCode, coded, Option.isSome_none]
              rw [leading_cons_of_uncoded (limit + 1) uncoded rest]
              exact line_of_uncoded limit coded
          | some code =>
              have read : Code.ofByteOrBlank byte = code := by
                rw [Code.ofByteOrBlank, coded, Option.getD_some]
              have following :
                  line (limit + 1) ((byte :: rest).map .byte) =
                    { line limit (rest.map .byte) with
                      codes := code :: (line limit (rest.map .byte)).codes } :=
                line_of_code limit coded
              rw [following, ih, leading_cons_of_code limit coded rest]
              simp only [List.length_cons, Nat.add_right_cancel_iff, List.map_cons, read,
                List.drop_succ_cons]
              split
              · rfl
              · split
                · rfl
                · rfl

theorem codes_line_map_byte :
    (line limit (input.map .byte)).codes =
      (leading limit input).map Code.ofByteOrBlank := by
  rw [line_map_byte]
  dsimp only
  split
  · rfl
  · split
    · rfl
    · rfl

section Packing

variable (count : Nat) (codes : List Code)

theorem getElem?_pack (index : Nat) :
    (pack count codes)[index]? =
      if index < count then
        some (Word.ofFields fun column => codes[5 * index + column.val]?.getD Code.blank)
      else
        none := by
  simp [pack, Array.getElem?_ofFn]

/-- Behind the last of its characters a packed line is zero. -/
theorem getElem?_pack_of_length_le
    {index : Nat}
    (behind : codes.length ≤ 5 * index)
    (within : index < count) :
    (pack count codes)[index]? = some .zero := by
  rw [getElem?_pack, if_pos within, ← Word.ofFields_blank]
  refine congrArg (some ∘ Word.ofFields) (funext fun column => ?_)
  rw [List.getElem?_eq_none (Nat.le_add_right_of_le behind), Option.getD_none]

/-- A line that is laid over a run with zeros behind it is a longer line. -/
theorem overlay_pack
    {buffer : Buffer}
    {total : Nat}
    (size : buffer.size = total)
    (few : codes.length ≤ 5 * count)
    (margin : ∀ index, count ≤ index → index < total → buffer[index]? = some .zero) :
    buffer.overlay 0 (pack count codes) = pack total codes := by
  subst size
  apply Array.ext_getElem?
  intro index
  rw [Buffer.getElem?_overlay, Nat.sub_zero, getElem?_pack buffer.size]
  by_cases within : index < buffer.size
  · rw [Array.getElem?_eq_getElem within, Option.map_some, if_pos (Nat.zero_le index)]
    rcases Nat.lt_or_ge index count with early | late
    · rw [getElem?_pack, if_pos early, if_pos within, Option.getD_some]
    · have behind := Nat.le_trans few (Nat.mul_le_mul_left 5 late)
      rw [← getElem?_pack, getElem?_pack_of_length_le buffer.size codes behind within,
        getElem?_pack, if_neg (Nat.not_lt_of_le late), Option.getD_none,
        ← margin index late within, Array.getElem?_eq_getElem within]
  · rw [if_neg within, Array.getElem?_eq_none (Nat.le_of_not_lt within), Option.map_none]

/-- The word of the first five of some codes. -/
def firstWord (codes : List Code) : Word :=
  Word.ofFields fun column => codes[column.val]?.getD Code.blank

theorem toList_pack_succ :
    (pack (count + 1) codes).toList =
      firstWord codes :: (pack count (codes.drop 5)).toList := by
  rw [pack, pack, Array.toList_ofFn, Array.toList_ofFn, List.ofFn_succ, List.cons_eq_cons]
  constructor
  · rfl
  · refine congrArg List.ofFn (funext fun index => ?_)
    refine congrArg Word.ofFields (funext fun column => ?_)
    have place : 5 * (index.val + 1) + column.val = 5 + (5 * index.val + column.val) := by
      omega
    rw [List.getElem?_drop, ← place]
    rfl

theorem text_firstWord :
    (firstWord codes).text =
      (codes.take 5).map Code.toByte ++ List.replicate (5 - codes.length) 32 := by
  rw [firstWord, Word.text, Word.fields_ofFields]
  rcases codes with _ | ⟨first, _ | ⟨second, _ | ⟨third, _ | ⟨fourth, _ | ⟨fifth, rest⟩⟩⟩⟩⟩
  all_goals simp [List.ofFn_succ]
  all_goals rfl

theorem firstWord_eq_zero_iff :
    firstWord codes = .zero ↔ ∀ code ∈ codes.take 5, code = Code.blank := by
  rw [firstWord, Word.ofFields_eq_zero_iff]
  constructor
  · intro blank code member
    rcases List.mem_take_iff_getElem.1 member with ⟨index, within, rfl⟩
    have held : index < codes.length := by omega
    have here : codes[index]?.getD Code.blank = Code.blank := blank ⟨index, by omega⟩
    rwa [List.getElem?_eq_getElem held, Option.getD_some] at here
  · intro blank column
    cases held : codes[column.val]? with
    | none => rfl
    | some code =>
        apply blank
        rw [List.getElem?_eq_some_iff] at held
        rcases held with ⟨within, rfl⟩
        exact List.mem_take_iff_getElem.2 ⟨column.val, by omega, rfl⟩

/-- Packed characters print as they are, with blanks up to the last word. -/
theorem text_pack (few : codes.length ≤ 5 * count) :
    (pack count codes).toList.flatMap Word.text =
      codes.map Code.toByte ++ List.replicate (5 * count - codes.length) 32 := by
  induction count generalizing codes with
  | zero =>
      have nothing : codes = [] := List.length_eq_zero_iff.1 (Nat.le_zero.1 few)
      rw [nothing]
      rfl
  | succ count ih =>
      have fewer : (codes.drop 5).length ≤ 5 * count := by
        rw [List.length_drop]
        omega
      rw [toList_pack_succ, List.flatMap_cons, text_firstWord, ih _ fewer]
      rcases Nat.lt_or_ge codes.length 5 with short | long
      · rw [List.take_of_length_le (Nat.le_of_lt short),
          List.drop_of_length_le (Nat.le_of_lt short), List.map_nil, List.nil_append,
          List.append_assoc, List.replicate_append_replicate]
        congr 2
        simp only [List.length_nil]
        omega
      · have none : 5 - codes.length = 0 := Nat.sub_eq_zero_of_le long
        rw [none, List.replicate_zero, List.append_nil, ← List.append_assoc,
          ← List.map_append, List.take_append_drop, List.length_drop]
        congr 2
        omega

/-- Packed characters are zero words exactly if they are blanks. -/
theorem pack_blank_iff (few : codes.length ≤ 5 * count) :
    (∀ word ∈ (pack count codes).toList, word = .zero) ↔ ∀ code ∈ codes, code = Code.blank := by
  induction count generalizing codes with
  | zero =>
      have nothing : codes = [] := List.length_eq_zero_iff.1 (Nat.le_zero.1 few)
      simp [nothing, pack]
  | succ count ih =>
      have fewer : (codes.drop 5).length ≤ 5 * count := by
        rw [List.length_drop]
        omega
      rw [toList_pack_succ, List.forall_mem_cons, ih _ fewer, firstWord_eq_zero_iff,
        ← List.forall_mem_append, List.take_append_drop]

end Packing

end Keyboard

/-- A record: its characters and, unless it is full, the byte without a code behind them. -/
structure Record where
  characters : List UInt8
  stop? : Option UInt8
  deriving DecidableEq

namespace Record

/-- The bytes that a record takes. -/
def bytes (record : Record) : List UInt8 :=
  record.characters ++ record.stop?.toList

/-- The characters of a record have codes, and only a full record ends by itself. -/
structure IsWhole (record : Record) : Prop where
  coded : ∀ byte ∈ record.characters, Keyboard.hasCode byte = true
  ending :
    match record.stop? with
    | none => record.characters.length = 70
    | some stop => record.characters.length < 70 ∧ Keyboard.hasCode stop = false

/-- At the beginning of some bytes a whole record is found by its characters. -/
theorem IsWhole.leading_bytes_append
    {record : Record}
    (whole : record.IsWhole)
    (rest : List UInt8) :
    Keyboard.leading 70 (record.bytes ++ rest) = record.characters := by
  rcases record with ⟨characters, _ | stop⟩
  · rcases whole with ⟨coded, full : characters.length = 70⟩
    rw [bytes, Option.toList_none, List.append_nil,
      Keyboard.leading_append coded (Nat.le_of_eq full), full]
    exact List.append_nil characters
  · rcases whole with ⟨coded, short : characters.length < 70, uncoded⟩
    rw [bytes, Option.toList_some, List.append_assoc, List.singleton_append,
      Keyboard.leading_append coded (Nat.le_of_lt short),
      Keyboard.leading_cons_of_uncoded _ uncoded, List.append_nil]

end Record

/-- Typed bytes cut into records, with the characters that met the end of the bytes. -/
structure Transcript where
  records : List Record
  last : List UInt8
  deriving DecidableEq

namespace Transcript

/-- A transcript with one more record at its beginning. -/
def cons
    (record : Record)
    (transcript : Transcript) :
    Transcript :=
  { transcript with records := record :: transcript.records }

/-- Cuts typed bytes into records of at most seventy characters. -/
def of (input : List UInt8) : Transcript :=
  let characters := Keyboard.leading 70 input
  if _full : characters.length = 70 then
    (of (input.drop 70)).cons ⟨characters, none⟩
  else
    match _stopped : input.drop characters.length with
    | [] => ⟨[], characters⟩
    | stop :: rest => (of rest).cons ⟨characters, some stop⟩
  termination_by input.length
  decreasing_by
    · have full : (Keyboard.leading 70 input).length = 70 := _full
      have within := (Keyboard.leading_isPrefixOf 70 input).length_le
      rw [List.length_drop]
      omega
    · have longer := congrArg List.length _stopped
      rw [List.length_drop, List.length_cons] at longer
      omega

theorem of_full
    {input : List UInt8}
    (full : (Keyboard.leading 70 input).length = 70) :
    of input = (of (input.drop 70)).cons ⟨Keyboard.leading 70 input, none⟩ := by
  rw [of, dif_pos full]

theorem of_stopped
    {input rest : List UInt8}
    {stop : UInt8}
    (short : (Keyboard.leading 70 input).length ≠ 70)
    (stopped : input.drop (Keyboard.leading 70 input).length = stop :: rest) :
    of input = (of rest).cons ⟨Keyboard.leading 70 input, some stop⟩ := by
  rw [of, dif_neg short]
  split
  · next nothing => simp [stopped] at nothing
  · next same =>
    rw [stopped] at same
    rcases List.cons.inj same with ⟨rfl, rfl⟩
    rfl

theorem of_ended
    {input : List UInt8}
    (short : (Keyboard.leading 70 input).length ≠ 70)
    (ended : input.drop (Keyboard.leading 70 input).length = []) :
    of input = ⟨[], Keyboard.leading 70 input⟩ := by
  rw [of, dif_neg short]
  split
  · rfl
  · next other => simp [ended] at other

/-- The bytes of a transcript, one record after the other. -/
def bytes (transcript : Transcript) : List UInt8 :=
  transcript.records.flatMap Record.bytes ++ transcript.last

theorem bytes_cons
    (record : Record)
    (transcript : Transcript) :
    (transcript.cons record).bytes = record.bytes ++ transcript.bytes := by
  rw [bytes, cons, List.flatMap_cons, List.append_assoc, bytes]

/-- The records of some bytes take every byte once, in order. -/
theorem bytes_of (input : List UInt8) : (of input).bytes = input := by
  fun_induction of input with
  | case1 input characters full ih =>
      have split := Keyboard.leading_append_drop 70 input
      rw [bytes_cons, ih, Record.bytes, Option.toList_none, List.append_nil]
      rwa [full] at split
  | case2 input characters short stopped =>
      have split := Keyboard.leading_append_drop 70 input
      rwa [stopped, List.append_nil] at split
  | case3 input characters short stop rest stopped ih =>
      have split := Keyboard.leading_append_drop 70 input
      rw [stopped] at split
      rw [bytes_cons, ih, Record.bytes, Option.toList_some, List.append_assoc]
      exact split

/-- Every record but the last is whole, and the last is shorter than a full one. -/
structure IsWhole (transcript : Transcript) : Prop where
  records : ∀ record ∈ transcript.records, record.IsWhole
  coded : ∀ byte ∈ transcript.last, Keyboard.hasCode byte = true
  short : transcript.last.length < 70

theorem IsWhole.cons
    {record : Record}
    {transcript : Transcript}
    (first : record.IsWhole)
    (later : transcript.IsWhole) :
    (transcript.cons record).IsWhole := by
  refine ⟨?_, later.coded, later.short⟩
  intro other member
  rcases List.mem_cons.1 member with rfl | member
  · exact first
  · exact later.records other member

theorem isWhole_of (input : List UInt8) : (of input).IsWhole := by
  fun_induction of input with
  | case1 input characters full ih =>
      exact IsWhole.cons ⟨fun _ => Keyboard.hasCode_of_mem_leading 70 input, full⟩ ih
  | case2 input characters short stopped =>
      have bounded := Keyboard.length_leading_le 70 input
      exact
        ⟨nofun, fun _ => Keyboard.hasCode_of_mem_leading 70 input,
          Nat.lt_of_le_of_ne bounded short⟩
  | case3 input characters short stop rest stopped ih =>
      have bounded := Keyboard.length_leading_le 70 input
      refine IsWhole.cons ⟨fun _ => Keyboard.hasCode_of_mem_leading 70 input, ?_⟩ ih
      exact ⟨Nat.lt_of_le_of_ne bounded short, Keyboard.hasCode_of_drop_leading short stopped⟩

/-- What comes behind a whole record is cut on its own. -/
theorem of_bytes_append
    {record : Record}
    (whole : record.IsWhole)
    (rest : List UInt8) :
    of (record.bytes ++ rest) = (of rest).cons record := by
  have taken := whole.leading_bytes_append rest
  rcases record with ⟨characters, _ | stop⟩
  · have full : characters.length = 70 := whole.ending
    rw [Record.bytes, Option.toList_none, List.append_nil] at taken ⊢
    rw [of_full (by rw [taken, full]), taken, ← full, List.drop_left]
  · have short : characters.length < 70 := whole.ending.1
    rw [Record.bytes, Option.toList_some, List.append_assoc, List.singleton_append] at taken ⊢
    have stopped :
        (characters ++ stop :: rest).drop
          (Keyboard.leading 70 (characters ++ stop :: rest)).length = stop :: rest := by
      rw [taken, List.drop_left]
    rw [of_stopped (by rw [taken]; exact Nat.ne_of_lt short) stopped, taken]

theorem eq_of_isWhole
    {transcript : Transcript}
    (whole : transcript.IsWhole) :
    transcript = of transcript.bytes := by
  rcases transcript with ⟨records, last⟩
  rcases whole with ⟨wholes, coded : ∀ byte ∈ last, _, short : last.length < 70⟩
  induction records with
  | nil =>
      have taken : Keyboard.leading 70 last = last := by
        have all := Keyboard.leading_append coded (Nat.le_of_lt short) []
        rwa [Keyboard.leading_nil, List.append_nil] at all
      have ended : last.drop (Keyboard.leading 70 last).length = [] := by
        rw [taken, List.drop_length]
      change _ = of last
      rw [of_ended (by rw [taken]; exact Nat.ne_of_lt short) ended, taken]
  | cons record records ih =>
      rcases List.forall_mem_cons.1 wholes with ⟨first, later⟩
      change cons record ⟨records, last⟩ = of (bytes (cons record ⟨records, last⟩))
      rw [bytes_cons, of_bytes_append first, ← ih later]

/-- There is one way to cut bytes into whole records. -/
theorem eq_of_iff
    (input : List UInt8)
    (transcript : Transcript) :
    transcript = of input ↔ transcript.IsWhole ∧ transcript.bytes = input := by
  constructor
  · rintro rfl
    exact ⟨isWhole_of input, bytes_of input⟩
  · rintro ⟨whole, rfl⟩
    exact eq_of_isWhole whole

end Transcript

end MixUnits
