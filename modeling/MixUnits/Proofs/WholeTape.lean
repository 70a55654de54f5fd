import MixUnits.Device.PaperTape
import MixUnits.Proofs.Characters
import MixUnits.Proofs.Window

/-!
# Paper tapes that are punched whole

Whatever is punched, and whatever its file held before, a paper tape has seventy thousand
characters: five for each of fourteen thousand words, the last field of a word first.  Words
that are missing are punched as zeros, and words that are too many are left out.  Five
characters that are read the other way round are the word again, but for its sign, if its
fields have forms.

The channel hands the punch what there is of memory from the address on.
-/

namespace MixUnits

namespace PaperTape

/-- A tape has the characters of fourteen thousand words, the last field of each word first. -/
structure IsTapeOf
    (words : Nat → Word)
    (contents : Array UInt8) :
    Prop where
  size : contents.size = 70000
  characters :
    ∀ index column,
      index < 14000 →
        column < 5 →
          contents[5 * index + column]? =
            some (Code.toByte ((words index).field (4 - column)))

/-- The word whose characters are the five at an index of a tape, read the other way round. -/
def wordAt
    (contents : Array UInt8)
    (index : Nat) :
    Word :=
  let group := ((contents.toList.drop (5 * index)).take 5).reverse
  Word.ofFields fun column => (group[column.val]?.map Code.ofByte).getD Code.blank

theorem size_paperGeometry : paperGeometry.size = 14000 :=
  rfl

theorem length_reverse_text (word : Word) : word.text.reverse.length = 5 := by
  rw [List.length_reverse, Word.length_text]

/-- The characters of a word that is punched are the forms of its fields, the last one first. -/
theorem getElem?_reverse_text
    (word : Word)
    {column : Nat}
    (within : column < 5) :
    word.text.reverse[column]? = some (Code.toByte (word.field (4 - column))) := by
  have mirrored : 5 - 1 - column < 5 := by omega
  rw [List.getElem?_reverse (Nat.lt_of_lt_of_eq within word.length_text.symm), word.length_text]
  exact word.getElem?_text ⟨5 - 1 - column, mirrored⟩

theorem isTapeOf_encode (buffer : Buffer) :
    IsTapeOf (fun index => buffer[index]?.getD .zero) (encode buffer).toArray where
  size := by
    rw [List.size_toArray, encode, length_flatMap_of_length fun _ => length_reverse_text _,
      List.length_range, size_paperGeometry]
  characters := by
    intro index column inside within
    rw [List.getElem?_toArray, encode,
      getElem?_flatMap_of_length (fun _ => length_reverse_text _) within, size_paperGeometry,
      List.getElem?_range inside, Option.bind_some, getElem?_reverse_text _ within]

/-- What is punched on a tape is read back, but for the signs, where all fields have forms. -/
theorem wordAt_of_isTapeOf
    {words : Nat → Word}
    {contents : Array UInt8}
    (punched : IsTapeOf words contents)
    {index : Nat}
    (inside : index < 14000)
    (formed : (words index).IsFormed) :
    wordAt contents index = (words index).unsigned := by
  rw [wordAt, ← Word.ofFields_fields]
  refine congrArg Word.ofFields (funext fun column => ?_)
  have length : ((contents.toList.drop (5 * index)).take 5).length = 5 := by
    rw [List.length_take, List.length_drop, Array.length_toList, punched.size]
    omega
  have mirrored : 5 - 1 - column.val < 5 := by omega
  have same : 4 - (5 - 1 - column.val) = column.val := by omega
  rw [List.getElem?_reverse (Nat.lt_of_lt_of_eq column.isLt length.symm), length,
    List.getElem?_take_of_lt mirrored, List.getElem?_drop, Array.getElem?_toList,
    punched.characters index _ inside mirrored, same, Option.map_some, Option.getD_some,
    Code.ofByte]
  exact congrArg (Option.getD · Code.absent) (Code.ofByte?_toByte (formed column))

/-- Only the words that a tape has matter to it. -/
theorem IsTapeOf.congr
    {words others : Nat → Word}
    {contents : Array UInt8}
    (punched : IsTapeOf words contents)
    (same : ∀ index, index < 14000 → words index = others index) :
    IsTapeOf others contents where
  size := punched.size
  characters := by
    intro index column inside within
    rw [← same index inside]
    exact punched.characters index column inside within

/-- A punch that can write its file leaves a whole tape there. -/
theorem output_of_isWritable
    (punch : PaperTape)
    {files : FileSystem}
    (writable : files.isWritable punch.path = true)
    (now : UInt64)
    (buffer : Buffer) :
    (punch.output now files buffer).accepted = true ∧
      (punch.output now files buffer).files.read punch.path =
        .ok (encode buffer).toArray :=
  ⟨rfl, FileSystem.read_replace writable _ _⟩

/-- A punch that is asked through the channel gets what there is of memory from an address on. -/
theorem perform_output_of_room
    {machine : Machine}
    {punch : PaperTape}
    {unit address : Nat}
    (found : machine.device? unit = some (.paperTape punch))
    (writable : machine.files.isWritable punch.path = true)
    (room : address + 14 ≤ machine.memory.size)
    (now : UInt64) :
    let stop := min (address + 14000) machine.memory.size
    let performed := machine.perform now ⟨unit, .output, address⟩
    performed.accepted = true ∧
      performed.unit.files.read punch.path =
        .ok (encode (machine.memory.slice address stop)).toArray := by
  intro stop performed
  rcases Machine.perform_output_of_room now found room with ⟨accepted, -, files⟩
  rcases punch.output_of_isWritable writable now (machine.memory.slice address stop) with
    ⟨taken, punched⟩
  exact ⟨accepted.trans taken, (congrArg (FileSystem.read · punch.path) files).trans punched⟩

/--
A punch that can write its file leaves a whole tape there, whatever the file held before and
however long the buffer is: the words that the buffer does not have are zeros, and those that
the tape has no place for are left out.  Every word whose fields have forms is read back but
for its sign.  Asked through the channel, with room for a block, the punch takes the words of
memory from the address on, as far as memory and the tape go.
-/
theorem output_punches_whole_tape
    (punch : PaperTape)
    (files : FileSystem)
    (writable : files.isWritable punch.path = true) :
    (∀ now buffer,
      let words (index : Nat) := buffer[index]?.getD .zero
      let sent := punch.output now files buffer
      sent.accepted = true ∧
      ∃ contents,
        sent.files.read punch.path = .ok contents ∧
        IsTapeOf words contents ∧
        ∀ index,
          index < 14000 →
            (words index).IsFormed → wordAt contents index = (words index).unsigned) ∧
    ∀ (channel : Channel) (unit address : Nat) (rest : List Request),
      channel.pending = ⟨unit, .output, address⟩ :: rest →
        channel.machine.device? unit = some (.paperTape punch) →
          channel.machine.busy channel.now unit = false →
            channel.machine.files = files →
              address + 14 ≤ channel.machine.memory.size →
                let memory := channel.machine.memory
                let stop := min (address + 14000) memory.size
                let words (index : Nat) :=
                  if address + index < stop then memory[address + index]?.getD .zero else .zero
                ∃ issued contents,
                  channel.step? = some issued ∧
                  issued.channel.pending = rest ∧
                  issued.completion.accepted = true ∧
                  issued.channel.machine.memory = memory ∧
                  issued.channel.machine.files.read punch.path = .ok contents ∧
                  IsTapeOf words contents := by
  constructor
  · intro now buffer words sent
    have punched := isTapeOf_encode buffer
    rcases punch.output_of_isWritable writable now buffer with ⟨accepted, read⟩
    refine ⟨accepted, _, read, punched, ?_⟩
    intro index inside formed
    exact wordAt_of_isTapeOf punched inside formed
  · rintro channel unit address rest held found ready rfl room memory stop words
    rcases perform_output_of_room found writable room channel.now with ⟨accepted, read⟩
    refine
      ⟨channel.complete ⟨unit, .output, address⟩, _, Channel.step?_of_ready held ready,
        Channel.pending_complete held, accepted, ?_, read, ?_⟩
    · exact channel.machine.memory_perform_of_not_input channel.now nofun
    · refine (isTapeOf_encode _).congr fun index inside => ?_
      rw [Buffer.getElem?_slice]
      exact apply_ite (Option.getD · Word.zero) _ _ _

/-- A machine with twenty words of memory, the last of them an A and a sign, and a punch. -/
def punchMachine : Machine :=
  { Machine.blank .empty with
    memory := (Buffer.blank 19).push (.truncate .negative 16777216) }.place 20
    (some (.paperTape (.mount "p")))

/-- A channel on which the last fourteen words of memory are to be punched. -/
def lastWords : Channel :=
  ((Channel.idle punchMachine).submit ⟨20, .output, 6⟩).unit

/-- The last word of memory is the fourteenth of the tape, with the A behind four blanks. -/
theorem output_punches_last_words :
    FileSystem.empty.isWritable "p" = true ∧
      lastWords.pending = [⟨20, .output, 6⟩] ∧
        lastWords.machine.memory.size = 20 ∧
          ∃ issued contents,
            lastWords.step? = some issued ∧
              issued.completion.accepted = true ∧
                issued.channel.machine.files.read "p" = .ok contents ∧
                  contents.size = 70000 ∧
                    contents[68]? = some 32 ∧
                      contents[69]? = some 65 ∧ contents[70]? = some 32 := by
  have writable : FileSystem.empty.isWritable "p" = true := by decide
  have held : lastWords.pending = [⟨20, .output, 6⟩] := by decide
  have ready : lastWords.machine.busy lastWords.now 20 = false := by decide
  have size : lastWords.machine.memory.size = 20 := by decide
  have found : lastWords.machine.device? 20 = some (.paperTape (.mount "p")) := rfl
  rcases (output_punches_whole_tape (.mount "p") .empty writable).2 lastWords 20 6 [] held found
    ready rfl (by decide) with ⟨issued, contents, stepped, -, accepted, -, read, punched⟩
  refine
    ⟨writable, held, size, issued, contents, stepped, accepted, read, punched.size, ?_, ?_, ?_⟩
  · exact (punched.characters 13 3 (by decide) (by decide)).trans (by decide)
  · exact (punched.characters 13 4 (by decide) (by decide)).trans (by decide)
  · exact (punched.characters 14 0 (by decide) (by decide)).trans (by decide)

end PaperTape

end MixUnits
