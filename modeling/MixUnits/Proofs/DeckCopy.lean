import MixUnits.Program
import MixUnits.Proofs.Backing
import MixUnits.Proofs.Deck
import MixUnits.Proofs.Tape
import MixUnits.Proofs.Transfer

/-!
# What a copy of a deck leaves on the tape

Reader and tape take turns on the page at the beginning of memory.  The reader lays its
card over the page, or leaves the page as it is if it cannot read the card; the tape takes
the page and the zeros behind it for its next block.  So the block of a card holds the
last card that could be read, up to this one.

The invariant counts the cards that were read and those that were written.  It gives the
page, the calls of the tape, and the files, which are the original ones with the tape saved
once, the last time.
-/

namespace MixUnits

namespace CardCopy

/-- The words of the last of some cards that can be read; without one, zeros. -/
def held
    (files : FileSystem)
    (deck : String) :
    Nat → List Word
  | 0 => List.replicate 16 .zero
  | card + 1 =>
    match files.read (Card.path deck card) with
    | .ok contents => Card.decode 16 contents.toList
    | .error _ => held files deck card

section Held

variable
  {files : FileSystem}
  {deck : String}
  {card : Nat}

theorem held_succ_of_read
    {contents : Array UInt8}
    (read : files.read (Card.path deck card) = .ok contents) :
    held files deck (card + 1) = Card.decode 16 contents.toList := by
  rw [held, read]

theorem held_succ_of_unread
    {cause : FileError}
    (unread : files.read (Card.path deck card) = .error cause) :
    held files deck (card + 1) = held files deck card := by
  rw [held, unread]

end Held

@[simp]
theorem length_held
    (files : FileSystem)
    (deck : String)
    (cards : Nat) :
    (held files deck cards).length = 16 := by
  induction cards with
  | zero => rfl
  | succ card ih =>
      rw [held]
      split
      · exact Card.length_decode 16 _
      · exact ih

/-- The page in memory after some cards were read. -/
def page
    (files : FileSystem)
    (deck : String)
    (cards : Nat) :
    Buffer :=
  (held files deck cards).toArray

@[simp]
theorem size_page
    (files : FileSystem)
    (deck : String)
    (cards : Nat) :
    (page files deck cards).size = 16 := by
  simp [page]

/-- What the tape takes from memory for the block of a card. -/
def taken
    (files : FileSystem)
    (deck : String)
    (card : Nat) :
    Buffer :=
  (memoryOf (page files deck (card + 1))).slice 0 100

theorem getElem?_taken
    (files : FileSystem)
    (deck : String)
    (card : Nat)
    {offset : Nat}
    (within : offset < 100) :
    (taken files deck card)[offset]? =
      some ((held files deck (card + 1))[offset]?.getD .zero) := by
  have inside : offset < memorySize := Nat.lt_trans within (by decide)
  rw [taken, Buffer.getElem?_slice, Nat.zero_add, if_pos within, getElem?_memoryOf _ inside,
    page, List.getElem?_toArray]

/-- The calls of the tape for some cards. -/
def calls
    (files : FileSystem)
    (deck : String)
    (cards : Nat) :
    List Tape.Call :=
  (List.range cards).map fun card => .output (taken files deck card)

theorem length_calls
    (files : FileSystem)
    (deck : String)
    (cards : Nat) :
    (calls files deck cards).length = cards := by
  rw [calls, List.length_map, List.length_range]

theorem calls_succ
    (files : FileSystem)
    (deck : String)
    (cards : Nat) :
    calls files deck (cards + 1) =
      calls files deck cards ++ [.output (taken files deck cards)] := by
  rw [calls, List.range_succ, List.map_append]
  rfl

section Copies

variable
  (copy : CardCopy)
  (files : FileSystem)

/-- The blocks of the tape after a copy: those of the cards, and the original ones. -/
def copied : BlockArray :=
  fun block offset =>
    if block < copy.count then
      (held files copy.deck (block + 1))[offset]?.getD .zero
    else
      BlockArray.ofFile Medium.tape.geometry files copy.tape block offset

/-- The image of the tape after some cards were written. -/
def image (cards : Nat) : Array UInt8 :=
  Image.encode
    ((Tape.recorded (BlockArray.ofFile Medium.tape.geometry files copy.tape)
      (calls files copy.deck cards)).words Medium.tape.geometry)

/-- The files after some cards were written. -/
def filesAfter (cards : Nat) : FileSystem :=
  if cards = 0 then files
  else
    (files.replace copy.tape (Thunk.mk fun _ => copy.image files cards)
      (.backingUnwritable copy.tape)).1

theorem image_count :
    copy.image files copy.count =
      Image.encode ((copy.copied files).words Medium.tape.geometry) := by
  refine congrArg Image.encode (BlockArray.words_congr ?_)
  intro block offset _ within
  have within : offset < 100 := within
  rw [Tape.recorded, copied]
  by_cases early : block < copy.count
  · have call :
        (calls files copy.deck copy.count)[block]? =
          some (.output (taken files copy.deck block)) := by
      simp [calls, early]
    rw [call, if_pos early]
    simp only [getElem?_taken files copy.deck block within, Option.getD_some]
  · have none : (calls files copy.deck copy.count)[block]? = none := by
      apply List.getElem?_eq_none
      rw [length_calls]
      exact Nat.le_of_not_lt early
    rw [none, if_neg early]

/-- A copy has read some cards and written some. -/
structure HasCopied
    (machine : Machine)
    (read written : Nat) :
    Prop where
  reader :
    ∃ reader : CardReader,
      machine.device? UnitNumber.cardReader = some (.cardReader reader) ∧
        reader.deck = copy.deck ∧ reader.store.cursor = read
  tape :
    ∃ tape : Tape,
      machine.device? UnitNumber.tape = some (.tape tape) ∧
        Tape.HasDone tape copy.tape
          (BlockArray.ofFile Medium.tape.geometry files copy.tape)
          (calls files copy.deck written)
  memory : machine.memory = memoryOf (page files copy.deck read)
  files_eq : machine.files = copy.filesAfter files written

theorem hasCopied_machine :
    copy.HasCopied files (copy.machine files).1 0 0 := by
  rcases @Drive.stores_mount .tape files copy.tape with ⟨path, cursor, -, stored⟩
  refine ⟨⟨.mount copy.deck, rfl, rfl, rfl⟩, ⟨_, rfl, path, cursor, stored⟩, ?_, rfl⟩
  have blank : page files copy.deck 0 = Buffer.blank 16 := rfl
  rw [blank, memoryOf_blank]
  rfl

end Copies

section Steps

variable
  {copy : CardCopy}
  {files : FileSystem}
  {machine : Machine}
  {cards : Nat}

/-- A card that does not lie where the tape is saved is not touched by the copy. -/
theorem read_filesAfter_iff
    {card : Nat}
    (apart :
      ∀ place, files.walk copy.tape = .ok place →
        files.walk (Card.path copy.deck card) ≠ .ok place)
    (cards : Nat)
    (contents : Array UInt8) :
    (copy.filesAfter files cards).read (Card.path copy.deck card) = .ok contents ↔
      files.read (Card.path copy.deck card) = .ok contents := by
  rw [filesAfter]
  split
  · exact Iff.rfl
  · exact FileSystem.read_replace_iff_of_apart apart _ _ _

/-- The next card takes the place of the one before it if it can be read. -/
theorem buffer_input_page
    {reader : CardReader}
    {others : FileSystem}
    (same :
      ∀ contents,
        others.read (Card.path reader.deck reader.store.cursor) = .ok contents ↔
          files.read (Card.path reader.deck reader.store.cursor) = .ok contents)
    (now : UInt64) :
    (reader.input now others (page files reader.deck reader.store.cursor)).buffer =
      page files reader.deck (reader.store.cursor + 1) := by
  cases found : others.read (Card.path reader.deck reader.store.cursor) with
  | ok contents =>
      rw [CardReader.buffer_input_of_size found now (size_page _ _ _), page,
        held_succ_of_read ((same contents).1 found)]
  | error cause =>
      rw [CardReader.buffer_input_of_unread found]
      cases original : files.read (Card.path reader.deck reader.store.cursor) with
      | ok contents => simp [(same contents).2 original] at found
      | error other => rw [page, page, held_succ_of_unread original]

theorem hasCopied_read
    (copied : copy.HasCopied files machine cards cards)
    (apart :
      ∀ place, files.walk copy.tape = .ok place →
        files.walk (Card.path copy.deck cards) ≠ .ok place) :
    let performed := machine.perform 0 ⟨UnitNumber.cardReader, .input, 0⟩
    performed.accepted = true ∧
      copy.HasCopied files performed.unit (cards + 1) cards := by
  rcases copied with ⟨⟨reader, found, deck, cursor⟩, ⟨tape, mounted, done⟩, memory, files_eq⟩
  have same (contents : Array UInt8) :
      machine.files.read (Card.path reader.deck reader.store.cursor) = .ok contents ↔
        files.read (Card.path reader.deck reader.store.cursor) = .ok contents := by
    rw [files_eq, deck, cursor]
    exact read_filesAfter_iff apart cards contents
  have next := buffer_input_page same 0
  rw [deck, cursor] at next
  have received :
      ((Device.cardReader reader).input 0 machine.files (page files copy.deck cards)).buffer =
        page files copy.deck (cards + 1) :=
    next
  have kept :
      ((Device.cardReader reader).input 0 machine.files
        (page files copy.deck cards)).buffer.size = (page files copy.deck cards).size := by
    rw [received, size_page, size_page]
  rcases Machine.perform_input_page found (size_page files copy.deck cards).symm rfl
    (by rw [size_page]; decide) memory 0 kept with ⟨accepted, attached, delivered, untouched⟩
  rcases reader.unit_input 0 machine.files (page files copy.deck cards) with
    ⟨taken, still, moved⟩
  rw [cursor] at moved
  refine ⟨accepted.trans taken, ⟨_, attached, still.trans deck, moved⟩, ⟨tape, ?_, done⟩, ?_,
    untouched.trans files_eq⟩
  · rw [Machine.device?_perform_of_ne machine 0 (by decide)]
    exact mounted
  · rw [delivered, received]

theorem image_succ_of_full (full : 2000 ≤ cards) :
    copy.image files (cards + 1) = copy.image files cards := by
  have number := length_calls files copy.deck cards
  rw [image, calls_succ, Tape.words_recorded_append _ _ (number.symm ▸ full), image]

/-- The tape takes a page for its next block and is saved; a full tape is left alone. -/
theorem output_taken
    {tape : Tape}
    (done :
      Tape.HasDone tape copy.tape (BlockArray.ofFile Medium.tape.geometry files copy.tape)
        (calls files copy.deck cards))
    (now : UInt64) :
    let sent := tape.output now (copy.filesAfter files cards) (taken files copy.deck cards)
    sent.accepted = decide (cards < 2000) ∧
      sent.files = copy.filesAfter files (cards + 1) := by
  have number := length_calls files copy.deck cards
  rcases Nat.lt_or_ge cards 2000 with early | late
  · have room : (calls files copy.deck cards).length < 2000 := number.symm ▸ early
    have cursor := done.cursor_of_room room
    have inside : tape.store.cursor < Medium.tape.geometry.blockCount := cursor ▸ room
    have saved :=
      Drive.files_output_of_inside done.stored inside now (copy.filesAfter files cards)
        (taken files copy.deck cards)
    rw [done.path_eq, cursor, ← Tape.recorded_output, ← calls_succ] at saved
    refine ⟨(Tape.output_of_room done room now _ _).1.trans (decide_eq_true early).symm, ?_⟩
    refine saved.trans ?_
    -- The first save replaces the original file, every later one an image of this tape.
    change _ = (files.replace copy.tape _ _).1
    rw [filesAfter]
    split
    · rfl
    · exact FileSystem.replace_replace _ _ _ _
  · have full : 2000 ≤ (calls files copy.deck cards).length := number.symm ▸ late
    rcases Tape.refused_of_full done full now (copy.filesAfter files cards)
      (taken files copy.deck cards) with ⟨-, refused, -, kept⟩
    have some : cards ≠ 0 := Nat.ne_of_gt (Nat.lt_of_lt_of_le (by decide) late)
    refine ⟨refused.trans (decide_eq_false (Nat.not_lt_of_le late)).symm, kept.trans ?_⟩
    rw [filesAfter, filesAfter, if_neg some, if_neg (Nat.succ_ne_zero cards),
      image_succ_of_full late]

theorem hasCopied_write
    (copied : copy.HasCopied files machine (cards + 1) cards) :
    let performed := machine.perform 0 ⟨UnitNumber.tape, .output, 0⟩
    performed.accepted = decide (cards < 2000) ∧
      copy.HasCopied files performed.unit (cards + 1) (cards + 1) := by
  rcases copied with ⟨⟨reader, found, deck, cursor⟩, ⟨tape, mounted, done⟩, memory, files_eq⟩
  have room : 0 + (Device.tape tape).blockSize ≤ machine.memory.size := by
    have fits : 0 + 100 ≤ memorySize := by decide
    rwa [memory, size_memoryOf]
  have window : machine.memory.slice 0 (0 + 100) = taken files copy.deck cards := by
    rw [memory]
    rfl
  rcases Machine.perform_output mounted rfl room 0 with ⟨accepted, attached, kept, sent⟩
  have following :
      Tape.HasDone (tape.output 0 machine.files (taken files copy.deck cards)).unit copy.tape
        (BlockArray.ofFile Medium.tape.geometry files copy.tape)
        (calls files copy.deck (cards + 1)) := by
    rw [calls_succ]
    exact Tape.hasDone_output done 0 machine.files _
  rcases output_taken done 0 with ⟨answer, saved⟩
  rw [← files_eq, ← window] at answer saved
  rw [← window] at following
  refine ⟨accepted.trans answer, ⟨reader, ?_, deck, cursor⟩, ⟨_, attached, following⟩,
    kept.trans memory, sent.trans saved⟩
  rw [Machine.device?_perform_of_ne machine 0 (by decide)]
  exact found

/-- The requests for some cards read and write all of them, as far as there is tape. -/
theorem hasCopied_performAll
    (apart :
      ∀ card < cards, ∀ place, files.walk copy.tape = .ok place →
        files.walk (Card.path copy.deck card) ≠ .ok place) :
    let performance :=
      (copy.machine files).1.performAll 0 (List.replicate cards cardRequests).flatten
    performance.accepted =
        ((List.range cards).flatMap fun card => [true, decide (card < 2000)]) ∧
      copy.HasCopied files performance.machine cards cards := by
  induction cards with
  | zero => exact ⟨rfl, copy.hasCopied_machine files⟩
  | succ cards ih =>
      rcases ih fun card early => apart card (Nat.lt_succ_of_lt early) with
        ⟨accepted, copied⟩
      rcases hasCopied_read copied (apart cards (Nat.lt_succ_self cards)) with
        ⟨taken, read⟩
      rcases hasCopied_write read with ⟨given, written⟩
      rw [List.replicate_succ', List.flatten_append, List.flatten_singleton,
        Machine.performAll_append, List.range_succ, List.flatMap_append,
        List.flatMap_singleton]
      refine ⟨?_, written⟩
      have pair := congrArg₂ (fun one other => [one, other]) taken given
      exact congrArg₂ (· ++ ·) accepted pair

end Steps

/--
A copy comes to its end, and refuses nothing but what is behind the last block of the tape.
Without cards, or if the tape cannot be saved, no file changes.  Otherwise the tape changes
and no other file, and it becomes an image of two thousand blocks.  The block of a card has
the sixteen words of the last card up to this one that can be read, with zeros behind them;
every other block has the numbers that were stored there, but for the bit that no word has.
The words of a card are positive, and their fields are the codes of its bytes in their places.
-/
theorem run_copies_deck
    (copy : CardCopy)
    (files : FileSystem)
    (apart :
      ∀ card < copy.count, ∀ place, files.walk copy.tape = .ok place →
        files.walk (Card.path copy.deck card) ≠ .ok place) :
    let run := (Channel.idle (copy.machine files).1).run copy.requests
    let after := run.channel.machine.files
    let image := Image.encode ((copy.copied files).words Medium.tape.geometry)
    run.finished = true ∧
      (Channel.completions run.steps.toList).map Completion.accepted =
        ((List.range copy.count).flatMap fun card => [true, decide (card < 2000)]) ∧
      (copy.count = 0 ∨ files.isWritable copy.tape = false → after = files) ∧
      (0 < copy.count → files.isWritable copy.tape = true →
        ∃ place,
          files.walk copy.tape = .ok place ∧
            (∀ location, location ≠ place → after.node? location = files.node? location) ∧
            after.read copy.tape = .ok image) ∧
      image.size = 800000 ∧
      (∀ block offset,
        block < 2000 → offset < 100 →
          Image.bits? image (block * 100 + offset) =
            some
              (if block < copy.count then
                ((held files copy.deck (block + 1))[offset]?.getD .zero).toBits
              else
                files.storedBits copy.tape (block * 100 + offset) &&& 0xBFFFFFFF)) ∧
      held files copy.deck 0 = List.replicate 16 .zero ∧
      (∀ card,
        let path := Card.path copy.deck card
        (∀ cause,
          files.read path = .error cause →
            held files copy.deck (card + 1) = held files copy.deck card) ∧
        ∀ contents,
          files.read path = .ok contents →
            (held files copy.deck (card + 1)).length = 16 ∧
            ∀ index,
              index < 16 →
                ∃ word,
                  (held files copy.deck (card + 1))[index]? = some word ∧
                    word.sign = .positive ∧
                      ∀ column,
                        column < 5 →
                          word.field column =
                            (contents[5 * index + column + (index - 1) / 4]?.bind
                              Code.ofByte?).getD Code.blank) ∧
      ∀ input text,
        Text.Decimal.read? text = some copy.count →
          (Program.carryOut files input (.cards copy.deck copy.tape text)).files = after := by
  intro run after image
  rcases hasCopied_performAll apart with ⟨accepted, copied⟩
  rcases Channel.run_idle (copy.machine files).1 copy.requests with
    ⟨finished, alike, atRest⟩
  have same := congrArg Machine.files atRest
  have files_eq : after = copy.filesAfter files copy.count := same.trans copied.files_eq
  refine ⟨finished, alike.trans accepted, ?_, ?_, Drive.size_image .tape _, ?_, rfl, ?_, ?_⟩
  · intro nothing
    rw [files_eq, filesAfter]
    split
    · rfl
    · next some =>
      exact FileSystem.replace_of_not_writable (nothing.resolve_left some) _ _
  · intro some writable
    rcases (FileSystem.isWritable_iff_place copy.tape).1 writable with
      ⟨place, walked, named, free⟩
    rw [files_eq, filesAfter, if_neg (Nat.ne_of_gt some)]
    refine ⟨place, walked, ?_, ?_⟩
    · intro location elsewhere
      rw [FileSystem.replace_of_place walked named free]
      exact FileSystem.node?_put_of_ne files _ elsewhere
    · rw [FileSystem.read_replace writable]
      exact congrArg Except.ok (copy.image_count files)
  · intro block offset inside within
    have stored : Image.bits? image (block * 100 + offset) = _ :=
      BlockArray.bits?_encode_words (copy.copied files) inside within
    refine stored.trans (congrArg some ?_)
    rw [CardCopy.copied]
    split
    · rfl
    · rw [BlockArray.ofFile_eq_storedBits, Word.toBits_ofBits]
      rfl
  · intro card path
    refine ⟨?_, ?_⟩
    · intro cause unread
      exact held_succ_of_unread unread
    · intro contents read
      refine ⟨length_held files copy.deck _, ?_⟩
      intro index within
      rw [held_succ_of_read read]
      exact Card.exists_getElem?_decode contents within
  · intro input text read
    simp only [Program.carryOut, Program.number, read, CardCopy.run]
    rfl

/-- A copy of two cards. -/
def twoCards : CardCopy :=
  ⟨"c", "t", 2⟩

/-- Files among which the first of two cards is, with a letter on it, and nothing else. -/
def firstCard : FileSystem :=
  FileSystem.empty.put ["c0.card"] (.file (Thunk.mk fun _ => #[65]))

theorem apart_twoCards :
    ∀ card < twoCards.count, ∀ place, firstCard.walk twoCards.tape = .ok place →
      firstCard.walk (Card.path twoCards.deck card) ≠ .ok place := by
  intro card few place walked same
  have tape : firstCard.walk twoCards.tape = .ok ["t"] := rfl
  obtain rfl : ["t"] = place := Except.ok.inj (tape.symm.trans walked)
  have cases : card = 0 ∨ card = 1 := by
    have bound : card < 2 := few
    omega
  rcases cases with rfl | rfl
  · have found : firstCard.walk (Card.path twoCards.deck 0) = .ok ["c0.card"] := rfl
    exact absurd (Except.ok.inj (found.symm.trans same)) (by decide)
  · have found : firstCard.walk (Card.path twoCards.deck 1) = .ok ["c1.card"] := rfl
    exact absurd (Except.ok.inj (found.symm.trans same)) (by decide)

/-- The block of the card that is missing is like the block of the card before it. -/
theorem run_copies_missing_card :
    let run := (Channel.idle (twoCards.machine firstCard).1).run twoCards.requests
    run.finished = true ∧
      ∃ image,
        run.channel.machine.files.read twoCards.tape = .ok image ∧
          Image.bits? image 0 = some 0x1000000 ∧
          Image.bits? image 100 = some 0x1000000 ∧ Image.bits? image 200 = some 0 := by
  have writable : firstCard.isWritable twoCards.tape = true := by decide
  rcases run_copies_deck twoCards firstCard apart_twoCards with
    ⟨finished, -, -, copied, -, bits, -⟩
  rcases copied (by decide) writable with ⟨place, -, -, read⟩
  refine ⟨finished, _, read, ?_, ?_, ?_⟩
  · exact (bits 0 0 (by decide) (by decide)).trans (by decide)
  · exact (bits 1 0 (by decide) (by decide)).trans (by decide)
  · exact (bits 2 0 (by decide) (by decide)).trans (by decide)

end CardCopy

end MixUnits
