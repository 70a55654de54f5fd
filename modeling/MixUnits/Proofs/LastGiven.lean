import Mathlib.Data.List.Induction
import MixUnits.BlockStore.Call
import MixUnits.Device.Drive
import MixUnits.Proofs.BlockArray
import MixUnits.Proofs.Window

/-!
# What a store was last given

A word of a store is the one that it was given last, by a write to its block, or when all
words were set; and a word that was never given one is zero.  So a block that is read gives
back what was written to it, whatever was written to the other blocks before and after, and
whatever the lengths of the buffers were.  Tapes and disks are read and written in this way.

The history of the calls is the specification.  The invariant is that the words of the store
are those of the array that the history describes; one call keeps it, and so does every run.
-/

namespace MixUnits.BlockStore

/-- The word that a call gives to an offset of a block, if it gives one. -/
def Call.given?
    (geometry : Geometry)
    (block offset : Nat) :
    Call → Option Word
  | .write index buffer => if block = index.toNat then buffer[offset]? else none
  | .fill word => some word
  | .load image => Image.word? image (block * geometry.blockSize + offset)
  | .setCursor _ | .advance | .markBusy .. | .read .. => none

/-- The word that an offset of a block was given last, and zero if it was given none. -/
def lastGiven
    (geometry : Geometry)
    (calls : List Call) :
    BlockArray :=
  fun block offset =>
    (calls.reverse.findSome? (Call.given? geometry block offset)).getD .zero

theorem lastGiven_append
    (geometry : Geometry)
    (calls : List Call)
    (call : Call) :
    lastGiven geometry (calls ++ [call]) =
      fun block offset =>
        (call.given? geometry block offset).getD (lastGiven geometry calls block offset) := by
  funext block offset
  rw [lastGiven, List.reverse_append, List.reverse_singleton, List.singleton_append,
    List.findSome?_cons]
  cases call.given? geometry block offset with
  | none => rfl
  | some word => rfl

section Calls

variable
  {geometry : Geometry}
  (store : BlockStore geometry)
  {index : Nat}

theorem read_of_inside
    (inside : index < geometry.blockCount)
    (buffer : Buffer) :
    let received := store.read index buffer
    received.accepted = true ∧
      received.unit = store ∧ received.buffer = buffer.overlay 0 (store.block index) := by
  have filled : store.readBlock? index buffer = some (buffer.overlay 0 (store.block index)) :=
    if_pos inside
  simp only [read, filled, and_self]

theorem read_of_outside
    (outside : geometry.blockCount ≤ index)
    (buffer : Buffer) :
    let received := store.read index buffer
    received.accepted = false ∧ received.unit = store ∧ received.buffer = buffer := by
  have nothing : store.readBlock? index buffer = none := if_neg (Nat.not_lt_of_le outside)
  simp only [read, nothing]
  exact ⟨rfl, rfl, rfl⟩

/-- Whether or not a block can be read, the store stays as it is. -/
theorem unit_read
    (index : Nat)
    (buffer : Buffer) :
    (store.read index buffer).unit = store := by
  rcases Nat.lt_or_ge index geometry.blockCount with inside | outside
  · exact (store.read_of_inside inside buffer).2.1
  · exact (store.read_of_outside outside buffer).2.1

theorem write_of_inside
    (inside : index < geometry.blockCount)
    (buffer : Buffer) :
    let answer := store.write index buffer
    answer.accepted = true ∧
      answer.unit.cursor = store.cursor ∧
        answer.unit.busyUntil = store.busyUntil ∧
          answer.unit.words =
            store.words.overlay (index * geometry.blockSize)
              (buffer.slice 0 geometry.blockSize) := by
  obtain ⟨written, wrote, cursor, busy, words⟩ :
      ∃ written : BlockStore geometry,
        store.writeBlock? index buffer = some written ∧
          written.cursor = store.cursor ∧
            written.busyUntil = store.busyUntil ∧
              written.words =
                store.words.overlay (index * geometry.blockSize)
                  (buffer.slice 0 geometry.blockSize) :=
    ⟨_, if_pos inside, rfl, rfl, rfl⟩
  simp only [write, wrote, true_and]
  exact ⟨cursor, busy, words⟩

theorem write_of_outside
    (outside : geometry.blockCount ≤ index)
    (buffer : Buffer) :
    let answer := store.write index buffer
    answer.accepted = false ∧ answer.unit = store := by
  have nothing : store.writeBlock? index buffer = none := if_neg (Nat.not_lt_of_le outside)
  simp only [write, nothing]
  exact ⟨rfl, rfl⟩

/-- The words of a block are a window of the words of the store. -/
theorem isWindow_block
    (inside : index < geometry.blockCount) :
    store.words.IsWindow (index * geometry.blockSize)
      (index * geometry.blockSize + geometry.blockSize) (store.block index) := by
  have room : (index + 1) * geometry.blockSize ≤ store.words.size := by
    rw [store.size_words, Geometry.size, Nat.mul_comm geometry.blockSize]
    exact Nat.mul_le_mul_right _ inside
  rw [Nat.succ_mul] at room
  rw [block, Nat.succ_mul]
  exact Buffer.isWindow_slice (Nat.le_add_right _ _) room

/-- A buffer replaces the words at the beginning of a block, as many as it has for them. -/
theorem isReplaced_write
    (inside : index < geometry.blockCount)
    (buffer : Buffer) :
    store.words.IsReplaced (index * geometry.blockSize)
      (index * geometry.blockSize + min buffer.size geometry.blockSize) buffer
      (store.write index buffer).unit.words := by
  have room := (store.isWindow_block inside).inside
  have size :
      (buffer.slice 0 geometry.blockSize).size =
        index * geometry.blockSize + min buffer.size geometry.blockSize -
          index * geometry.blockSize := by
    rw [Buffer.size_slice, Nat.sub_zero, Nat.min_comm, Nat.add_sub_cancel_left]
  have reached :
      index * geometry.blockSize + min buffer.size geometry.blockSize ≤ store.words.size :=
    Nat.le_trans (Nat.add_le_add_left (Nat.min_le_right _ _) _) room
  have replaced := Buffer.isReplaced_overlay reached size
  rw [(store.write_of_inside inside buffer).2.2.2]
  refine ⟨replaced.size, ?_, replaced.outside⟩
  intro place behind before
  rw [replaced.inside place behind before, Buffer.getElem?_slice, Nat.zero_add,
    if_pos (by omega)]

end Calls

section History

variable
  {geometry : Geometry}
  {store : BlockStore geometry}
  {array : BlockArray}

theorem words_fill
    (store : BlockStore geometry)
    (word : Word) :
    (store.fill word).words = BlockArray.words geometry fun _ _ => word := by
  apply BlockArray.ext_blocks (store.fill word).size_words (BlockArray.size_words _)
  intro block offset inside within
  have held : block * geometry.blockSize + offset < store.words.size :=
    store.size_words ▸ BlockArray.index_lt_size inside within
  rw [BlockArray.getElem?_words _ inside within, fill, Array.getElem?_map,
    Array.getElem?_eq_getElem held, Option.map_some]

theorem words_load
    (stored : store.words = array.words geometry)
    (image : Array UInt8) :
    (store.load image).words =
      BlockArray.words geometry fun block offset =>
        (Image.word? image (block * geometry.blockSize + offset)).getD (array block offset) := by
  apply BlockArray.ext_blocks (store.load image).size_words (BlockArray.size_words _)
  intro block offset inside within
  have loaded : (store.load image).words = Image.load image store.words := rfl
  rw [BlockArray.getElem?_words _ inside within, loaded, stored, Image.load,
    Array.getElem?_mapIdx, BlockArray.getElem?_words _ inside within, Option.map_some]

/-- A write gives words to its own block and to no other, if there is such a block. -/
theorem words_write
    (stored : store.words = array.words geometry)
    (index : Nat)
    (buffer : Buffer) :
    (store.write index buffer).unit.words = (array.put index buffer).words geometry := by
  rcases Nat.lt_or_ge index geometry.blockCount with inside | outside
  · rw [(store.write_of_inside inside buffer).2.2.2, BlockArray.words_put, stored]
  · rw [(store.write_of_outside outside buffer).2, stored]
    apply BlockArray.words_congr
    intro block offset within _
    rw [BlockArray.put, if_neg (Nat.ne_of_lt (Nat.lt_of_lt_of_le within outside))]

theorem words_call
    (stored : store.words = array.words geometry)
    (next : Call) :
    (store.call next).words =
      BlockArray.words geometry fun block offset =>
        (next.given? geometry block offset).getD (array block offset) := by
  cases next with
  | setCursor block => exact stored
  | advance => exact stored
  | markBusy now latency => exact stored
  | read index buffer =>
      exact (congrArg words (store.unit_read index.toNat buffer)).trans stored
  | write index buffer =>
      have given :
          (fun block offset =>
            ((Call.write index buffer).given? geometry block offset).getD
              (array block offset)) =
            array.put index.toNat buffer := by
        funext block offset
        simp only [Call.given?, BlockArray.put]
        split
        · rfl
        · rfl
      rw [given]
      exact words_write stored index.toNat buffer
  | fill word => exact store.words_fill word
  | load image => exact words_load stored image

/-- A store has the words that it was last given. -/
theorem words_replay
    (geometry : Geometry)
    (calls : List Call) :
    (replay geometry calls).words = (lastGiven geometry calls).words geometry := by
  -- The newest call is the last of the list and the first that the history looks at.
  induction calls using List.reverseRecOn with
  | nil => exact BlockArray.words_blank.symm
  | append_singleton calls call ih =>
      rw [lastGiven_append, replay, List.foldl_append]
      exact words_call ih call

end History

/--
A store is an array of blocks in which nothing is lost or mixed up, whatever was done to it
and whatever its geometry is, as long as its words fit into one array.  It has as many words as
all its blocks.  A block can be read and written exactly if it is not outside, and then its
words are all there, in a window of the words of the store.  Writing puts the buffer in the
place of the first words of the block, as many as both have, and changes no other word; reading
gives the first words of the block as they were last given, and leaves the rest of the buffer.
Neither moves the cursor or the end of the last transfer, and what is refused changes nothing.

Wrapping arithmetic carries out every call; checked arithmetic stops at the first one that moves
the cursor or the end of a transfer beyond 64 bits, and does the same up to there.
-/
theorem blocks_keep_last_given
    {geometry : Geometry}
    (storable : geometry.IsStorable)
    (arithmetic : Arithmetic)
    (calls : List Call)
    (page : UInt64)
    (buffer : Buffer) :
    geometry.allocation? arithmetic = some (blank geometry).words ∧
    (replay? arithmetic geometry calls = none ↔
      arithmetic = .checked ∧
        ∃ earlier call later,
          calls = earlier ++ call :: later ∧
            (replay geometry earlier).overflows call = true) ∧
    ∀ store,
      replay? arithmetic geometry calls = some store →
        let index := page.toNat
        let start := index * geometry.blockSize
        let moved := min buffer.size geometry.blockSize
        let received := store.read index buffer
        let answer := store.write index buffer
        store.words.size = geometry.blockSize * geometry.blockCount ∧
        (received.accepted = true ↔ index < geometry.blockCount) ∧
        (answer.accepted = true ↔ index < geometry.blockCount) ∧
        (index < geometry.blockCount →
          store.words.IsWindow start (start + geometry.blockSize) (store.block index) ∧
          store.words.IsReplaced start (start + moved) buffer answer.unit.words ∧
          received.buffer.size = buffer.size ∧
          (∀ offset,
            offset < moved →
              received.buffer[offset]? = some (lastGiven geometry calls index offset)) ∧
          ∀ offset, moved ≤ offset → received.buffer[offset]? = buffer[offset]?) ∧
        (received.unit = store ∧
          answer.unit.cursor = store.cursor ∧ answer.unit.busyUntil = store.busyUntil) ∧
        (geometry.blockCount ≤ index → received.buffer = buffer ∧ answer.unit = store) := by
  refine
    ⟨Geometry.allocation?_of_isStorable storable arithmetic, Arithmetic.replay?_eq_none_iff, ?_⟩
  intro store given index start moved received answer
  have words : store.words = (lastGiven geometry calls).words geometry := by
    rw [Arithmetic.eq_foldl_of_replay? given]
    exact words_replay geometry calls
  rcases Nat.lt_or_ge index geometry.blockCount with inside | outside
  · rcases store.read_of_inside inside buffer with ⟨taken, kept, filled⟩
    rcases store.write_of_inside inside buffer with ⟨given, cursor, busy, -⟩
    have fetched : received.buffer = (lastGiven geometry calls).fetch geometry index buffer := by
      rw [filled, block, words, BlockArray.overlay_slice_words _ inside]
    refine
      ⟨store.size_words, iff_of_true taken inside, iff_of_true given inside, ?_,
        ⟨kept, cursor, busy⟩, fun outside => absurd inside (Nat.not_lt_of_le outside)⟩
    intro _
    rw [fetched]
    refine
      ⟨store.isWindow_block inside, store.isReplaced_write inside buffer,
        BlockArray.size_fetch _ _ _, ?_, ?_⟩
    · intro offset first
      rw [BlockArray.getElem?_fetch _ _ (Nat.lt_of_lt_of_le first (Nat.min_le_left _ _)),
        if_pos (Nat.lt_of_lt_of_le first (Nat.min_le_right _ _))]
    · intro offset rest
      by_cases within : offset < buffer.size
      · rw [BlockArray.getElem?_fetch _ _ within, if_neg (by omega)]
      · have beyond := Nat.le_of_not_lt within
        rw [Array.getElem?_eq_none beyond,
          Array.getElem?_eq_none ((BlockArray.size_fetch _ _ _).symm ▸ beyond)]
  · rcases store.read_of_outside outside buffer with ⟨refused, kept, untouched⟩
    rcases store.write_of_outside outside buffer with ⟨rejected, same⟩
    have beyond : ¬ index < geometry.blockCount := Nat.not_lt_of_le outside
    exact
      ⟨store.size_words, iff_of_false (Bool.eq_false_iff.1 refused) beyond,
        iff_of_false (Bool.eq_false_iff.1 rejected) beyond, fun inside => absurd inside beyond,
        ⟨kept, congrArg cursor same, congrArg busyUntil same⟩, fun _ => ⟨untouched, same⟩⟩

/-- A block of a small store keeps its words while the cursor is moved past the last number. -/
theorem blocks_keep_last_given_past_last_number :
    let word : Word := .truncate .negative 7
    let calls : List Call :=
      [.write 1 #[word], .setCursor 0xFFFFFFFFFFFFFFFF, .advance, .write 5 #[.zero]]
    (⟨2, 3⟩ : Geometry).IsStorable ∧
      replay? .checked ⟨2, 3⟩ calls = none ∧
        ∃ store : BlockStore ⟨2, 3⟩,
          replay? .wrapping ⟨2, 3⟩ calls = some store ∧
            store.cursor = 0 ∧ (store.read 1 (Buffer.blank 2)).buffer[0]? = some word := by
  intro word calls
  have storable : (⟨2, 3⟩ : Geometry).IsStorable := by
    rw [Geometry.IsStorable]
    decide
  have kept (arithmetic : Arithmetic) :=
    blocks_keep_last_given storable arithmetic calls 1 (Buffer.blank 2)
  refine ⟨storable, ?_, replay ⟨2, 3⟩ calls, rfl, by decide +kernel, ?_⟩
  · exact
      (kept .checked).2.1.2
        ⟨rfl, [.write 1 #[word], .setCursor 0xFFFFFFFFFFFFFFFF], .advance,
          [.write 5 #[.zero]], rfl, by decide +kernel⟩
  · rcases (kept .wrapping).2.2 _ rfl with ⟨-, -, -, inside, -⟩
    rcases inside (by decide) with ⟨-, -, -, delivered, -⟩
    exact delivered 0 (by decide)

/--
Not every geometry has a store.  By either arithmetic there is no array for the words of a block
of 2 ^ 61 words; and if the number of words is 2 ^ 64, checked arithmetic has none, and wrapping
arithmetic has an array without a word.
-/
theorem no_store_for_every_geometry :
    (∀ arithmetic, Geometry.allocation? arithmetic ⟨0x2000000000000000, 1⟩ = none) ∧
      Geometry.allocation? .checked ⟨0x200000000, 0x80000000⟩ = none ∧
        Geometry.allocation? .wrapping ⟨0x200000000, 0x80000000⟩ = some #[] ∧
          (#[] : Buffer).size ≠ 0x200000000 * 0x80000000 := by
  refine ⟨?_, by decide, by decide, by decide⟩
  intro arithmetic
  cases arithmetic with
  | wrapping => decide
  | checked => decide

end MixUnits.BlockStore

namespace MixUnits.Drive

variable
  {medium : Medium}
  (drive : Drive medium)
  (now : UInt64)
  (buffer : Buffer)

/-- An input of a drive is a read of the block under its cursor. -/
theorem input_eq_read :
    let read := drive.store.read drive.store.cursor buffer
    let received := drive.input now buffer
    received.accepted = read.accepted ∧
      received.buffer = read.buffer ∧ received.unit.store.words = read.unit.words := by
  simp only [input, BlockStore.read]
  cases drive.store.readBlock? drive.store.cursor buffer with
  | none => exact ⟨rfl, rfl, rfl⟩
  | some filled => exact ⟨rfl, rfl, rfl⟩

/-- An output of a drive is a write of the block under its cursor. -/
theorem output_eq_write (files : FileSystem) :
    let written := drive.store.write drive.store.cursor buffer
    let sent := drive.output now files buffer
    sent.accepted = written.accepted ∧ sent.unit.store.words = written.unit.words := by
  simp only [output, BlockStore.write]
  cases drive.store.writeBlock? drive.store.cursor buffer with
  | none => exact ⟨rfl, rfl⟩
  | some written => exact ⟨rfl, rfl⟩

end MixUnits.Drive
