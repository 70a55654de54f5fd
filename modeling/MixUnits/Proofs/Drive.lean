import MixUnits.Device
import MixUnits.Proofs.BlockArray
import MixUnits.Proofs.Files

/-!
# What a drive stores

A drive stores an array of blocks.  A mounted medium stores what its file holds; an input
delivers the block under the cursor and stores the same array as before; an output lays
its buffer over the block under the cursor, whether or not the file can be replaced, and
a file that can be replaced becomes the image of the whole array.  Behind the last block
every transfer is refused and nothing changes.
-/

namespace MixUnits

namespace Device

/-- A drive as a device. -/
def ofDrive : {medium : Medium} → Drive medium → Device
  | .tape, drive => .tape drive
  | .disk, drive => .disk drive

section Drives

variable
  {medium : Medium}
  (drive : Drive medium)

@[simp]
theorem blockSize_ofDrive : (ofDrive drive).blockSize = 100 := by
  cases medium with
  | tape => rfl
  | disk => rfl

@[simp]
theorem transferWords_ofDrive : (ofDrive drive).transferWords = 100 := by
  cases medium with
  | tape => rfl
  | disk => rfl

theorem input_ofDrive
    (now : UInt64)
    (files : FileSystem)
    (buffer : Buffer) :
    (ofDrive drive).input now files buffer = (drive.input now buffer).map ofDrive := by
  cases medium with
  | tape => rfl
  | disk => rfl

end Drives

end Device

namespace Drive

variable {medium : Medium}

/-- A drive stores an array if its words are those of the array, block after block. -/
def Stores
    (drive : Drive medium)
    (array : BlockArray) :
    Prop :=
  drive.store.words = array.words medium.geometry

theorem Stores.getElem?
    {drive : Drive medium}
    {array : BlockArray}
    (stored : drive.Stores array)
    {block offset : Nat}
    (inside : block < medium.geometry.blockCount)
    (within : offset < medium.geometry.blockSize) :
    drive.store.words[block * medium.geometry.blockSize + offset]? =
      some (array block offset) := by
  rw [stored]
  exact BlockArray.getElem?_words array inside within

/-- Whatever words a drive has, they are those of an array. -/
theorem exists_stores (drive : Drive medium) : ∃ array, drive.Stores array := by
  refine
    ⟨fun block offset =>
      drive.store.words[block * medium.geometry.blockSize + offset]?.getD .zero, ?_⟩
  apply BlockArray.ext_blocks drive.store.size_words (BlockArray.size_words _)
  intro block offset inside within
  have held :
      block * medium.geometry.blockSize + offset < drive.store.words.size :=
    drive.store.size_words ▸ BlockArray.index_lt_size inside within
  rw [BlockArray.getElem?_words _ inside within, Array.getElem?_eq_getElem held,
    Option.getD_some]

theorem size_image
    (medium : Medium)
    (array : BlockArray) :
    (Image.encode (array.words medium.geometry)).size = imageLength medium := by
  rw [Image.size_encode, BlockArray.size_words, imageLength, Nat.mul_comm]

/-- A mounted medium, with the cursor on its first block, stores what its file holds. -/
theorem stores_mount
    (files : FileSystem)
    (path : String) :
    let drive := (mount files path : Drive medium × List Notice).1
    drive.path = path ∧
      drive.store.cursor = 0 ∧
        drive.store.busyUntil = 0 ∧
          drive.Stores (BlockArray.ofFile medium.geometry files path) := by
  unfold mount Stores BlockArray.ofFile
  cases files.read path with
  | ok image => exact ⟨rfl, rfl, rfl, BlockArray.load_blank image⟩
  | error cause =>
      cases cause <;> exact ⟨rfl, rfl, rfl, BlockArray.words_blank.symm⟩

/-- A medium mounted in the image of an array stores this array. -/
theorem stores_mount_image
    {files : FileSystem}
    {path : String}
    {array : BlockArray}
    (saved : files.read path = .ok (Image.encode (array.words medium.geometry))) :
    (mount files path : Drive medium × List Notice).1.Stores array := by
  rcases @stores_mount medium files path with ⟨-, -, -, stored⟩
  rw [Stores, stored, BlockArray.ofFile, saved]
  exact BlockArray.words_congr fun _ _ inside within =>
    BlockArray.ofImage_encode array inside within

theorem input_of_inside
    {drive : Drive medium}
    {array : BlockArray}
    (stored : drive.Stores array)
    (inside : drive.store.cursor < medium.geometry.blockCount)
    (now : UInt64)
    (buffer : Buffer) :
    let received := drive.input now buffer
    received.accepted = true ∧
      received.unit = drive.transferred now readLatency ∧
        received.buffer = array.fetch medium.geometry drive.store.cursor buffer := by
  have filled :
      drive.store.readBlock? drive.store.cursor buffer =
        some (array.fetch medium.geometry drive.store.cursor buffer) := by
    rw [BlockStore.readBlock?, if_pos inside, BlockStore.block, stored,
      BlockArray.overlay_slice_words array inside]
  simp only [input, filled, and_self]

theorem input_of_outside
    {drive : Drive medium}
    (outside : medium.geometry.blockCount ≤ drive.store.cursor)
    (now : UInt64)
    (buffer : Buffer) :
    let received := drive.input now buffer
    received.accepted = false ∧ received.unit = drive ∧ received.buffer = buffer := by
  have nothing : drive.store.readBlock? drive.store.cursor buffer = none :=
    if_neg (Nat.not_lt_of_le outside)
  simp only [input, nothing]
  exact ⟨rfl, rfl, rfl⟩

theorem writeBlock?_of_inside
    {geometry : Geometry}
    {store : BlockStore geometry}
    {array : BlockArray}
    (stored : store.words = array.words geometry)
    {block : Nat}
    (inside : block < geometry.blockCount)
    (buffer : Buffer) :
    ∃ written,
      store.writeBlock? block buffer = some written ∧
        written.cursor = store.cursor ∧
          written.words = (array.put block buffer).words geometry := by
  refine ⟨_, if_pos inside, rfl, ?_⟩
  rw [BlockArray.words_put, ← stored]

/-- An output lays its buffer over the block under the cursor and saves the whole array. -/
theorem output_of_inside
    {drive : Drive medium}
    {array : BlockArray}
    (stored : drive.Stores array)
    (inside : drive.store.cursor < medium.geometry.blockCount)
    (now : UInt64)
    (files : FileSystem)
    (buffer : Buffer) :
    let sent := drive.output now files buffer
    let written := array.put drive.store.cursor buffer
    sent.accepted = true ∧
      sent.unit.path = drive.path ∧
        sent.unit.store.cursor = medium.cursorAfter drive.store.cursor ∧
          sent.unit.store.busyUntil = medium.geometry.transferEnd now writeLatency ∧
            sent.unit.Stores written ∧
              (files.isWritable drive.path = true →
                sent.files.read drive.path =
                  .ok (Image.encode (written.words medium.geometry))) ∧
                (files.isWritable drive.path = false → sent.files = files) := by
  rcases writeBlock?_of_inside stored inside buffer with ⟨next, wrote, cursor, words⟩
  simp only [output, wrote]
  refine ⟨trivial, rfl, ?_, rfl, words, ?_, ?_⟩
  · exact congrArg (medium.cursorAfter ·) cursor
  · intro writable
    rw [← words]
    exact FileSystem.read_replace writable _ _
  · intro unwritable
    exact FileSystem.replace_of_not_writable unwritable _ _

theorem output_of_outside
    {drive : Drive medium}
    (outside : medium.geometry.blockCount ≤ drive.store.cursor)
    (now : UInt64)
    (files : FileSystem)
    (buffer : Buffer) :
    let sent := drive.output now files buffer
    sent.accepted = false ∧ sent.unit = drive ∧ sent.files = files := by
  have nothing : drive.store.writeBlock? drive.store.cursor buffer = none :=
    if_neg (Nat.not_lt_of_le outside)
  simp only [output, nothing]
  exact ⟨rfl, rfl, rfl⟩

/-- A drive and the files around it. -/
structure Situation (medium : Medium) where
  drive : Drive medium
  files : FileSystem

namespace Situation

/-- The situation after a medium was mounted. -/
def mounted
    (files : FileSystem)
    (path : String) :
    Situation medium :=
  ⟨(mount files path).1, files⟩

/-- A situation after an input. -/
def input
    (situation : Situation medium)
    (now : UInt64)
    (buffer : Buffer) :
    Situation medium :=
  { situation with drive := (situation.drive.input now buffer).unit }

/-- A situation after an output. -/
def output
    (situation : Situation medium)
    (now : UInt64)
    (buffer : Buffer) :
    Situation medium :=
  let sent := situation.drive.output now situation.files buffer
  ⟨sent.unit, sent.files⟩

end Situation

end Drive

end MixUnits
