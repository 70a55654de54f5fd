import MixUnits.Device.Answer
import MixUnits.FileSystem.Replace

/-!
# Tape and disk drives

A tape has two thousand blocks of a hundred words, a disk four thousand.  The blocks
are loaded from the backing file when the medium is mounted and saved to it whole
after every output.  A missing file leaves the medium blank, and so does one that
cannot be read; a file of another length than the image of the medium fills what it
can.

A transfer is with the block under the cursor.  On a tape it moves the cursor to the
next block, and there is no way back; on a disk the cursor stays, and seeking moves
it to any block of the disk.
-/

namespace MixUnits

/-- The blocks of a medium. -/
def Medium.geometry : Medium → Geometry
  | .tape => ⟨100, 2000⟩
  | .disk => ⟨100, 4000⟩

/-- The cursor after a transfer with the block under it. -/
def Medium.cursorAfter
    (cursor : Nat) :
    Medium → Nat
  | .tape => cursor + 1
  | .disk => cursor

/-- A mounted medium: its blocks and the path of its backing file. -/
@[ext]
structure Drive (medium : Medium) where
  path : String
  store : BlockStore medium.geometry

/-- A tape. -/
abbrev Tape := Drive .tape

/-- A disk. -/
abbrev Disk := Drive .disk

namespace Drive

variable {medium : Medium}

/-- The cost of reading a word, in milliseconds. -/
def readLatency : UInt64 := 100

/-- The cost of writing a word, in milliseconds. -/
def writeLatency : UInt64 := 150

/-- The bytes in the image of a whole medium. -/
def imageLength (medium : Medium) : Nat :=
  medium.geometry.size * 4

/-- Mounts the medium in the backing file at a path, with the cursor on the first block. -/
def mount
    (files : FileSystem)
    (path : String) :
    Drive medium × List Notice :=
  let blank := BlockStore.blank medium.geometry
  match files.read path with
  | .error .notFound => (⟨path, blank⟩, [.backingMissing path])
  | .error error => (⟨path, blank⟩, [.backingUnreadable path error])
  | .ok image =>
    (⟨path, blank.load image⟩,
      if image.size = imageLength medium then []
      else [.backingLength path image.size (imageLength medium)])

/-- Ends a transfer that began now. -/
def transferred
    (drive : Drive medium)
    (now latency : UInt64) :
    Drive medium :=
  { drive with
    store :=
      (drive.store.markBusy now latency).setCursor
        (medium.cursorAfter drive.store.cursor) }

/-- Reads the block under the cursor into a buffer. -/
def input
    (drive : Drive medium)
    (now : UInt64)
    (buffer : Buffer) :
    Received (Drive medium) :=
  let block := drive.store.cursor
  let transfer := drive.store.transferNotices block buffer.size
  match drive.store.readBlock? block buffer with
  | none => (Answer.refused drive transfer).received buffer
  | some filled =>
    { accepted := true
      unit := drive.transferred now readLatency
      buffer := filled
      notices := transfer ++ [.blockRead medium block drive.path] }

/-- Writes a buffer to the block under the cursor and saves the medium. -/
def output
    (drive : Drive medium)
    (now : UInt64)
    (files : FileSystem)
    (buffer : Buffer) :
    Sent (Drive medium) :=
  let block := drive.store.cursor
  let transfer := drive.store.transferNotices block buffer.size
  match drive.store.writeBlock? block buffer with
  | none => (Answer.refused drive transfer).sent files
  | some written =>
    let (saved, saving) :=
      files.replace drive.path (Thunk.mk fun _ => Image.encode written.words)
        (.backingUnwritable drive.path)
    { accepted := true
      unit := { drive with store := written }.transferred now writeLatency
      files := saved
      notices := transfer ++ [.blockWritten medium block drive.path] ++ saving }

/-- Moves the cursor to a block of a disk. -/
def seek
    (disk : Disk)
    (block : Nat) :
    Answer Disk :=
  if block < Medium.disk.geometry.blockCount then
    { accepted := true
      unit := { disk with store := disk.store.setCursor block }
      notices := [] }
  else
    Answer.refused disk [.seekOutside block]

/-- Carries out a control operation of a disk; its mode is the block to move to. -/
def control
    (disk : Disk)
    (mode : UInt32) :
    Answer Disk :=
  disk.seek mode.toNat

end Drive

end MixUnits
