import MixUnits.Clock
import MixUnits.Image

/-!
# Blocks of words

Every unit holds an array of blocks with a cursor and the moment at which its last
transfer ends.  The number of words never changes.  A block outside the array is
refused, and a refused transfer changes nothing; a transfer with a buffer of another
length than a block moves as many words as both have.

The words of a store are an exact product, so a store is one whose words fit into memory; what
becomes of the others is said with the calls of a store.  The cursor is a number of 64 bits for
whoever sets it.  Left alone it is the number of the cards that a reader has taken, and no unit
but a card reader moves it on without end.
-/

namespace MixUnits

/-- The words in a block and the number of blocks. -/
@[ext]
structure Geometry where
  blockSize : Nat
  blockCount : Nat
  deriving DecidableEq, Repr

/-- The number of words of all blocks. -/
def Geometry.size (geometry : Geometry) : Nat :=
  geometry.blockSize * geometry.blockCount

/-- The end of a transfer of one block that begins now, at a cost of `latency` a word. -/
def Geometry.transferEnd
    (geometry : Geometry)
    (now latency : UInt64) :
    UInt64 :=
  -- In this order the sum is stuck on `now` at once wherever `now` is not known.
  UInt64.ofNat geometry.blockSize * latency + now

/-- Whether such a transfer lasts beyond the last moment that the clock can show. -/
def Geometry.outlasts
    (geometry : Geometry)
    (now latency : UInt64) :
    Bool :=
  UInt64.size ≤ now.toNat + geometry.blockSize * latency.toNat

theorem Geometry.transferEnd_eq
    (geometry : Geometry)
    (now latency : UInt64) :
    geometry.transferEnd now latency = now + UInt64.ofNat geometry.blockSize * latency :=
  UInt64.add_comm _ _

/-- The end is the exact sum, less the bits that are too many. -/
theorem Geometry.toNat_transferEnd
    (geometry : Geometry)
    (now latency : UInt64) :
    (geometry.transferEnd now latency).toNat =
      (now.toNat + geometry.blockSize * latency.toNat) % UInt64.size := by
  simp [transferEnd, UInt64.size, Nat.add_comm]

/-- A transfer that does not outlast the clock ends no earlier than it begins. -/
theorem Geometry.le_transferEnd
    {geometry : Geometry}
    {now latency : UInt64}
    (fits : geometry.outlasts now latency = false) :
    now ≤ geometry.transferEnd now latency := by
  rw [outlasts, decide_eq_false_iff_not, Nat.not_le] at fits
  rw [UInt64.le_iff_toNat_le, toNat_transferEnd, Nat.mod_eq_of_lt fits]
  exact Nat.le_add_right _ _

/-- An array of blocks, a cursor, and the end of the last transfer. -/
@[ext]
structure BlockStore (geometry : Geometry) where
  cursor : Nat
  busyUntil : UInt64
  words : Buffer
  size_words : words.size = geometry.size

namespace BlockStore

variable {geometry : Geometry}

/-- An array of zero words, not busy, with the cursor on the first block. -/
def blank (geometry : Geometry) : BlockStore geometry where
  cursor := 0
  busyUntil := 0
  words := Buffer.blank geometry.size
  size_words := by simp

instance : Inhabited (BlockStore geometry) :=
  ⟨blank geometry⟩

/-- Moves the cursor to a block, which need not exist. -/
def setCursor
    (store : BlockStore geometry)
    (block : Nat) :
    BlockStore geometry :=
  { store with cursor := block }

/-- Moves the cursor one block forward, and from the last number to zero. -/
def advance (store : BlockStore geometry) : BlockStore geometry :=
  { store with cursor := (store.cursor + 1) % UInt64.size }

/-- Whether the last transfer still lasts. -/
def busy
    (store : BlockStore geometry)
    (now : UInt64) :
    Bool :=
  now < store.busyUntil

/-- Begins a transfer of one block at a cost of `latency` a word. -/
def markBusy
    (store : BlockStore geometry)
    (now latency : UInt64) :
    BlockStore geometry :=
  { store with busyUntil := geometry.transferEnd now latency }

/-- Sets every word. -/
def fill
    (store : BlockStore geometry)
    (word : Word) :
    BlockStore geometry :=
  { store with
    words := store.words.map fun _ => word
    size_words := by simp [store.size_words] }

/-- Loads the image of stored words. -/
def load
    (store : BlockStore geometry)
    (image : Array UInt8) :
    BlockStore geometry :=
  { store with
    words := Image.load image store.words
    size_words := by simp [store.size_words] }

/-- The words of a block. -/
def block
    (store : BlockStore geometry)
    (index : Nat) :
    Buffer :=
  store.words.slice (index * geometry.blockSize) ((index + 1) * geometry.blockSize)

/-- What a transfer of `length` words with a block reports. -/
def transferNotices
    (_store : BlockStore geometry)
    (index length : Nat) :
    List Notice :=
  (if length = geometry.blockSize then []
    else [.bufferLength length geometry.blockSize]) ++
  (if index < geometry.blockCount then []
    else [.blockOutside index geometry.blockCount])

/-- A buffer with a block laid over its beginning, unless the block is outside. -/
def readBlock?
    (store : BlockStore geometry)
    (index : Nat)
    (buffer : Buffer) :
    Option Buffer :=
  if index < geometry.blockCount then
    some (buffer.overlay 0 (store.block index))
  else
    none

/-- The blocks after a buffer was laid over one of them, unless the block is outside. -/
def writeBlock?
    (store : BlockStore geometry)
    (index : Nat)
    (buffer : Buffer) :
    Option (BlockStore geometry) :=
  if index < geometry.blockCount then
    some
      { store with
        words :=
          store.words.overlay (index * geometry.blockSize)
            (buffer.slice 0 geometry.blockSize)
        size_words := by simp [store.size_words] }
  else
    none

end BlockStore

end MixUnits
