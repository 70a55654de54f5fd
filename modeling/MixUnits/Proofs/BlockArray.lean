import MixUnits.BlockStore
import MixUnits.FileSystem.Path
import MixUnits.Proofs.Image

/-!
# Arrays of blocks

What a medium stores is, seen from outside, a word for every offset in every block.  The
words of a store are those of its blocks, one block after another, so that the word at
an offset of a block is found by counting the words of the blocks before it.  Reading
and writing a block of the store is reading and writing the block of the array, whatever
the length of the buffer.
-/

namespace MixUnits

/-- A word for every offset in every block. -/
abbrev BlockArray := Nat → Nat → Word

namespace BlockArray

/-- The array of positive zeros. -/
def blank : BlockArray :=
  fun _ _ => .zero

/-- The words of the blocks of a medium, one block after another. -/
def words
    (geometry : Geometry)
    (array : BlockArray) :
    Buffer :=
  Array.ofFn fun index : Fin geometry.size =>
    array (index / geometry.blockSize) (index % geometry.blockSize)

/-- An array after a buffer was laid over the beginning of one of its blocks. -/
def put
    (array : BlockArray)
    (block : Nat)
    (buffer : Buffer) :
    BlockArray :=
  fun other offset =>
    if other = block then buffer[offset]?.getD (array other offset)
    else array other offset

/-- A buffer after a block was laid over its beginning. -/
def fetch
    (geometry : Geometry)
    (array : BlockArray)
    (block : Nat)
    (buffer : Buffer) :
    Buffer :=
  buffer.mapIdx fun offset word =>
    if offset < geometry.blockSize then array block offset else word

/-- The array that an image stores; a word that the image does not hold in full is zero. -/
def ofImage
    (geometry : Geometry)
    (image : Array UInt8) :
    BlockArray :=
  fun block offset =>
    (Image.word? image (block * geometry.blockSize + offset)).getD .zero

/-- The array in the file at a path, which is blank if the file cannot be read. -/
def ofFile
    (geometry : Geometry)
    (files : FileSystem)
    (path : String) :
    BlockArray :=
  match files.read path with
  | .ok image => ofImage geometry image
  | .error _ => blank

variable {geometry : Geometry}

theorem index_lt_size
    {block offset : Nat}
    (inside : block < geometry.blockCount)
    (within : offset < geometry.blockSize) :
    block * geometry.blockSize + offset < geometry.size := by
  calc
    block * geometry.blockSize + offset
      < block * geometry.blockSize + geometry.blockSize := Nat.add_lt_add_left within _
    _ = (block + 1) * geometry.blockSize := (Nat.succ_mul block _).symm
    _ ≤ geometry.blockCount * geometry.blockSize := Nat.mul_le_mul_right _ inside
    _ = geometry.size := Nat.mul_comm _ _

theorem exists_block_of_lt_size
    {index : Nat}
    (within : index < geometry.size) :
    ∃ block offset,
      block < geometry.blockCount ∧
        offset < geometry.blockSize ∧ index = block * geometry.blockSize + offset := by
  have positive : 0 < geometry.blockSize := by
    apply Nat.pos_of_ne_zero
    intro empty
    simp [Geometry.size, empty] at within
  exact
    ⟨index / geometry.blockSize, index % geometry.blockSize,
      Nat.div_lt_of_lt_mul within, Nat.mod_lt index positive,
      (Nat.div_add_mod' index geometry.blockSize).symm⟩

/-- Words in the number of a medium are the same if they are in every block. -/
theorem ext_blocks
    {one other : Buffer}
    (size_one : one.size = geometry.size)
    (size_other : other.size = geometry.size)
    (agree :
      ∀ block offset,
        block < geometry.blockCount →
          offset < geometry.blockSize →
            one[block * geometry.blockSize + offset]? =
              other[block * geometry.blockSize + offset]?) :
    one = other := by
  apply Array.ext_getElem?
  intro index
  by_cases within : index < geometry.size
  · rcases exists_block_of_lt_size within with ⟨block, offset, inside, reached, rfl⟩
    exact agree block offset inside reached
  · have beyond := Nat.le_of_not_lt within
    rw [Array.getElem?_eq_none (size_one ▸ beyond),
      Array.getElem?_eq_none (size_other ▸ beyond)]

@[simp]
theorem size_words (array : BlockArray) :
    (array.words geometry).size = geometry.size := by
  simp [words]

/-- The word at an offset of a block is the one that the array has there. -/
theorem getElem?_words
    (array : BlockArray)
    {block offset : Nat}
    (inside : block < geometry.blockCount)
    (within : offset < geometry.blockSize) :
    (array.words geometry)[block * geometry.blockSize + offset]? =
      some (array block offset) := by
  have positive := Nat.zero_lt_of_lt within
  have quotient : (block * geometry.blockSize + offset) / geometry.blockSize = block := by
    rw [Nat.mul_comm, Nat.mul_add_div positive, Nat.div_eq_of_lt within, Nat.add_zero]
  have remainder : (block * geometry.blockSize + offset) % geometry.blockSize = offset := by
    rw [Nat.mul_comm, Nat.mul_add_mod, Nat.mod_eq_of_lt within]
  simp [words, index_lt_size inside within, quotient, remainder]

theorem words_congr
    {one other : BlockArray}
    (agree :
      ∀ block offset,
        block < geometry.blockCount →
          offset < geometry.blockSize → one block offset = other block offset) :
    one.words geometry = other.words geometry := by
  apply ext_blocks (size_words one) (size_words other)
  intro block offset inside within
  rw [getElem?_words one inside within, getElem?_words other inside within,
    agree block offset inside within]

/-- Another block begins behind the last word of a block, or ends before its first. -/
theorem block_of_index
    {size block other offset : Nat}
    (within : offset < size)
    (behind : block * size ≤ other * size + offset)
    (near : other * size + offset - block * size < size) :
    other = block := by
  rcases Nat.lt_trichotomy other block with before | same | after
  · have : (other + 1) * size ≤ block * size := Nat.mul_le_mul_right size before
    rw [Nat.succ_mul] at this
    omega
  · exact same
  · have : (block + 1) * size ≤ other * size := Nat.mul_le_mul_right size after
    rw [Nat.succ_mul] at this
    omega

/-- Laying a buffer over the words of a block is laying it over the block. -/
theorem words_put
    (array : BlockArray)
    (block : Nat)
    (buffer : Buffer) :
    (array.put block buffer).words geometry =
      (array.words geometry).overlay (block * geometry.blockSize)
        (buffer.slice 0 geometry.blockSize) := by
  apply ext_blocks (size_words _) (by simp)
  intro other offset inside within
  rw [getElem?_words _ inside within, Buffer.getElem?_overlay,
    getElem?_words _ inside within, Option.map_some, put]
  congr 1
  by_cases same : other = block
  · subst same
    rw [if_pos rfl, if_pos (Nat.le_add_right _ _), Nat.add_sub_cancel_left,
      Buffer.getElem?_slice, Nat.zero_add, if_pos within]
  · rw [if_neg same]
    split
    · next behind =>
      -- A buffer longer than a block must not reach into the block behind it.
      have far : ¬ other * geometry.blockSize + offset - block * geometry.blockSize <
          geometry.blockSize :=
        fun near => same (block_of_index within behind near)
      rw [Buffer.getElem?_slice, Nat.zero_add, if_neg far]
      rfl
    · rfl

theorem getElem?_slice_words
    (array : BlockArray)
    {block : Nat}
    (inside : block < geometry.blockCount)
    (offset : Nat) :
    ((array.words geometry).slice (block * geometry.blockSize)
        ((block + 1) * geometry.blockSize))[offset]? =
      if offset < geometry.blockSize then some (array block offset) else none := by
  rw [Buffer.getElem?_slice, Nat.succ_mul]
  by_cases within : offset < geometry.blockSize
  · rw [if_pos (Nat.add_lt_add_left within _), if_pos within,
      getElem?_words array inside within]
  · rw [if_neg (by omega), if_neg within]

theorem overlay_slice_words
    (array : BlockArray)
    {block : Nat}
    (inside : block < geometry.blockCount)
    (buffer : Buffer) :
    buffer.overlay 0
        ((array.words geometry).slice (block * geometry.blockSize)
          ((block + 1) * geometry.blockSize)) =
      array.fetch geometry block buffer := by
  apply Array.ext_getElem?
  intro offset
  rw [Buffer.getElem?_overlay, Nat.sub_zero, getElem?_slice_words array inside]
  simp only [fetch, Array.getElem?_mapIdx, Nat.zero_le, if_true]
  split <;> rfl

@[simp]
theorem size_fetch
    (array : BlockArray)
    (block : Nat)
    (buffer : Buffer) :
    (array.fetch geometry block buffer).size = buffer.size := by
  simp [fetch]

theorem getElem?_fetch
    (array : BlockArray)
    (block : Nat)
    {buffer : Buffer}
    {index : Nat}
    (within : index < buffer.size) :
    (array.fetch geometry block buffer)[index]? =
      if index < geometry.blockSize then some (array block index) else buffer[index]? := by
  rw [fetch, Array.getElem?_mapIdx, Array.getElem?_eq_getElem within, Option.map_some]
  split <;> rfl

/-- Loading an image over blank words gives the words of the array in the image. -/
theorem load_blank (image : Array UInt8) :
    Image.load image (Buffer.blank geometry.size) =
      (ofImage geometry image).words geometry := by
  apply ext_blocks (by simp) (size_words _)
  intro block offset inside within
  rw [getElem?_words _ inside within]
  simp [Image.load, Buffer.blank, index_lt_size inside within, ofImage]

theorem words_blank :
    blank.words geometry = Buffer.blank geometry.size := by
  apply ext_blocks (size_words _) (by simp)
  intro block offset inside within
  rw [getElem?_words _ inside within]
  simp [Buffer.blank, index_lt_size inside within, blank]

theorem ofImage_encode
    (array : BlockArray)
    {block offset : Nat}
    (inside : block < geometry.blockCount)
    (within : offset < geometry.blockSize) :
    ofImage geometry (Image.encode (array.words geometry)) block offset =
      array block offset := by
  rw [ofImage, Image.word?_encode, getElem?_words array inside within]
  rfl

end BlockArray

end MixUnits
