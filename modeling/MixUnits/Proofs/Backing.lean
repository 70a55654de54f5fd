import MixUnits.Proofs.BlockArray
import MixUnits.Proofs.Drive
import MixUnits.Proofs.Packing
import MixUnits.Proofs.Replacement

/-!
# What a backing file holds

A backing file holds a number of thirty-two bits for every word, zero where it does not
reach or where there is none.  A word does not keep the bit between its sign and its
magnitude, so what is saved again is the number without this bit.  A drive that is saved
over and over leaves its file as if it had been saved only once, the last time.
-/

namespace MixUnits

namespace FileSystem

variable {files : FileSystem}

/--
The number stored for the word at an index of the file at a path, the least significant of its
four bytes first; it is zero unless all four are there.
-/
def storedBits
    (files : FileSystem)
    (path : String)
    (index : Nat) :
    UInt32 :=
  match files.read path with
  | .ok image =>
    if 4 * index + 3 < image.size then
      let byte (place : Nat) : Nat := (image[4 * index + place]?.getD 0).toNat
      UInt32.ofNat (byte 0 + byte 1 * 0x100 + byte 2 * 0x10000 + byte 3 * 0x1000000)
    else
      0
  | .error _ => 0

/-- A drive finds this number where it looks for its word. -/
theorem storedBits_of_read
    {path : String}
    {image : Array UInt8}
    (read : files.read path = .ok image)
    (index : Nat) :
    files.storedBits path index = (Image.bits? image index).getD 0 := by
  simp only [storedBits, read]
  by_cases complete : 4 * index + 3 < image.size
  · have stored (place : Nat) (early : place ≤ 3) :
        image[4 * index + place]? = some (image[4 * index + place]?.getD 0) := by
      rw [Array.getElem?_eq_getElem (by omega), Option.getD_some]
    rw [if_pos complete,
      Image.bits?_eq_some (stored 0 (by decide)) (stored 1 (by decide)) (stored 2 (by decide))
        (stored 3 (by decide))]
    rfl
  · rw [if_neg complete, Image.bits?, dif_neg complete, Option.getD_none]

/-- Replacing a file twice comes to replacing it the second time. -/
theorem replace_replace
    (path : String)
    (first second : Thunk (Array UInt8))
    (report : FileError → Notice) :
    ((files.replace path first report).1.replace path second report).1 =
      (files.replace path second report).1 := by
  cases writable : files.isWritable path with
  | false => rw [replace_of_not_writable writable]
  | true =>
      rcases (isWritable_iff_place path).1 writable with ⟨place, walked, named, free⟩
      have again := (walk_put_file_iff free first path place).2 walked
      have still := (isFolder_put_file_eq free first place).trans free
      rw [replace_of_place walked named free, replace_of_place again named still,
        replace_of_place walked named free, put_put]

/-- What is read through a path that leads elsewhere is not touched. -/
theorem read_replace_iff_of_apart
    {path other : String}
    (apart : ∀ place, files.walk path = .ok place → files.walk other ≠ .ok place)
    (contents : Thunk (Array UInt8))
    (report : FileError → Notice)
    (held : Array UInt8) :
    (files.replace path contents report).1.read other = .ok held ↔
      files.read other = .ok held := by
  cases writable : files.isWritable path with
  | false => rw [replace_of_not_writable writable]
  | true =>
      rcases (isWritable_iff_place path).1 writable with ⟨place, walked, named, free⟩
      rw [replace_of_place walked named free]
      exact read_put_file_iff_of_apart free contents (apart place walked) held

end FileSystem

namespace BlockArray

variable {geometry : Geometry}

theorem ofFile_eq_storedBits
    (files : FileSystem)
    (path : String)
    (block offset : Nat) :
    ofFile geometry files path block offset =
      Word.ofBits (files.storedBits path (block * geometry.blockSize + offset)) := by
  rw [ofFile]
  cases read : files.read path with
  | error cause =>
      rw [FileSystem.storedBits, read]
      rfl
  | ok image =>
      rw [FileSystem.storedBits_of_read read]
      simp only [ofImage, Image.word?]
      cases Image.bits? image (block * geometry.blockSize + offset) with
      | none => rfl
      | some bits => rfl

/-- The image of an array stores the number of every word of it. -/
theorem bits?_encode_words
    (array : BlockArray)
    {block offset : Nat}
    (inside : block < geometry.blockCount)
    (within : offset < geometry.blockSize) :
    Image.bits? (Image.encode (array.words geometry)) (block * geometry.blockSize + offset) =
      some (array block offset).toBits := by
  rw [Image.bits?_encode, getElem?_words array inside within, Option.map_some]

/-- A file that holds the image of an array stores the number of every word of it. -/
theorem storedBits_of_read_encode
    {files : FileSystem}
    {path : String}
    {array : BlockArray}
    (read : files.read path = .ok (Image.encode (array.words geometry)))
    {block offset : Nat}
    (inside : block < geometry.blockCount)
    (within : offset < geometry.blockSize) :
    files.storedBits path (block * geometry.blockSize + offset) =
      (array block offset).toBits := by
  rw [FileSystem.storedBits_of_read read, bits?_encode_words array inside within,
    Option.getD_some]

end BlockArray

namespace Drive

variable {medium : Medium}

/-- An output inside the medium replaces the file by the image of the whole array. -/
theorem files_output_of_inside
    {drive : Drive medium}
    {array : BlockArray}
    (stored : drive.Stores array)
    (inside : drive.store.cursor < medium.geometry.blockCount)
    (now : UInt64)
    (files : FileSystem)
    (buffer : Buffer) :
    (drive.output now files buffer).files =
      (files.replace drive.path
        (Thunk.mk fun _ =>
          Image.encode ((array.put drive.store.cursor buffer).words medium.geometry))
        (.backingUnwritable drive.path)).1 := by
  rcases writeBlock?_of_inside stored inside buffer with ⟨written, wrote, -, words⟩
  simp only [output, wrote, words]

end Drive

end MixUnits
