import MixUnits.Buffer

/-!
# Storage images

A medium is stored as an image: four bytes a word, the least significant first.
Loading an image changes the words that the image holds in full and no others, so a
short image fills the leading words and a ragged end is left out.
-/

namespace MixUnits.Image

/-- The bytes of a stored number, the least significant first. -/
def bytesOfBits (bits : UInt32) : List UInt8 :=
  [UInt8.ofNat bits.toNat, UInt8.ofNat (bits.toNat / 0x100),
    UInt8.ofNat (bits.toNat / 0x10000), UInt8.ofNat (bits.toNat / 0x1000000)]

/-- The number that four bytes store. -/
def bitsOfBytes (first second third fourth : UInt8) : UInt32 :=
  UInt32.ofNat
    (first.toNat + second.toNat * 0x100 + third.toNat * 0x10000 + fourth.toNat * 0x1000000)

theorem bitsOfBytes_bytesOfBits (bits : UInt32) :
    bitsOfBytes
        (UInt8.ofNat bits.toNat) (UInt8.ofNat (bits.toNat / 0x100))
        (UInt8.ofNat (bits.toNat / 0x10000)) (UInt8.ofNat (bits.toNat / 0x1000000)) =
      bits := by
  have bounded := bits.toNat_lt
  apply UInt32.toNat_inj.1
  simp only [bitsOfBytes, UInt32.toNat_ofNat', UInt8.toNat_ofNat']
  omega

/-- The image of a run of words. -/
def encode (words : Buffer) : Array UInt8 :=
  (words.toList.flatMap fun word => bytesOfBits word.toBits).toArray

/-- The number stored at an index of an image, if all four bytes are there. -/
def bits?
    (image : Array UInt8)
    (index : Nat) :
    Option UInt32 :=
  if complete : 4 * index + 3 < image.size then
    some (bitsOfBytes image[4 * index] image[4 * index + 1]
      image[4 * index + 2] image[4 * index + 3])
  else
    none

/-- The word stored at an index of an image, if all four bytes are there. -/
def word?
    (image : Array UInt8)
    (index : Nat) :
    Option Word :=
  (bits? image index).map Word.ofBits

/-- The numbers stored in an image, without the bytes left over. -/
def numbers (image : Array UInt8) : List UInt32 :=
  (List.range (image.size / 4)).filterMap (bits? image)

/-- Loads an image over a run of words. -/
def load
    (image : Array UInt8)
    (words : Buffer) :
    Buffer :=
  words.mapIdx fun index word => (word? image index).getD word

@[simp]
theorem size_load
    (image : Array UInt8)
    (words : Buffer) :
    (load image words).size = words.size := by
  simp [load]

end MixUnits.Image
