import MixUnits.Image

/-!
# Images and the words they store

The image of a run of words has four bytes for each of them, and the four bytes at an
index store the word at that index.  So an image gives the words back, all of them and in
their places.
-/

namespace MixUnits.Image

@[simp]
theorem length_bytesOfBits (bits : UInt32) : (bytesOfBits bits).length = 4 :=
  rfl

theorem encode_cons
    (word : Word)
    (rest : List Word) :
    (encode (word :: rest).toArray).toList =
      bytesOfBits word.toBits ++ (encode rest.toArray).toList :=
  rfl

@[simp]
theorem size_encode (words : Buffer) :
    (encode words).size = 4 * words.size := by
  rcases words with ⟨words⟩
  induction words with
  | nil => rfl
  | cons word rest ih =>
      have shorter : (encode rest.toArray).toList.length = 4 * rest.length := by
        simpa using ih
      rw [← Array.length_toList, encode_cons, List.length_append, shorter,
        length_bytesOfBits, List.size_toArray, List.length_cons]
      omega

theorem getElem?_encode
    (words : List Word)
    (index place : Nat)
    (within : place < 4) :
    (encode words.toArray)[4 * index + place]? =
      words[index]?.bind fun word => (bytesOfBits word.toBits)[place]? := by
  rw [← Array.getElem?_toList]
  induction words generalizing index with
  | nil => simp [encode]
  | cons word rest ih =>
      rw [encode_cons]
      cases index with
      | zero =>
          rw [List.getElem?_append_left (by simpa using within)]
          simp
      | succ index =>
          have later : (bytesOfBits word.toBits).length ≤ 4 * (index + 1) + place := by
            rw [length_bytesOfBits]
            omega
          have place_eq : 4 * (index + 1) + place - 4 = 4 * index + place := by
            omega
          rw [List.getElem?_append_right later, length_bytesOfBits, place_eq, ih]
          rfl

theorem bits?_eq_some
    {image : Array UInt8}
    {index : Nat}
    {first second third fourth : UInt8}
    (firstStored : image[4 * index + 0]? = some first)
    (secondStored : image[4 * index + 1]? = some second)
    (thirdStored : image[4 * index + 2]? = some third)
    (fourthStored : image[4 * index + 3]? = some fourth) :
    bits? image index = some (bitsOfBytes first second third fourth) := by
  rcases Array.getElem?_eq_some_iff.1 firstStored with ⟨_, rfl⟩
  rcases Array.getElem?_eq_some_iff.1 secondStored with ⟨_, rfl⟩
  rcases Array.getElem?_eq_some_iff.1 thirdStored with ⟨_, rfl⟩
  rcases Array.getElem?_eq_some_iff.1 fourthStored with ⟨complete, rfl⟩
  exact dif_pos complete

/-- The image of a run of words stores the number of each of them, and no other. -/
theorem bits?_encode
    (words : Buffer)
    (index : Nat) :
    bits? (encode words) index = words[index]?.map Word.toBits := by
  rcases words with ⟨words⟩
  rw [List.getElem?_toArray]
  by_cases within : index < words.length
  · have stored (place : Nat) (few : place < 4) :
        (encode words.toArray)[4 * index + place]? =
          (bytesOfBits words[index].toBits)[place]? := by
      rw [getElem?_encode words index place few, List.getElem?_eq_getElem within]
      rfl
    rw [bits?_eq_some (stored 0 (by decide)) (stored 1 (by decide))
      (stored 2 (by decide)) (stored 3 (by decide)), bitsOfBytes_bytesOfBits,
      List.getElem?_eq_getElem within, Option.map_some]
  · have short : ¬ 4 * index + 3 < (encode words.toArray).size := by
      rw [size_encode, List.size_toArray]
      omega
    rw [bits?, dif_neg short, List.getElem?_eq_none (Nat.le_of_not_lt within)]
    rfl

@[simp]
theorem word?_encode
    (words : Buffer)
    (index : Nat) :
    word? (encode words) index = words[index]? := by
  have kept : Word.ofBits ∘ Word.toBits = id := funext Word.ofBits_toBits
  rw [word?, bits?_encode, Option.map_map, kept, Option.map_id_fun, id_eq]

end MixUnits.Image
