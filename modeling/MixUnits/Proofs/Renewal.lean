import MixUnits.Proofs.Backing

/-!
# Images that are saved and loaded again

A run of words is saved as its image and comes back from it, so that an image belongs to
one run of words only.  The other way round is not quite as smooth: any bytes can be loaded,
and what is saved then is not these bytes but their normal form.  It has the length of the
medium, the complete numbers at its beginning without the bit that words do not keep, and
zeros behind them.  A normal form stays as it is when it is loaded and saved again.
-/

namespace MixUnits

namespace Image

section Numbers

variable (image : Array UInt8)

/-- A number is stored wherever all its four bytes are. -/
theorem bits?_eq_some_iff
    (index : Nat)
    (bits : UInt32) :
    bits? image index = some bits ↔
      ∃ first second third fourth,
        image[4 * index]? = some first ∧
          image[4 * index + 1]? = some second ∧
            image[4 * index + 2]? = some third ∧
              image[4 * index + 3]? = some fourth ∧
                bitsOfBytes first second third fourth = bits := by
  constructor
  · intro stored
    rw [bits?] at stored
    split at stored
    · next complete =>
      refine ⟨_, _, _, _, ?_, ?_, ?_, ?_, Option.some.inj stored⟩
      all_goals exact Array.getElem?_eq_getElem _
    · contradiction
  · rintro ⟨first, second, third, fourth, one, two, three, four, rfl⟩
    exact bits?_eq_some one two three four

theorem isSome_bits?_iff (index : Nat) :
    (bits? image index).isSome = true ↔ index < image.size / 4 := by
  rw [bits?]
  split
  · next complete =>
    rw [Option.isSome_some]
    exact ⟨fun _ => by omega, fun _ => rfl⟩
  · next short =>
    rw [Option.isSome_none]
    exact ⟨Bool.noConfusion, fun within => absurd within (by omega)⟩

theorem bits?_eq_none_iff (index : Nat) :
    bits? image index = none ↔ image.size / 4 ≤ index := by
  rw [← Option.not_isSome_iff_eq_none, isSome_bits?_iff, Nat.not_lt]

/-- The numbers of an image are those at the indexes before the bytes left over. -/
theorem numbers_eq :
    (numbers image).map some = (List.range (image.size / 4)).map (bits? image) := by
  have complete :
      ∀ index ∈ List.range (image.size / 4), (bits? image index).isSome = true := by
    intro index member
    exact (isSome_bits?_iff image index).2 (List.mem_range.1 member)
  rw [numbers]
  generalize List.range (image.size / 4) = indexes at complete
  induction indexes with
  | nil => rfl
  | cons index rest ih =>
      rcases Option.isSome_iff_exists.1 (complete index List.mem_cons_self) with ⟨bits, stored⟩
      rw [List.filterMap_cons_some stored, List.map_cons, List.map_cons, stored,
        ih fun other member => complete other (List.mem_cons_of_mem index member)]

@[simp]
theorem length_numbers : (numbers image).length = image.size / 4 := by
  simpa using congrArg List.length (numbers_eq image)

theorem getElem?_numbers (index : Nat) :
    (numbers image)[index]? = bits? image index := by
  by_cases within : index < image.size / 4
  · have same := congrArg (·[index]?) (numbers_eq image)
    simp only [List.getElem?_map, List.getElem?_range within, Option.map_some] at same
    rcases Option.isSome_iff_exists.1 ((isSome_bits?_iff image index).2 within) with
      ⟨bits, stored⟩
    rw [stored] at same ⊢
    rcases Option.map_eq_some_iff.1 same with ⟨number, here, alike⟩
    rw [here, Option.some.inj alike]
  · have beyond := Nat.le_of_not_lt within
    rw [(bits?_eq_none_iff image index).2 beyond, List.getElem?_eq_none]
    exact Nat.le_trans (Nat.le_of_eq (length_numbers image)) beyond

end Numbers

section Loading

variable
  (image : Array UInt8)
  (mirror : Buffer)

/-- A word is loaded where the image has a number for it, and kept where it has none. -/
theorem getElem?_load (index : Nat) :
    (load image mirror)[index]? =
      mirror[index]?.map fun word => ((bits? image index).map Word.ofBits).getD word := by
  simp only [load, word?, Array.getElem?_mapIdx]

theorem getElem?_load_of_bits?
    {index : Nat}
    {bits : UInt32}
    (stored : bits? image index = some bits)
    (within : index < mirror.size) :
    (load image mirror)[index]? = some (Word.ofBits bits) := by
  rw [getElem?_load, stored, Array.getElem?_eq_getElem within]
  rfl

theorem getElem?_load_of_le
    {index : Nat}
    (beyond : min mirror.size (image.size / 4) ≤ index) :
    (load image mirror)[index]? = mirror[index]? := by
  rw [getElem?_load]
  rcases Nat.lt_or_ge index mirror.size with within | outside
  · have unstored : bits? image index = none :=
      (bits?_eq_none_iff image index).2 (by omega)
    rw [unstored, Array.getElem?_eq_getElem within]
    rfl
  · rw [Array.getElem?_eq_none outside, Option.map_none]

/-- The words loaded over blank ones are the first of the image, and zeros behind them. -/
theorem toList_load_blank (count : Nat) :
    (load image (Buffer.blank count)).toList =
      ((numbers image).take count).map Word.ofBits ++
        List.replicate (count - (numbers image).length) Word.zero := by
  have size : ((numbers image).take count).length = min count (numbers image).length :=
    List.length_take
  apply List.ext_getElem?
  intro index
  rw [Array.getElem?_toList, getElem?_load, Buffer.blank, Array.getElem?_replicate,
    ← getElem?_numbers]
  rcases Nat.lt_or_ge index (min count (numbers image).length) with stored | unstored
  · rw [List.getElem?_append_left (by rwa [List.length_map, size]), List.getElem?_map,
      List.getElem?_take_of_lt (by omega), if_pos (by omega),
      List.getElem?_eq_getElem (by omega)]
    rfl
  · rw [List.getElem?_append_right (by rwa [List.length_map, size]), List.length_map, size,
      List.getElem?_replicate]
    by_cases within : index < count
    · rw [if_pos within, if_pos (by omega), List.getElem?_eq_none (by omega)]
      rfl
    · rw [if_neg within, if_neg (by omega), Option.map_none]

/-- The image of a run of words gives the run back, whatever it is loaded over. -/
theorem load_encode
    {words : Buffer}
    (same : mirror.size = words.size) :
    load (encode words) mirror = words := by
  apply Array.ext_getElem?
  intro index
  rw [getElem?_load, bits?_encode]
  by_cases within : index < words.size
  · rw [Array.getElem?_eq_getElem within, Array.getElem?_eq_getElem (same ▸ within)]
    simp
  · have beyond := Nat.le_of_not_lt within
    rw [Array.getElem?_eq_none beyond, Array.getElem?_eq_none (same ▸ beyond), Option.map_none]

end Loading

/-- Runs of words with the same image are the same. -/
theorem encode_injective : Function.Injective encode := by
  intro words other same
  have size : words.size = other.size := by
    have equal := congrArg Array.size same
    rw [size_encode, size_encode] at equal
    omega
  calc
    words = load (encode words) words := (load_encode words rfl).symm
    _ = load (encode other) words := by rw [same]
    _ = other := load_encode words size

/-- The normal form of an image: `count` words are loaded from it and saved again. -/
def renew
    (count : Nat)
    (image : Array UInt8) :
    Array UInt8 :=
  encode (load image (Buffer.blank count))

theorem size_renew
    (count : Nat)
    (image : Array UInt8) :
    (renew count image).size = 4 * count := by
  rw [renew, size_encode, size_load, Buffer.size_blank]

/-- The image of blank words is blank. -/
theorem flatMap_replicate_zero (count : Nat) :
    (List.replicate count Word.zero).flatMap (fun word => bytesOfBits word.toBits) =
      List.replicate (4 * count) 0 := by
  induction count with
  | zero => rfl
  | succ count ih =>
      have first : bytesOfBits Word.zero.toBits = List.replicate 4 0 := by decide
      rw [List.replicate_succ, List.flatMap_cons, ih, first, List.replicate_append_replicate,
        Nat.mul_succ, Nat.add_comm]

theorem toList_renew
    (count : Nat)
    (image : Array UInt8) :
    (renew count image).toList =
      ((numbers image).take count).flatMap (fun bits => bytesOfBits (bits &&& 0xBFFFFFFF)) ++
        List.replicate (4 * (count - image.size / 4)) 0 := by
  simp only [renew, encode, toList_load_blank, List.flatMap_append, List.flatMap_map,
    Word.toBits_ofBits, flatMap_replicate_zero, length_numbers]

theorem renew_renew
    (count : Nat)
    (image : Array UInt8) :
    renew count (renew count image) = renew count image := by
  have same : (Buffer.blank count).size = (load image (Buffer.blank count)).size :=
    (size_load image _).symm
  exact congrArg encode (load_encode (Buffer.blank count) same)

-- One complete number, with the bit that is not kept, and a byte left over.
example : renew 1 #[5, 0, 0, 0xC0, 6] = #[5, 0, 0, 0x80] := by decide

/-- The bit between sign and magnitude is never stored. -/
theorem bits?_encode_and
    {words : Buffer}
    {index : Nat}
    {bits : UInt32}
    (stored : bits? (encode words) index = some bits) :
    bits &&& 0x40000000 = 0 := by
  rw [bits?_encode] at stored
  rcases Option.map_eq_some_iff.1 stored with ⟨word, -, rfl⟩
  have normal : word.toBits &&& 0xBFFFFFFF = word.toBits := by
    rw [← Word.toBits_ofBits, Word.ofBits_toBits]
  calc
    word.toBits &&& 0x40000000
      = word.toBits &&& 0xBFFFFFFF &&& 0x40000000 := by rw [normal]
    _ = word.toBits &&& (0xBFFFFFFF &&& 0x40000000) := UInt32.and_assoc _ _ _
    _ = 0 := UInt32.and_zero

end Image

namespace FileSystem

/-- Words after the file at a path was loaded over them, if it can be read. -/
def loadOver
    (files : FileSystem)
    (path : String)
    (mirror : Buffer) :
    Buffer :=
  match files.read path with
  | .ok image => Image.load image mirror
  | .error _ => mirror

/-- Saves the image of some words at a path. -/
def save
    (files : FileSystem)
    (path : String)
    (words : Buffer) :
    FileSystem × List Notice :=
  files.replace path (Thunk.mk fun _ => Image.encode words) (.backingUnwritable path)

theorem loadOver_of_read
    {files : FileSystem}
    {path : String}
    {image : Array UInt8}
    (read : files.read path = .ok image)
    (mirror : Buffer) :
    files.loadOver path mirror = Image.load image mirror := by
  rw [loadOver, read]

/-- What was saved at a path is loaded from it. -/
theorem loadOver_save
    {files : FileSystem}
    {path : String}
    (writable : files.isWritable path = true)
    {words mirror : Buffer}
    (same : mirror.size = words.size) :
    (files.save path words).1.loadOver path mirror = words := by
  have saved : (files.save path words).1.read path = .ok (Image.encode words) :=
    read_replace writable _ _
  rw [loadOver_of_read saved, Image.load_encode mirror same]

end FileSystem

namespace Drive

variable {medium : Medium}

/-- A medium is mounted by loading its file over blank words. -/
theorem words_mount
    (files : FileSystem)
    (path : String) :
    (mount files path : Drive medium × List Notice).1.store.words =
      files.loadOver path (Buffer.blank medium.geometry.size) := by
  rw [mount, FileSystem.loadOver]
  cases files.read path with
  | ok image => rfl
  | error cause =>
      cases cause with
      | notFound => rfl
      | _ => rfl

/-- An output that is accepted saves all words of the medium. -/
theorem files_output_of_accepted
    {drive : Drive medium}
    {now : UInt64}
    {files : FileSystem}
    {buffer : Buffer}
    (taken : (drive.output now files buffer).accepted = true) :
    (drive.output now files buffer).files =
      (files.save drive.path (drive.output now files buffer).unit.store.words).1 := by
  rw [output] at taken ⊢
  cases wrote : drive.store.writeBlock? drive.store.cursor buffer with
  | none =>
      rw [wrote] at taken
      contradiction
  | some written => rfl

end Drive

namespace Image

/--
Saving words and loading them again gives the same words, signs and negative zeros included,
and no two runs of words have the same image.  Loading any bytes sets the words whose four
bytes are there, the least significant first, and no others.  Saving what was loaded over
`count` blank words makes a normal form of four bytes a word: the numbers of the bytes without
the bit below the sign, and zeros behind them; a normal form is its own normal form.  No image
that is saved has this bit set.  This is how drives mount their media and save them.
-/
theorem saved_image_is_normal
    (words mirror : Buffer)
    (image : Array UInt8)
    (count : Nat)
    (files : FileSystem)
    (path : String) :
    let complete := min mirror.size (image.size / 4)
    let normal := renew count image
    (mirror.size = words.size → load (encode words) mirror = words) ∧
    (files.isWritable path = true →
      mirror.size = words.size → (files.save path words).1.loadOver path mirror = words) ∧
    (∀ other, encode other = encode words → other = words) ∧
    (∀ index,
      index < complete →
        ∃ first second third fourth,
          image[4 * index]? = some first ∧
            image[4 * index + 1]? = some second ∧
              image[4 * index + 2]? = some third ∧
                image[4 * index + 3]? = some fourth ∧
                  (load image mirror)[index]? =
                    some (Word.ofBits (bitsOfBytes first second third fourth))) ∧
    (∀ index, complete ≤ index → (load image mirror)[index]? = mirror[index]?) ∧
    (files.isWritable path = true →
      files.read path = .ok image →
        (files.save path (files.loadOver path (Buffer.blank count))).1.read path =
          .ok normal) ∧
    normal.size = 4 * count ∧
    normal.toList =
      ((numbers image).take count).flatMap (fun bits => bytesOfBits (bits &&& 0xBFFFFFFF)) ++
        List.replicate (4 * (count - image.size / 4)) 0 ∧
    renew count normal = normal ∧
    (∀ index bits, bits? (encode words) index = some bits → bits &&& 0x40000000 = 0) ∧
    (∀ medium,
      (Drive.mount files path : Drive medium × List Notice).1.store.words =
        files.loadOver path (Buffer.blank medium.geometry.size)) ∧
    (∀ (medium : Medium) (drive : Drive medium) (now : UInt64) (buffer : Buffer),
      let sent := drive.output now files buffer
      sent.accepted = true → sent.files = (files.save drive.path sent.unit.store.words).1) := by
  intro complete normal
  refine
    ⟨load_encode mirror, fun writable same => FileSystem.loadOver_save writable same,
      fun other same => encode_injective same, ?_,
      fun index beyond => getElem?_load_of_le image mirror beyond, ?_,
      size_renew count image, toList_renew count image, renew_renew count image,
      fun index bits stored => bits?_encode_and stored,
      fun medium => Drive.words_mount files path,
      fun medium drive now buffer taken => Drive.files_output_of_accepted taken⟩
  · intro index within
    have stored : (bits? image index).isSome = true :=
      (isSome_bits?_iff image index).2 (by omega)
    rcases Option.isSome_iff_exists.1 stored with ⟨bits, held⟩
    rcases (bits?_eq_some_iff image index bits).1 held with
      ⟨first, second, third, fourth, one, two, three, four, rfl⟩
    exact
      ⟨first, second, third, fourth, one, two, three, four,
        getElem?_load_of_bits? image mirror held (by omega)⟩
  · intro writable read
    rw [FileSystem.loadOver_of_read read]
    exact FileSystem.read_replace writable _ _

end Image

end MixUnits
