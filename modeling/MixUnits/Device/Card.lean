import MixUnits.Device.Answer
import MixUnits.FileSystem.Replace

/-!
# Punched cards

A card holds sixteen words, five characters each, with a separator after the words
4, 8 and 12 counted from zero.  The reader and the punch keep their cards in numbered
files that share the beginning of their path.

The reader moves to the next card whether or not it could read this one.  The punch
never moves, so it punches over the same card.
-/

namespace MixUnits

namespace Card

/-- The words on a card. -/
def geometry : Geometry :=
  ⟨16, 1⟩

/-- A separator follows every fourth word but the first one. -/
def endsGroup (index : Nat) : Bool :=
  0 < index && index % 4 = 0

/-- The file of a card in a deck. -/
def path
    (deck : String)
    (card : Nat) :
    String :=
  deck ++ toString card ++ ".card"

/-- The separator of two groups of words. -/
def separator : UInt8 := 10

/-- The characters of the words from `index` on, with the separators between them. -/
def encodeFrom : Nat → List Word → List UInt8
  | _, [] => []
  | index, word :: words =>
    word.text ++ (if endsGroup index then [separator] else []) ++
      encodeFrom (index + 1) words

/-- The characters of a card. -/
def encode (words : List Word) : List UInt8 :=
  encodeFrom 0 words

/--
Reads `count` words, the first of them the word at `index` of the card.  A character
that is missing or has no code is a blank.
-/
def decodeFrom : Nat → Nat → List UInt8 → List Word
  | _, 0, _ => []
  | index, count + 1, characters =>
    Word.ofFields
        (fun column =>
          (characters[column.val]?.map Code.ofByteOrBlank).getD Code.blank) ::
      decodeFrom (index + 1) count
        (characters.drop (if endsGroup index then 6 else 5))

/-- The first `count` words of a card. -/
def decode
    (count : Nat)
    (characters : List UInt8) :
    List Word :=
  decodeFrom 0 count characters

theorem length_decodeFrom
    (index count : Nat)
    (characters : List UInt8) :
    (decodeFrom index count characters).length = count := by
  induction count generalizing index characters with
  | zero => rfl
  | succ count shorter => simp [decodeFrom, shorter]

@[simp]
theorem length_decode
    (count : Nat)
    (characters : List UInt8) :
    (decode count characters).length = count :=
  length_decodeFrom 0 count characters

end Card

/-- A card reader with its deck; the cursor is the next card. -/
@[ext]
structure CardReader where
  deck : String
  store : BlockStore Card.geometry

namespace CardReader

/-- The cost of reading a word from a card, in milliseconds. -/
def latency : UInt64 := 150

/-- A card reader before the first card of a deck. -/
def mount (deck : String) : CardReader :=
  ⟨deck, .blank Card.geometry⟩

/-- Reads the next card into a buffer and moves on. -/
def input
    (reader : CardReader)
    (now : UInt64)
    (files : FileSystem)
    (buffer : Buffer) :
    Received CardReader :=
  let path := Card.path reader.deck reader.store.cursor
  -- A reader moves on by one from zero, so the last number of 64 bits is never in sight.
  let moved :=
    { reader with
      store := (reader.store.markBusy now latency).setCursor (reader.store.cursor + 1) }
  match files.read path with
  | .ok contents =>
    { accepted := true
      unit := moved
      buffer :=
        buffer.overlay 0
          (Card.decode (min buffer.size Card.geometry.blockSize) contents.toList).toArray
      notices := [.cardRead path] }
  | .error error =>
    { accepted := true
      unit := moved
      buffer := buffer
      notices := [.cardUnreadable path error] }

end CardReader

/-- A card punch with its deck. -/
@[ext]
structure CardPunch where
  deck : String
  store : BlockStore Card.geometry

namespace CardPunch

/-- The cost of punching a word, in milliseconds. -/
def latency : UInt64 := 250

/-- A card punch on the first card of a deck. -/
def mount (deck : String) : CardPunch :=
  ⟨deck, .blank Card.geometry⟩

/-- Punches the words of a buffer, as many as a card holds. -/
def output
    (punch : CardPunch)
    (now : UInt64)
    (files : FileSystem)
    (buffer : Buffer) :
    Sent CardPunch :=
  let path := Card.path punch.deck punch.store.cursor
  let body := Card.encode (buffer.toList.take Card.geometry.blockSize)
  let (written, punching) :=
    files.replace path (Thunk.mk fun _ => body.toArray) (.cardUnwritable path)
  { accepted := true
    unit := { punch with store := punch.store.markBusy now latency }
    files := written
    notices := .cardPunched path :: punching }

end CardPunch

end MixUnits
