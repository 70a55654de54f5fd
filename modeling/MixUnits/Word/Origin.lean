import MixUnits.Word

/-!
# What words are built of

A word is built of a sign and a magnitude, of five bytes, of the number that stores it, or
of nothing.  A magnitude is cut to thirty bits, and that is reported; of a byte only the
lowest six bits count, and that is not.  The bytes are shifted into a number one after the
other, so the first becomes the most significant field.
-/

namespace MixUnits.Word

/-- A number moved six bits up, with the lowest six bits of a byte below it. -/
def shiftIn
    (bits : UInt32)
    (byte : UInt8) :
    UInt32 :=
  (bits <<< 6) ||| (byte.toUInt32 &&& 0x3F)

/-- Five bytes in one number, the first one uppermost. -/
def gather (bytes : Fin 5 → UInt8) : UInt32 :=
  (List.ofFn bytes).foldl shiftIn 0

/-- What a word is built of. -/
inductive Origin where
  | parts (sign : Sign) (magnitude : UInt32)
  | bytes (bytes : Fin 5 → UInt8)
  | bits (bits : UInt32)
  | nothing

/-- A word and what is reported when it is built. -/
def Origin.build : Origin → Word × List Notice
  | .parts sign given => (truncate sign given.toNat, truncateNotices given.toNat)
  | .bytes given =>
    (truncate .positive (gather given).toNat, truncateNotices (gather given).toNat)
  | .bits given => (ofBits given, [])
  | .nothing => (zero, [])

end MixUnits.Word
