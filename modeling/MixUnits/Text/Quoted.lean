import MixUnits.Text.Invisible
import MixUnits.Text.Joining

/-!
# Quoted text

Text is shown between double quotes.  A quote and a backslash inside it are marked
by a backslash; tab, carriage return, line feed and NUL have short forms; every
other character that does not stand by itself on a line is written by its number in
base sixteen.
-/

namespace MixUnits.Text.Quoted

/-- Whether a character is shown and stands by itself. -/
def standsAlone (character : Char) : Bool :=
  !isInvisible character && !isJoining character

/-- The number of a character in base sixteen, between braces. -/
def number (character : Char) : List Char :=
  ['\\', 'u', Char.ofNat 123] ++ Nat.toDigits 16 character.toNat ++ [Char.ofNat 125]

/-- One character of quoted text. -/
def encodeChar (character : Char) : List Char :=
  if character = '"' then ['\\', '"']
  else if character = '\\' then ['\\', '\\']
  else if character = '\t' then ['\\', 't']
  else if character = '\r' then ['\\', 'r']
  else if character = '\n' then ['\\', 'n']
  else if character.toNat = 0 then ['\\', '0']
  else if standsAlone character then [character]
  else number character

/-- A text between quotes. -/
def encode (text : String) : String :=
  String.ofList (['"'] ++ text.toList.flatMap encodeChar ++ ['"'])

end MixUnits.Text.Quoted
