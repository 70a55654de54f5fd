import MixUnits.FileSystem.Basic
import MixUnits.Request
import MixUnits.Text.Quoted

/-!
# Notices

Units, the channel and the jobs report what they meet as notices.  A notice is the
event itself; its severity and its wording are functions of the event.
-/

namespace MixUnits

/-- How grave a notice is, the gravest first. -/
inductive Severity where
  | error
  | warn
  | info
  | debug
  | trace
  deriving DecidableEq, Repr

namespace Severity

/-- The written form of a severity. -/
def text : Severity → String
  | .error => "ERROR"
  | .warn => "WARN"
  | .info => "INFO"
  | .debug => "DEBUG"
  | .trace => "TRACE"

/-- The place of a severity in the order of gravity. -/
def rank : Severity → Nat
  | .error => 1
  | .warn => 2
  | .info => 3
  | .debug => 4
  | .trace => 5

end Severity

/-- The media that hold blocks of words. -/
inductive Medium where
  | tape
  | disk
  deriving DecidableEq, Repr

/-- The written form of a medium. -/
def Medium.text : Medium → String
  | .tape => "TAPE"
  | .disk => "DISK"

/-- An event that is reported. -/
inductive Notice where
  | magnitudeTruncated (magnitude : Nat)
  | bufferLength (length blockSize : Nat)
  | blockOutside (block blockCount : Nat)
  | backingMissing (path : String)
  | backingUnreadable (path : String) (error : FileError)
  | backingLength (path : String) (length expected : Nat)
  | backingUnwritable (path : String) (error : FileError)
  | blockRead (medium : Medium) (block : Nat) (path : String)
  | blockWritten (medium : Medium) (block : Nat) (path : String)
  | seekOutside (block : Nat)
  | cardRead (path : String)
  | cardUnreadable (path : String) (error : FileError)
  | cardPunched (path : String)
  | cardUnwritable (path : String) (error : FileError)
  | lineLost (cause : String)
  | keyboardFailed (cause : String)
  | tapePadded (length total : Nat)
  | tapeUnwritable (path : String) (error : FileError)
  | unitMissing (unit : Nat)
  | unitEmpty (unit : Nat)
  | queueFull (request : Request)
  | windowOutside (blockSize address : Nat)
  | requestEnded (request : Request) (accepted : Bool)
  | requestRefused (request : Request)
  | numberInvalid (name value : String)
  | rangeOutside (count start : Nat)
  | blockUnaddressable (block : Nat)
  | deckCopied (count : Nat) (deck tape : String)
  | jobMissing
  deriving DecidableEq, Repr

namespace Notice

open MixUnits.Text

/-- How grave a notice is. -/
def severity : Notice → Severity
  | .magnitudeTruncated .. | .bufferLength .. | .backingUnreadable .. | .backingLength ..
  | .cardUnreadable .. | .keyboardFailed .. | .requestRefused .. => .warn
  | .blockOutside .. | .backingUnwritable .. | .seekOutside .. | .cardUnwritable ..
  | .lineLost .. | .tapeUnwritable .. | .unitMissing .. | .unitEmpty .. | .queueFull ..
  | .windowOutside .. | .numberInvalid .. | .rangeOutside .. | .blockUnaddressable ..
  | .jobMissing => .error
  | .deckCopied .. => .info
  | .backingMissing .. | .blockRead .. | .blockWritten .. | .cardRead .. | .cardPunched ..
  | .tapePadded .. | .requestEnded .. => .debug

/-- A number in base eight. -/
def octal (number : Nat) : String :=
  String.ofList (Nat.toDigits 8 number)

/-- The wording of a notice. -/
def message : Notice → String
  | .magnitudeTruncated magnitude =>
    "Word magnitude " ++ octal magnitude ++ " exceeds 30 bits. Truncating"
  | .bufferLength length blockSize =>
    "Transfer buffer holds " ++ toString length ++ " words, block is " ++
      toString blockSize ++ " words"
  | .blockOutside block blockCount =>
    "Page " ++ toString block ++ " is outside of the device (" ++
      toString blockCount ++ " blocks)"
  | .backingMissing path =>
    "No backing file at " ++ Quoted.encode path ++ ". Starting blank"
  | .backingUnreadable path error =>
    "Unable to read backing file " ++ Quoted.encode path ++ ": " ++ error.message
  | .backingLength path length expected =>
    "Backing file " ++ Quoted.encode path ++ " holds " ++ toString length ++
      " bytes, expected " ++ toString expected
  | .backingUnwritable path error =>
    "Unable to write backing file " ++ Quoted.encode path ++ ": " ++ error.message
  | .blockRead medium block path =>
    medium.text ++ ": Read block " ++ toString block ++ " from " ++ Quoted.encode path
  | .blockWritten medium block path =>
    medium.text ++ ": Write block " ++ toString block ++ " to " ++ Quoted.encode path
  | .seekOutside block =>
    "DISK: Seek to block " ++ toString block ++ " is past the end of the disk"
  | .cardRead path => "CARD: Reading " ++ path
  | .cardUnreadable path error => "CARD: Unable to read " ++ path ++ ": " ++ error.message
  | .cardPunched path => "CARD: Punching " ++ path
  | .cardUnwritable path error => "CARD: Unable to write " ++ path ++ ": " ++ error.message
  | .lineLost cause => "PRINTER: Unable to print line: " ++ cause
  | .keyboardFailed cause => "TYPEWRITER: Unable to read input: " ++ cause
  | .tapePadded length total =>
    "PAPER: Padding " ++ toString length ++ " words to " ++ toString total ++ " words"
  | .tapeUnwritable path error =>
    "PAPER: Unable to punch " ++ Quoted.encode path ++ ": " ++ error.message
  | .unitMissing unit => "CHANNEL: Unit " ++ toString unit ++ " does not exist"
  | .unitEmpty unit => "CHANNEL: No device attached to unit " ++ toString unit
  | .queueFull request => "CHANNEL: Unable to queue " ++ request.text
  | .windowOutside blockSize address =>
    "CHANNEL: Transfer of " ++ toString blockSize ++ " words at " ++ toString address ++
      " is outside of memory"
  | .requestEnded request accepted =>
    "CHANNEL: " ++ request.text ++ " -> " ++ (if accepted then "true" else "false")
  | .requestRefused request =>
    "Unit " ++ toString request.unit ++ " refused " ++ request.operation.text
  | .numberInvalid name value =>
    "Invalid value for --" ++ name ++ ": " ++ Quoted.encode value
  | .rangeOutside count start =>
    "Dump of " ++ toString count ++ " blocks from block " ++ toString start ++
      " is out of range"
  | .blockUnaddressable block =>
    "Block " ++ toString block ++ " cannot be addressed on the disk"
  | .deckCopied count deck tape =>
    "Copied " ++ toString count ++ " cards from " ++ Quoted.encode deck ++ " to " ++
      Quoted.encode tape
  | .jobMissing => "Invalid subcommand. Exiting"

end Notice

end MixUnits
