import MixUnits.CommandLine.Grammar
import MixUnits.Notice

/-!
# The command line

The name of a command stands before its arguments.  Before the name the pace of the
clock may be chosen, once.  Missing words and unknown media are refused after all the
arguments have been read.
-/

namespace MixUnits

/-- What the program is asked to do. -/
inductive Command where
  | echo
  | dump (medium : Medium) (path start count : String)
  | cards (deck tape count : String)
  | missing
  deriving DecidableEq, Repr

namespace CommandLine

/-- The arguments of the echo. -/
def echoGrammar : Grammar :=
  ⟨"type", 0, []⟩

/-- The arguments of the dump. -/
def dumpGrammar : Grammar :=
  ⟨"dump", 2, ["start", "count"]⟩

/-- The arguments of the copy of cards. -/
def cardsGrammar : Grammar :=
  ⟨"cards", 2, ["count"]⟩

/-- The medium of a name. -/
def medium? : String → Option Medium
  | "tape" => some .tape
  | "disk" => some .disk
  | _ => none

/-- Reads a command by its name. -/
def command
    (name : String)
    (arguments : List String) :
    Except Stop Command :=
  match name with
  | "type" => do
    let _ ← echoGrammar.read arguments
    return .echo
  | "dump" => do
    let reading ← dumpGrammar.read arguments
    match reading.words with
    | [kind, path] =>
      match medium? kind with
      | some medium =>
        return .dump medium path (reading.value "start" "0") (reading.value "count" "1")
      | none => throw .usage
    | _ => throw .usage
  | "cards" => do
    let reading ← cardsGrammar.read arguments
    match reading.words with
    | [deck, tape] => return .cards deck tape (reading.value "count" "1")
    | _ => throw .usage
  | "help" =>
    match arguments with
    | [] => throw .help
    | [name] =>
      if name ∈ ["type", "dump", "cards", "help"] then throw .help else throw .usage
    | _ => throw .usage
  | _ => throw .usage

/-- The name and number of the program, for the version of the whole. -/
def programName : String :=
  "vMIX Peripherals"

/-- Reads the arguments before a command; the pace of the clock may be chosen once. -/
def readFrom
    (paces : Nat)
    (arguments : List String) :
    Except Stop Command :=
  match arguments with
  | [] => if paces ≤ 1 then .ok .missing else .error .usage
  | argument :: rest =>
    match Token.ofArgument argument with
    | .separator =>
      match rest with
      | [] => readFrom paces rest
      | _ :: _ => .error .usage
    | .long name _ =>
      if name = "realtime" then readFrom (paces + 1) rest
      else if name = "help" then .error .help
      else if name = "version" then .error (.version "")
      else .error .usage
    | .short letter =>
      if letter = 'h' then .error .help
      else if letter = 'V' then .error (.version "")
      else .error .usage
    | .word text => do
      let command ← command text rest
      if paces ≤ 1 then return command else throw .usage

/-- The command that a command line asks for, or why it asks for none. -/
def read (arguments : List String) : Except Stop Command :=
  readFrom 0 arguments

/-- The line that shows the version of the program or of one of its commands. -/
def versionLine (name : String) : String :=
  if name = "" then programName ++ " 0.1\n" else "vmix-" ++ name ++ " \n"

/-- The lines that tell how to use the program. -/
def helpText : String :=
  programName ++ " 0.1\n\n" ++
    "vmix [--realtime] type\n" ++
    "vmix [--realtime] dump <tape|disk> <filename> [--start <n>] [--count <n>]\n" ++
    "vmix [--realtime] cards <deck> <tape> [--count <n>]\n"

end CommandLine

end MixUnits
