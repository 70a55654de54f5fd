import MixUnits.CommandLine.Command
import MixUnits.Job.CardCopy
import MixUnits.Job.Dump
import MixUnits.Job.Echo
import MixUnits.Text.Decimal

/-!
# The program

The program reads its arguments and carries out one command on the files and the
input it is given.  What it prints, the files it leaves, what it reports and its exit
code are its whole effect.  Notices below the chosen severity are not reported; a
command that could not be read reports nothing.
-/

namespace MixUnits.Program

open MixUnits.Text

/-- The effect of a command. -/
structure Effect where
  printed : List UInt8
  files : FileSystem
  notices : List Notice

/-- The text that a printer on a machine has handed over. -/
def printedBy (machine : Machine) : List UInt8 :=
  match machine.device? UnitNumber.linePrinter with
  | some (.linePrinter printer) => printer.sink.text
  | _ => []

/-- The number that an option gives, with a notice if it gives none. -/
def number
    (option value : String) :
    Option Nat × List Notice :=
  match Decimal.read? value with
  | some number => (some number, [])
  | none => (none, [.numberInvalid option value])

/-- Carries out a command. -/
def carryOut
    (files : FileSystem)
    (input : List UInt8) :
    Command → Effect
  | .echo =>
    let (echo, notices) :=
      (Echo.start (input.map Keystroke.byte) ⟨.endless, [], 0, 0⟩).finish
    ⟨echo.printer.sink.text, files, notices.toList⟩
  | .dump medium path start count =>
    match number "start" start, number "count" count with
    | (some start, _), (some count, _) =>
      let (machine, notices) :=
        Dump.run ⟨medium, path, start, count⟩ files ⟨.endless, [], 0, 0⟩
      ⟨printedBy machine, machine.files, notices⟩
    | (_, first), (_, second) => ⟨[], files, first ++ second⟩
  | .cards deck tape count =>
    match number "count" count with
    | (some count, _) =>
      let (machine, notices) := CardCopy.run ⟨deck, tape, count⟩ files
      ⟨printedBy machine, machine.files, notices⟩
    | (none, notices) => ⟨[], files, notices⟩
  | .missing => ⟨[], files, [.jobMissing]⟩

/-- The least severity that is reported, by its name; without one, errors only. -/
def severityNamed? : Option String → Option Severity
  | none | some "" | some "error" => some .error
  | some "warn" => some .warn
  | some "info" => some .info
  | some "debug" => some .debug
  | some "trace" => some .trace
  | some _ => none

/-- Whether a notice is reported when `least?` is the least severity. -/
def isReported
    (least? : Option Severity)
    (notice : Notice) :
    Bool :=
  match least? with
  | none => false
  | some least => notice.severity.rank ≤ least.rank

/-- The files that a command reads, the one that it writes last of all. -/
def filesOf : Command → List String
  | .dump _ path _ _ => [path]
  | .cards deck tape count =>
    match number "count" count with
    | (some count, _) => (List.range count).map (Card.path deck) ++ [tape]
    | (none, _) => []
  | .echo | .missing => []

/-- The file that a command may write. -/
def written? : Command → Option String
  | .cards _ tape _ => some tape
  | .echo | .dump .. | .missing => none

/-- The effect of a run of the program and its exit code. -/
structure Outcome extends Effect where
  exitCode : UInt32

/-- Runs the program. -/
def run
    (arguments : List String)
    (least? : Option Severity)
    (files : FileSystem)
    (input : List UInt8) :
    Outcome :=
  match CommandLine.read arguments with
  | .error .usage => ⟨⟨[], files, []⟩, 1⟩
  | .error .help => ⟨⟨CommandLine.helpText.toUTF8.data.toList, files, []⟩, 0⟩
  | .error (.version name) =>
    ⟨⟨(CommandLine.versionLine name).toUTF8.data.toList, files, []⟩, 0⟩
  | .ok command =>
    let effect := carryOut files input command
    ⟨{ effect with notices := effect.notices.filter (isReported least?) }, 0⟩

end MixUnits.Program
