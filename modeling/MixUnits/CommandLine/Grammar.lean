import MixUnits.CommandLine.Token

/-!
# Arguments of a command

A command takes a number of words and some options.  An option takes its value from
behind its equals sign or from the next argument; an argument that begins with a dash
is never such a value, so an option may be left without one.  Behind a separator
every argument is a word.

Help and the version are shown as soon as they are asked for, and an argument that
does not fit is refused where it stands.  Repeated options are refused at the end.
-/

namespace MixUnits.CommandLine

/-- Why a command line asks for no command. -/
inductive Stop where
  | help
  | version (name : String)
  | usage
  deriving DecidableEq, Repr

/-- How many words a command takes and which options. -/
structure Grammar where
  name : String
  arity : Nat
  options : List String
  deriving DecidableEq, Repr

/-- The arguments read so far; an option may be waiting for its value. -/
structure Reading where
  words : List String := []
  named : List String := []
  values : List (String × String) := []
  waiting? : Option String := none
  wordsOnly : Bool := false
  deriving DecidableEq, Repr

/-- Takes one more word, unless the command has all of its words. -/
def Reading.addWord
    (reading : Reading)
    (grammar : Grammar)
    (word : String) :
    Except Stop Reading :=
  if reading.words.length < grammar.arity then
    .ok { reading with words := reading.words ++ [word] }
  else
    .error .usage

/-- Reads one more argument of a command. -/
def Reading.read
    (grammar : Grammar)
    (reading : Reading)
    (argument : String) :
    Except Stop Reading :=
  if reading.wordsOnly then
    reading.addWord grammar argument
  else
    match Token.ofArgument argument with
    | .separator => .ok { reading with wordsOnly := true, waiting? := none }
    | .long name value? =>
      if name ∈ grammar.options then
        match value? with
        | some value =>
          .ok
            { reading with
              named := name :: reading.named
              values := (name, value) :: reading.values
              waiting? := none }
        | none =>
          .ok { reading with named := name :: reading.named, waiting? := some name }
      else if name = "help" then
        .error .help
      else if name = "version" then
        .error (.version grammar.name)
      else
        .error .usage
    | .short letter =>
      if letter = 'h' then .error .help
      else if letter = 'V' then .error (.version grammar.name)
      else .error .usage
    | .word text =>
      match reading.waiting? with
      | some name =>
        .ok { reading with values := (name, text) :: reading.values, waiting? := none }
      | none => reading.addWord grammar text

/-- Reads the arguments of a command; a repeated option is refused at the end. -/
def Grammar.read
    (grammar : Grammar)
    (arguments : List String) :
    Except Stop Reading := do
  let reading ← arguments.foldlM (Reading.read grammar) {}
  if reading.named.Nodup then
    return reading
  else
    throw .usage

/-- The value of an option, or its default. -/
def Reading.value
    (reading : Reading)
    (option default : String) :
    String :=
  (reading.values.lookup option).getD default

end MixUnits.CommandLine
