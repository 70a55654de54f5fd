/-!
# Arguments

An argument that begins with two dashes is the name of an option, with a value behind
an equals sign if there is one; a lone pair of dashes is a separator.  An argument
that begins with one dash is a letter.  Everything else is a word, and so is a lone
dash.
-/

namespace MixUnits.CommandLine

/-- The kinds of argument. -/
inductive Token where
  | separator
  | long (name : String) (value? : Option String)
  | short (letter : Char)
  | word (text : String)
  deriving DecidableEq, Repr

/-- The characters that are no equals sign, up to the first that is one. -/
def beforeEquals (characters : List Char) : List Char :=
  characters.takeWhile (· ≠ '=')

/-- The characters behind the first equals signs, if there is one. -/
def afterEquals? (characters : List Char) : Option (List Char) :=
  match characters.dropWhile (· ≠ '=') with
  | [] => none
  | rest => some (rest.dropWhile (· = '='))

/-- The kind of an argument. -/
def Token.ofArgument (argument : String) : Token :=
  match argument.toList with
  | ['-', '-'] => .separator
  | '-' :: '-' :: rest =>
    let long := rest.dropWhile (· = '-')
    .long (String.ofList (beforeEquals long)) ((afterEquals? long).map String.ofList)
  | '-' :: letter :: _ => .short letter
  | _ => .word argument

end MixUnits.CommandLine
