import Reckoner.Assignment
import Reckoner.Bindings
import Reckoner.Text.ControlSequence

/-! # The command line

The arguments are options and at most one expression, in any order. `-D NAME=VALUE`, also
`--define`, gives a variable a value; the value of the option can follow it directly, after an
equals sign or as the next argument. `-V` and `--version` ask for the version. After `--` every
argument is an expression.

An argument that was taken as the value of the option before it is looked into when the next option
or expression comes, or the end of the arguments; so an unknown option is reported before a bad
value that stands in front of it. -/

namespace Reckoner.CommandLine

/-- What is wrong with the arguments. -/
inductive Fault
  | invalidValue (value : String) (fault : Assignment.Fault)
  | missingValue
  | unexpectedArgument (argument : String)
  | unexpectedValue (value option : String)
  deriving DecidableEq, Repr

/-- The option that gives a variable a value, as messages name it. -/
def defineOption : String := "--define <NAME=VALUE>"

/-- The option that messages recommend. -/
def helpOption : String := "--help"

namespace Fault

/-- What is wrong, with the arguments and options highlighted. -/
def headline : Fault → String
  | .invalidValue value fault =>
    s!"invalid value '{Text.highlight value}' for '{Text.highlight defineOption}': {fault.message}"
  | .missingValue =>
    s!"a value is required for '{Text.highlight defineOption}' but none was supplied"
  | .unexpectedArgument argument => s!"unexpected argument '{Text.highlight argument}' found"
  | .unexpectedValue value option =>
    s!"unexpected value '{Text.highlight value}' for '{Text.highlight option}' found; " ++
      "no more were expected"

/-- The message of a fault, highlighted for a terminal. -/
def highlighted (fault : Fault) : String :=
  s!"error: {fault.headline}\n\nFor more information, try '{Text.highlight helpOption}'.\n"

/-- The message of a fault as it is written where there is no terminal. Control sequences in the
arguments are dropped like those of the highlighting, and one that an argument leaves open takes
some of the message with it. -/
def message (fault : Fault) : String := Text.plain fault.highlighted

end Fault

/-- What the arguments ask for. -/
inductive Request
  /-- The version. -/
  | version
  /-- The value of an expression, or a dialogue where there is none. -/
  | calculate (expression : Option String) (bindings : Bindings)

/-- The form of an argument. -/
inductive Form
  /-- The end of the options, `--`. -/
  | separator
  /-- An option with a long name and the value after an equals sign. -/
  | long (name : String) (value : Option String)
  /-- An option of one letter and the characters after it. -/
  | short (letter : Char) (rest : List Char)
  /-- Anything else. -/
  | plain

/-- The form of the characters of an argument. -/
def Form.of : List Char → Form
  | ['-', '-'] => .separator
  | '-' :: '-' :: option =>
    let name := String.ofList (option.takeWhile (· ≠ '='))
    match option.dropWhile (· ≠ '=') with
    | [] => .long name none
    | _ :: value => .long name (some (String.ofList value))
  | '-' :: letter :: rest => .short letter rest
  | _ => .plain

/-- The value that the last option is still to be given. -/
inductive Pending
  /-- None. -/
  | none
  /-- The next argument. -/
  | next
  /-- This argument, which was not looked into yet. -/
  | given (value : String)

/-- What the arguments up to some point came to. -/
structure Progress where
  bindings : Bindings
  expression : Option String
  pending : Pending

namespace Progress

/-- The state before the first argument. -/
def start : Progress := ⟨∅, none, .none⟩

/-- Takes a value of the option that gives a variable a value. -/
def define (progress : Progress) (value : String) : Except Fault Progress :=
  match Assignment.read value with
  | .ok assignment =>
    .ok { progress with
      bindings := progress.bindings.insert assignment.name assignment.value
      pending := .none }
  | .error fault => .error (.invalidValue value fault)

/-- Looks into the value that is pending. -/
def settle (progress : Progress) : Except Fault Progress :=
  match progress.pending with
  | .none => .ok progress
  | .next => .error .missingValue
  | .given value => progress.define value

/-- Takes the option that gives a variable a value; without a value the next argument is it. -/
def defineOption (progress : Progress) (value : Option String) : Except Fault Progress := do
  let progress ← progress.settle
  match value with
  | some value => progress.define value
  | none => return { progress with pending := .next }

/-- Takes an argument that is not an option. -/
def plain (progress : Progress) (argument : String) : Except Fault Progress :=
  match progress.expression with
  -- a second expression is refused before a pending value is looked into
  | some _ => .error (.unexpectedArgument argument)
  | none => do
    let progress ← progress.settle
    return { progress with expression := some argument }

end Progress

/-- The value that follows the letter of an option directly, after an equals sign or without. -/
def attachedValue? : List Char → Option String
  | [] => none
  | '=' :: value => some (String.ofList value)
  | value => some (String.ofList value)

/-- Reads the arguments after `progress`; `plainOnly` once the options have ended. -/
def readFrom (plainOnly : Bool) (progress : Progress) : List String → Except Fault Request
  | [] => do
    let progress ← progress.settle
    return .calculate progress.expression progress.bindings
  | argument :: arguments =>
    if plainOnly then do
      readFrom true (← progress.plain argument) arguments
    else
      match Form.of argument.toList with
      | .separator => readFrom true progress arguments
      | .long "define" value => do
        readFrom false (← progress.defineOption value) arguments
      | .long "version" none => do
        let _ ← progress.settle
        return .version
      | .long "version" (some value) => .error (.unexpectedValue value "--version")
      | .long name _ => .error (.unexpectedArgument ("--" ++ name))
      | .short 'D' rest => do
        readFrom false (← progress.defineOption (attachedValue? rest)) arguments
      | .short 'V' _ => do
        let _ ← progress.settle
        return .version
      | .short letter _ => .error (.unexpectedArgument (String.ofList ['-', letter]))
      | .plain =>
        match progress.pending with
        -- the argument is the value of the option before it and is looked into later
        | .next => readFrom false { progress with pending := .given argument } arguments
        | _ => do readFrom false (← progress.plain argument) arguments

/-- What a list of arguments asks for. -/
def read (arguments : List String) : Except Fault Request :=
  readFrom false .start arguments

end Reckoner.CommandLine
