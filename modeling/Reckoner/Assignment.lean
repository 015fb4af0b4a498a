import Reckoner.Decimal.Parser
import Reckoner.Name
import Reckoner.Text.Blank

/-! # Assignments

An assignment gives a variable a value. It is written as a name, an equals sign and a number, with
blanks around each if wanted. -/

namespace Reckoner

/-- A variable and its value. -/
structure Assignment where
  name : String
  value : Float

namespace Assignment

/-- Why a text is no assignment. -/
inductive Fault
  /-- The text has no equals sign. -/
  | noEquals (text : String)
  /-- What stands before the first equals sign is no name. -/
  | invalidName (name : String)
  /-- What stands after it is no number. -/
  | notNumber (value : String)
  deriving DecidableEq, Repr

/-- The message of a fault. -/
def Fault.message : Fault → String
  | .noEquals text => s!"expected NAME=VALUE, got '{text}'"
  | .invalidName name => s!"'{name}' is not a valid variable name"
  | .notNumber value => s!"'{value}' is not a number"

/-- The assignment that a name and the text of a value make. -/
def ofParts (name value : List Char) : Except Fault Assignment :=
  let name := Text.trimmed name
  let value := String.ofList (Text.trimmed value)
  if Name.isName name then
    match Decimal.readFloat? value with
    | some x => .ok ⟨String.ofList name, x⟩
    | none => .error (.notNumber value)
  else .error (.invalidName (String.ofList name))

/-- Reads an assignment. The name ends at the first equals sign. -/
def read (text : String) : Except Fault Assignment :=
  match text.toList.dropWhile (· ≠ '=') with
  | [] => .error (.noEquals text)
  | _ :: value => ofParts (text.toList.takeWhile (· ≠ '=')) value

end Assignment

end Reckoner
