import Reckoner.Token

/-! # Diagnostics

Why a call failed, and why an expression has no value and at which position. Each has a message in
one line. -/

namespace Reckoner

/-- Why a call of a function gave no value. -/
inductive CallFailure
  /-- No function has the name. -/
  | unknownFunction (name : String)
  /-- The function takes another number of arguments. -/
  | wrongArity (expected actual : Nat)
  /-- The function has no value at the arguments. -/
  | outsideDomain (message : String)
  deriving DecidableEq, Repr

/-- The message of a call failure. -/
def CallFailure.message : CallFailure → String
  | .unknownFunction name => s!"unknown function '{name}'"
  | .wrongArity expected actual => s!"expected {expected} argument(s), got {actual}"
  | .outsideDomain message => message

/-- What is wrong at a position of an expression. -/
inductive Problem
  /-- The character begins no token. -/
  | unknownCharacter (character : Char)
  /-- A number has no digits or a second point. -/
  | malformedNumber
  /-- The variable has no value. -/
  | unknownVariable (name : String)
  /-- A call failed. -/
  | failedCall (name : String) (cause : CallFailure)
  /-- The right operand of a division is zero. -/
  | divisionByZero
  /-- A closing parenthesis is missing. -/
  | missingRightParen
  /-- The expression ended before the token. -/
  | trailing (kind : Token.Kind)
  /-- An operand cannot begin with the token. -/
  | unexpected (kind : Token.Kind)
  /-- Parentheses, arguments and signs are nested too deeply. -/
  | nestedTooDeeply
  deriving DecidableEq, Repr

/-- Why an expression has no value, and where. -/
structure Diagnostic where
  problem : Problem
  position : Nat
  deriving DecidableEq, Repr

namespace Diagnostic

/-- The message of a diagnostic. -/
def message (diagnostic : Diagnostic) : String :=
  let position := diagnostic.position
  match diagnostic.problem with
  | .unknownCharacter character => s!"unknown character '{character}' at position {position}"
  | .malformedNumber => s!"malformed number at position {position}"
  | .unknownVariable name => s!"unknown variable '{name}' at position {position}"
  | .failedCall name cause =>
    s!"error in function '{name}' at position {position}: {cause.message}"
  | .divisionByZero => s!"division by zero at position {position}"
  | .missingRightParen => s!"expected ')' at position {position}"
  | .trailing kind =>
    s!"unexpected {kind.describe} after the end of the expression at position {position}"
  | .unexpected kind => s!"unexpected {kind.describe} at position {position}"
  | .nestedTooDeeply => s!"expression nested too deeply at position {position}"

/-- A diagnostic with its position replaced. -/
def mapPosition (f : Nat → Nat) (diagnostic : Diagnostic) : Diagnostic :=
  { diagnostic with position := f diagnostic.position }

end Diagnostic

end Reckoner
