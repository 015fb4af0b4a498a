import Reckoner.Expr.Reading
import Reckoner.Expr.Value

/-! # Evaluating tokens

The value of tokens that are one expression. Where they are not, the expressions that were complete
before the fault are evaluated first, so that of all failures the first one is reported. -/

namespace Reckoner

/-- How many operands may be open at a time: parentheses, arguments and signs nest no deeper. -/
def maxLevels : Nat := 256

variable {σ : Type}

/-- The value of tokens that are one expression of at most so many levels. -/
def evaluateWithin (levels : Nat) (scope : Scope σ) (tokens : List Token) : Evaluation σ Float :=
  match Expr.ofTokens levels tokens with
  | .ok e => e.value scope
  -- a failure in what stands before the fault comes first
  | .error fault => do
    let _ ← Expr.values scope fault.parts
    throw fault.diagnostic

/-- The value of tokens that are one expression. -/
def evaluate (scope : Scope σ) (tokens : List Token) : Evaluation σ Float :=
  evaluateWithin maxLevels scope tokens

end Reckoner
