import Reckoner.Bindings
import Reckoner.Decimal.Parser
import Reckoner.Expr
import Reckoner.FunctionTable
import Reckoner.Power

/-! # The value of an expression

An expression is evaluated from left to right, operands and arguments before what is done with them.
The first failure ends the evaluation: a number that spells no float, a variable without a value, a
division by zero or a failed call. What the calls before it wrote into the memory stays. -/

namespace Reckoner

/-- What the names of an expression stand for. -/
structure Scope (σ : Type) where
  functions : FunctionTable σ
  bindings : Bindings

/-- A computation that calls functions with a memory `σ` and can end with a diagnostic. -/
abbrev Evaluation (σ : Type) := ExceptT Diagnostic (StateM σ)

/-- The result of an operator at a position. -/
def Op.apply (op : Op) (position : Nat) (left right : Float) : Except Diagnostic Float :=
  match op with
  | .plus => .ok (left + right)
  | .minus => .ok (left - right)
  | .times => .ok (left * right)
  | .divide => if right == 0.0 then .error ⟨.divisionByZero, position⟩ else .ok (left / right)
  | .power => .ok (Power.pow left right)

/-- A number with a sign. -/
def Sign.apply : Sign → Float → Float
  | .plus, x => x
  | .minus, x => -x

namespace Scope

variable {σ : Type}

/-- The value of a written number. -/
def literal (text : String) (position : Nat) : Except Diagnostic Float :=
  match Decimal.readFloat? text with
  | some value => .ok value
  | none => .error ⟨.malformedNumber, position⟩

/-- The value of a variable. -/
def lookup (scope : Scope σ) (name : String) (position : Nat) : Except Diagnostic Float :=
  match scope.bindings[name]? with
  | some value => .ok value
  | none => .error ⟨.unknownVariable name, position⟩

/-- The value of a call. -/
def call (scope : Scope σ) (name : String) (position : Nat) (arguments : List Float) :
    Evaluation σ Float :=
  (scope.functions.invoke name arguments).adapt fun cause => ⟨.failedCall name cause, position⟩

end Scope

namespace Expr

variable {σ : Type}

mutual

/-- The value of an expression. -/
def value (scope : Scope σ) : Expr → Evaluation σ Float
  | .literal text position => ofExcept (Scope.literal text position)
  | .variable name position => ofExcept (scope.lookup name position)
  | .call name position arguments => do
    let values ← values scope arguments
    scope.call name position values
  | .grouped _ inner => value scope inner
  | .signed sign _ operand => do
    let operand ← value scope operand
    return sign.apply operand
  | .binary op position left right => do
    let left ← value scope left
    let right ← value scope right
    ofExcept (op.apply position left right)

/-- The values of expressions, from left to right. -/
def values (scope : Scope σ) : List Expr → Evaluation σ (List Float)
  | [] => return []
  | e :: es => do
    let v ← value scope e
    let vs ← values scope es
    return v :: vs

end

end Expr

end Reckoner
