import Std.Data.TreeSet
import Reckoner.Evaluation
import Reckoner.StandardFunctions
import Reckoner.Text.Quoted
import Reckoner.Token.Scan

/-! # Calculators

A calculator knows functions. It splits an expression into tokens, names the variables of an
expression, and evaluates an expression when given values for its variables. -/

namespace Reckoner

/-- A calculator. -/
structure Calculator (σ : Type) where
  functions : FunctionTable σ

namespace Calculator

variable {σ : Type}

/-- The calculator of the standard functions. -/
def standard : Calculator σ := ⟨.standard⟩

/-- The tokens of an expression. -/
def tokens (calculator : Calculator σ) (expression : String) : Except Diagnostic (List Token) :=
  Token.scan calculator.functions.has expression

/-- The value of tokens when variables have the given values. -/
def evaluate (calculator : Calculator σ) (tokens : List Token) (bindings : Bindings) :
    Evaluation σ Float :=
  Reckoner.evaluate ⟨calculator.functions, bindings⟩ tokens

/-- The value of an expression when variables have the given values. -/
def calculate (calculator : Calculator σ) (expression : String) (bindings : Bindings) :
    Evaluation σ Float := do
  let tokens ← ofExcept (calculator.tokens expression)
  calculator.evaluate tokens bindings

/-- The texts of the variables among tokens, in ascending order and each once. -/
def variablesOf (tokens : List Token) : List String :=
  (Std.TreeSet.ofList ((tokens.filter (·.kind = .variable)).map (·.text))).toList

/-- The names of the variables of an expression, in ascending order and each once. -/
def variableNames (calculator : Calculator σ) (expression : String) :
    Except Diagnostic (List String) :=
  (calculator.tokens expression).map variablesOf

/-- The calculator with one more function. -/
def register (calculator : Calculator σ) (name : String) (routine : Routine σ) : Calculator σ :=
  ⟨calculator.functions.register name routine⟩

/-- A description of a calculator that lists its functions. -/
def describe (calculator : Calculator σ) : String :=
  let names := ", ".intercalate (calculator.functions.names.map Text.quote)
  "Calculator \x7b registry: FunctionRegistry \x7b functions: [" ++ names ++ "] \x7d \x7d"

/-- Exactly the texts of variable tokens are listed. -/
theorem mem_variablesOf {tokens : List Token} {name : String} :
    name ∈ variablesOf tokens ↔ ∃ token ∈ tokens, token.kind = .variable ∧ token.text = name := by
  simp [variablesOf, Std.TreeSet.mem_toList, Std.TreeSet.mem_ofList, and_assoc]

/-- The names of variables are listed in strictly ascending order. -/
theorem variablesOf_ascending (tokens : List Token) :
    (variablesOf tokens).Pairwise fun low high => compare low high = .lt :=
  Std.TreeSet.ordered_toList

end Calculator

end Reckoner
