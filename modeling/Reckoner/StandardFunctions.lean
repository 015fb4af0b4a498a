import Reckoner.FunctionTable
import Reckoner.Power

/-! # Standard functions

The ten functions that every expression can call unless the table says otherwise. Each first wants
its number of arguments; logarithms and the square root then refuse arguments outside their domains,
and take what is not a number as it is. -/

namespace Reckoner.StandardFunctions

/-- A logarithm, of positive numbers only. -/
def logarithm (log : Float → Float) (x : Float) : Except CallFailure Float :=
  if x ≤ 0.0 then .error (.outsideDomain "logarithm of a non-positive number") else .ok (log x)

/-- The square root, of numbers that are not negative only. -/
def squareRoot (x : Float) : Except CallFailure Float :=
  if x < 0.0 then .error (.outsideDomain "square root of a negative number") else .ok x.sqrt

/-- The greater of two numbers; where one is not a number, the other. -/
def greater (a b : Float) : Float :=
  if a.isNaN then b else if b.isNaN then a else if a < b then b else a

/-- The smaller of two numbers; where one is not a number, the other. -/
def smaller (a b : Float) : Float :=
  if a.isNaN then b else if b.isNaN then a else if b < a then b else a

/-- The standard functions under their names. -/
def list : List (String × (List Float → Except CallFailure Float)) :=
  [("abs", Routine.unary fun x => .ok x.abs),
    ("cos", Routine.unary fun x => .ok x.cos),
    ("log", Routine.unary (logarithm Float.log)),
    ("log10", Routine.unary (logarithm Float.log10)),
    ("max", Routine.binary fun a b => .ok (greater a b)),
    ("min", Routine.binary fun a b => .ok (smaller a b)),
    ("pow", Routine.binary fun a b => .ok (Power.pow a b)),
    ("sin", Routine.unary fun x => .ok x.sin),
    ("sqrt", Routine.unary squareRoot),
    ("tan", Routine.unary fun x => .ok x.tan)]

end Reckoner.StandardFunctions

namespace Reckoner

/-- The table of the standard functions. -/
def FunctionTable.standard {σ : Type} : FunctionTable σ :=
  .ofList (StandardFunctions.list.map fun (name, function) => (name, .ofFunction function))

end Reckoner
