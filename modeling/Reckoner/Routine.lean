import Reckoner.Diagnostic

/-! # Routines

A routine is what a call of a function runs. It is given the values of the arguments and gives a
value or says why there is none; it may also read and change a memory `σ`, such as a journal of the
calls, and what it changed stays when it fails. -/

namespace Reckoner

/-- What a call runs: argument values and a memory give a value or a failure, and a memory. -/
abbrev Routine (σ : Type) := List Float → ExceptT CallFailure (StateM σ) Float

/-- The argument values, when there are as many as a function takes. -/
def takeArguments (count : Nat) (arguments : List Float) :
    Except CallFailure (Vector Float count) :=
  if h : arguments.length = count then .ok ⟨arguments.toArray, by simpa using h⟩
  else .error (.wrongArity count arguments.length)

/-- Any other number of arguments is a failure that tells both numbers. -/
theorem takeArguments_of_ne {count : Nat} {arguments : List Float}
    (h : arguments.length ≠ count) :
    takeArguments count arguments = .error (.wrongArity count arguments.length) := by
  simp [takeArguments, h]

namespace Routine

variable {σ : Type}

/-- The routine of a function that uses no memory. -/
def ofFunction (function : List Float → Except CallFailure Float) : Routine σ :=
  fun arguments memory => (function arguments, memory)

@[simp] theorem ofFunction_apply (function : List Float → Except CallFailure Float)
    (arguments : List Float) (memory : σ) :
    (ofFunction function arguments).run memory = (function arguments, memory) := rfl

/-- A function of one argument. -/
def unary (function : Float → Except CallFailure Float) (arguments : List Float) :
    Except CallFailure Float := do
  let values ← takeArguments 1 arguments
  function values[0]

/-- A function of two arguments. -/
def binary (function : Float → Float → Except CallFailure Float) (arguments : List Float) :
    Except CallFailure Float := do
  let values ← takeArguments 2 arguments
  function values[0] values[1]

/-! ## Ready-made routines

Simple routines to put into a function table. -/

/-- The sum of any number of arguments, added from the left onto zero. -/
def sum : Routine σ := ofFunction fun arguments => .ok (arguments.foldl (· + ·) 0.0)

/-- The number of arguments. -/
def count : Routine σ := ofFunction fun arguments => .ok (Float.ofNat arguments.length)

/-- One value, whatever the arguments. -/
def constant (value : Float) : Routine σ := ofFunction fun _ => .ok value

/-- A fixed multiple of one argument. -/
def scale (factor : Float) : Routine σ := ofFunction (unary fun x => .ok (factor * x))

/-- The difference of two arguments. -/
def difference : Routine σ := ofFunction (binary fun a b => .ok (a - b))

/-- The product of two arguments plus a third, rounded after each step. -/
def multiplyAdd : Routine σ := ofFunction fun arguments => do
  let values ← takeArguments 3 arguments
  return values[0] * values[1] + values[2]

/-- Zero, without arguments. -/
def zero : Routine σ := ofFunction fun arguments => do
  let _ ← takeArguments 0 arguments
  return 0.0

/-- Always the same failure. -/
def failing (cause : CallFailure) : Routine σ := ofFunction fun _ => .error cause

/-- Its one argument, which it also writes into the memory. -/
def recording (write : Float → σ → σ) : Routine σ := fun arguments memory =>
  match unary .ok arguments with
  | .ok value => (.ok value, write value memory)
  | .error cause => (.error cause, memory)

end Routine

end Reckoner
