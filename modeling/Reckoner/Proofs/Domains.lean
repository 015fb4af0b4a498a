import Reckoner.Proofs.Atoms
import Reckoner.Proofs.Operations
import Reckoner.Proofs.Registrations

/-! # The domains of the standard functions

The logarithms take numbers above zero, the square root takes numbers from zero on, and nothing is
divided by zero. A calculation that ends with a value has kept to these domains in every operation,
unless one of the three functions was called with what is not a number
(`Calculator.calculate_within_domains`): they refuse the numbers outside their domains
(`Restricted.function_of_refused`), and what is not a number is none of them. So `log(x)` has a
value where `x` is not a number (`Calculator.calculate_logarithm_of_nan`). -/

namespace Reckoner

/-! ## Comparing with zero -/

section Zero

open Float.Model

/-- Floats are compared by their unpacked values. -/
theorem le_iff_unpack (x y : Float) :
    x ≤ y ↔ x.toModel.unpack.le y.toModel.unpack = true := by
  show decide (x.toModel ≤ y.toModel) = true ↔ _
  rw [decide_eq_true_iff]
  rfl

/-- Floats are compared by their unpacked values. -/
theorem lt_iff_unpack (x y : Float) :
    x < y ↔ x.toModel.unpack.lt y.toModel.unpack = true := by
  show decide (x.toModel < y.toModel) = true ↔ _
  rw [decide_eq_true_iff]
  rfl

/-- A number is on one side of zero or the other, and what is not a number is on none. -/
theorem unpacked_zero_cases (x : UnpackedFloat) :
    (x.le (.zero .positive) = true ↔
      x.isNaN = false ∧ ¬ (UnpackedFloat.zero .positive).lt x = true) ∧
    (x.lt (.zero .positive) = true ↔
      x.isNaN = false ∧ ¬ (UnpackedFloat.zero .positive).le x = true) ∧
    (x.isNaN = true → ¬ (UnpackedFloat.zero .positive).lt x = true ∧
      ¬ (UnpackedFloat.zero .positive).le x = true) := by
  cases x with
  | infinity sign => cases sign <;> decide
  | notANumber => decide
  | zero sign => cases sign <;> decide
  | finite sign mantissa exponent => cases sign <;> exact of_decide_eq_true rfl

/-- A float is at most zero when it is a number that is not above zero. -/
theorem le_zero_iff (x : Float) : x ≤ 0.0 ↔ x.isNaN = false ∧ ¬ 0.0 < x := by
  rw [le_iff_unpack, lt_iff_unpack]
  exact (unpacked_zero_cases x.toModel.unpack).1

/-- A float is below zero when it is a number that is not at least zero. -/
theorem lt_zero_iff (x : Float) : x < 0.0 ↔ x.isNaN = false ∧ ¬ 0.0 ≤ x := by
  rw [le_iff_unpack, lt_iff_unpack]
  exact (unpacked_zero_cases x.toModel.unpack).2.1

/-- What is not a number is neither above zero nor at least zero. -/
theorem not_zero_le_of_isNaN {x : Float} (nan : x.isNaN = true) : ¬ 0.0 < x ∧ ¬ 0.0 ≤ x := by
  rw [le_iff_unpack, lt_iff_unpack]
  exact (unpacked_zero_cases x.toModel.unpack).2.2 nan

end Zero

/-- A division that has a value is not by a zero of either sign. -/
theorem Op.ne_zero_of_apply_divide {position : Nat} {left right w : Float}
    (applied : Op.apply .divide position left right = .ok w) : right ≠ 0.0 ∧ right ≠ -0.0 := by
  have other : (right == 0.0) = false := by
    rw [Op.apply] at applied
    cases zero : right == 0.0 with
    | false => rfl
    | true =>
      rw [zero] at applied
      cases applied
  constructor
  · rintro rfl
    exact absurd other (by decide +kernel)
  · rintro rfl
    exact absurd other (by decide +kernel)

/-! ## Functions that refuse arguments -/

/-- The standard functions that do not take every argument. -/
inductive Restricted
  /-- The natural logarithm. -/
  | log
  /-- The decimal logarithm. -/
  | log10
  /-- The square root. -/
  | sqrt

namespace Restricted

/-- The name in the table of the standard functions. -/
def name : Restricted → String
  | .log => "log"
  | .log10 => "log10"
  | .sqrt => "sqrt"

/-- The argument is in the domain of the function. -/
def Admits : Restricted → Float → Prop
  | .log, x => 0.0 < x
  | .log10, x => 0.0 < x
  | .sqrt, x => 0.0 ≤ x

/-- What a refusal says. -/
def refusal : Restricted → String
  | .log => "logarithm of a non-positive number"
  | .log10 => "logarithm of a non-positive number"
  | .sqrt => "square root of a negative number"

/-- The value at an argument that is not refused. -/
def value : Restricted → Float → Float
  | .log, x => x.log
  | .log10, x => x.log10
  | .sqrt, x => x.sqrt

/-- The function with its refusals. -/
def function : Restricted → Float → Except CallFailure Float
  | .log => StandardFunctions.logarithm Float.log
  | .log10 => StandardFunctions.logarithm Float.log10
  | .sqrt => StandardFunctions.squareRoot

/-- The functions are standard functions. -/
theorem mem_list (r : Restricted) :
    (r.name, Routine.unary r.function) ∈ StandardFunctions.list := by
  cases r <;> simp [StandardFunctions.list, name, function]

/-- What is not a number is in no domain. -/
theorem not_admits_of_isNaN {r : Restricted} {x : Float} (nan : x.isNaN = true) : ¬ r.Admits x := by
  obtain ⟨low, least⟩ := not_zero_le_of_isNaN nan
  cases r with
  | log => exact low
  | log10 => exact low
  | sqrt => exact least

/-- **A number outside the domain is refused.** -/
theorem function_of_refused {r : Restricted} {x : Float} (outside : ¬ r.Admits x)
    (number : x.isNaN = false) : r.function x = .error (.outsideDomain r.refusal) := by
  cases r with
  | log => exact if_pos ((le_zero_iff x).2 ⟨number, outside⟩)
  | log10 => exact if_pos ((le_zero_iff x).2 ⟨number, outside⟩)
  | sqrt => exact if_pos ((lt_zero_iff x).2 ⟨number, outside⟩)

/-- Everything else has a value, also what is not a number. -/
theorem function_of_not_refused {r : Restricted} {x : Float}
    (admitted : r.Admits x ∨ x.isNaN = true) : r.function x = .ok (r.value x) := by
  have unrefused (outside : x.isNaN = false ∧ ¬ r.Admits x) : False := by
    rcases admitted with inside | nan
    · exact outside.2 inside
    · exact Bool.eq_false_iff.1 outside.1 nan
  cases r with
  | log => exact if_neg fun low => unrefused ((le_zero_iff x).1 low)
  | log10 => exact if_neg fun low => unrefused ((le_zero_iff x).1 low)
  | sqrt => exact if_neg fun low => unrefused ((lt_zero_iff x).1 low)

end Restricted

/-! ## Calculators with the standard functions -/

/-- A function of one argument is called with it. -/
@[simp] theorem Routine.unary_singleton (function : Float → Except CallFailure Float) (x : Float) :
    Routine.unary function [x] = function x := rfl

/-- A function of one argument refuses any other number of them. -/
theorem Routine.unary_of_ne {arguments : List Float} (other : arguments.length ≠ 1)
    (function : Float → Except CallFailure Float) :
    Routine.unary function arguments = .error (.wrongArity 1 arguments.length) := by
  rw [unary, takeArguments_of_ne other]
  rfl

/-- The standard functions have different names. -/
theorem standard_nodup : (StandardFunctions.list.map Prod.fst).Nodup := by decide

variable {σ : Type}

namespace FunctionTable

variable {registered name : String} {function : List Float → Except CallFailure Float}

/-- Every standard function is the last one under its name in any case. -/
theorem isLast_standard (listed : (registered, function) ∈ StandardFunctions.list)
    (same : Text.lowerCase name = registered) :
    IsLast (Origin.standard.entries : List (String × Routine σ)) name (.ofFunction function) := by
  have lower {entry : String × (List Float → Except CallFailure Float)}
      (member : entry ∈ StandardFunctions.list) : Text.lowerCase entry.1 = entry.1 :=
    standard_lowerCase entry.1 (List.mem_map.2 ⟨entry, member, rfl⟩)
  let routine (entry : String × (List Float → Except CallFailure Float)) : String × Routine σ :=
    (entry.1, .ofFunction entry.2)
  obtain ⟨before, after, split⟩ := List.append_of_mem listed
  refine ⟨before.map routine, routine (registered, function), after.map routine, ?_, rfl, ?_, ?_⟩
  · rw [Origin.entries, split, List.map_append, List.map_cons]
  · exact (lower listed).trans same.symm
  · intro later member
    obtain ⟨entry, isLater, rfl⟩ := List.mem_map.1 member
    have nodup := standard_nodup
    rw [split, List.map_append, List.map_cons, List.nodup_append, List.nodup_cons] at nodup
    show Text.lowerCase entry.1 ≠ Text.lowerCase name
    rw [lower (by rw [split]; simp [isLater]), same]
    rintro rfl
    exact nodup.2.1.1 (List.mem_map.2 ⟨entry, isLater, rfl⟩)

/-- Every standard function is found under its name in any case. -/
theorem find?_standard (listed : (registered, function) ∈ StandardFunctions.list)
    (same : Text.lowerCase name = registered) :
    (standard : FunctionTable σ).find? name = some (.ofFunction function) := by
  have built : (standard : FunctionTable σ) = empty.registerAll Origin.standard.entries :=
    Origin.table_eq .standard
  rw [built]
  exact find?_registerAll_of_isLast (isLast_standard listed same)

end FunctionTable

/-! ## Operations within the domains -/

namespace Descent.Operation

/-- The operation keeps to the domains: it divides by no zero, and it calls a function with one
argument from its domain. -/
def InDomain : Operation → Prop
  | .join op _ _ right => op = .divide → right ≠ 0.0 ∧ right ≠ -0.0
  | .call name arguments => ∀ r : Restricted, Text.lowerCase name.text = r.name →
      ∃ x, arguments = [x] ∧ r.Admits x

/-- A function that does not take every argument is called with what is not a number. -/
def PassesNaN : Operation → Prop
  | .join _ _ _ _ => False
  | .call name arguments => ∃ r : Restricted, Text.lowerCase name.text = r.name ∧
      ∃ x, arguments = [x] ∧ x.isNaN = true

end Descent.Operation

namespace Calculator

open Descent (Operation)

variable {calculator : Calculator σ} {text : String} {bindings : Bindings} {memory : σ}
  {operation : Operation}

/-- The calculator has the standard functions under their names, whatever else it has. -/
def HasStandard (calculator : Calculator σ) : Prop :=
  ∀ name, (FunctionTable.standard : FunctionTable σ).has name = true →
    calculator.functions.find? name = FunctionTable.standard.find? name

/-- The standard functions stay when a function is registered under another name. -/
theorem HasStandard.register (standard : calculator.HasStandard) {name : String}
    (other : (FunctionTable.standard : FunctionTable σ).has name = false) (routine : Routine σ) :
    (calculator.register name routine).HasStandard := by
  intro called known
  rw [Calculator.register, FunctionTable.find?_register, if_neg, standard called known]
  intro same
  rw [FunctionTable.has, same] at other
  exact absurd (known.symm.trans other) (by decide)

/-- The operation is performed in calculating the expression. -/
def Performs (calculator : Calculator σ) (text : String) (bindings : Bindings) (memory : σ)
    (operation : Operation) : Prop :=
  ∃ tokens, calculator.tokens text = .ok tokens ∧
    Descent.Performs maxLevels ⟨calculator.functions, bindings⟩ tokens memory operation

/-- An operation that fails is what the calculation ends with. -/
theorem Performs.fails (performs : calculator.Performs text bindings memory operation)
    {d : Diagnostic}
    (failed : ∀ memory, (operation.result ⟨calculator.functions, bindings⟩ memory).1 = .error d) :
    ((calculator.calculate text bindings).run.run memory).1 = .error d := by
  obtain ⟨tokens, scanned, performs⟩ := performs
  rw [calculate_of_tokens scanned, ← Descent.evaluate_eq_evaluateWithin]
  exact performs.fails failed

/-- Where there is a value, every operation has had one. -/
theorem Performs.succeeds (performs : calculator.Performs text bindings memory operation)
    {v : Float} (valued : ((calculator.calculate text bindings).run.run memory).1 = .ok v) :
    ∃ between w,
      (operation.result ⟨calculator.functions, bindings⟩ between).1 = .ok w := by
  obtain ⟨tokens, scanned, performs⟩ := performs
  rw [calculate_of_tokens scanned, ← Descent.evaluate_eq_evaluateWithin] at valued
  exact performs.succeeds valued

/-- What a calculation fails with because of values is the failure of an operation. -/
theorem exists_performs_of_error {d : Diagnostic} (values : Descent.OfValues d)
    (failed : ((calculator.calculate text bindings).run.run memory).1 = .error d) :
    ∃ operation between, calculator.Performs text bindings memory operation ∧
      (operation.result ⟨calculator.functions, bindings⟩ between).1 = .error d := by
  cases scanned : calculator.tokens text with
  | error d' =>
    rw [calculate_of_error scanned] at failed
    cases failed
    -- a fault of scanning is in the characters
    rcases Token.scan_eq_error scanned with ⟨c, problem, _⟩ | ⟨problem, _⟩
    · simp [Descent.OfValues, problem] at values
    · simp [Descent.OfValues, problem] at values
  | ok tokens =>
    rw [calculate_of_tokens scanned, ← Descent.evaluate_eq_evaluateWithin] at failed
    obtain ⟨operation, between, performs, result⟩ := Descent.exists_performs_of_error values failed
    exact ⟨operation, between, ⟨tokens, scanned, performs⟩, result⟩

/-- A restricted function is called as it is, and its failures are placed. -/
theorem HasStandard.result_call (standard : calculator.HasStandard) {r : Restricted} (name : Token)
    (same : Text.lowerCase name.text = r.name) (arguments : List Float) (memory : σ) :
    (Operation.result ⟨calculator.functions, bindings⟩ memory (.call name arguments)).1 =
      (Routine.unary r.function arguments).mapError fun cause =>
        ⟨.failedCall name.text cause, name.position⟩ := by
  have listed := FunctionTable.find?_standard (σ := σ) r.mem_list same
  have known : (FunctionTable.standard : FunctionTable σ).has name.text = true := by
    rw [FunctionTable.has_eq_isSome, listed]
    rfl
  rw [Operation.result, Scope.call,
    FunctionTable.invoke_of_find? ((standard name.text known).trans listed)]
  rfl

/-- Where there is a value, the operations have kept to the domains, but for what is not a number.
-/
theorem Performs.inDomain_iff (standard : calculator.HasStandard)
    (performs : calculator.Performs text bindings memory operation) {v : Float}
    (valued : ((calculator.calculate text bindings).run.run memory).1 = .ok v) :
    operation.InDomain ↔ ¬ operation.PassesNaN := by
  obtain ⟨between, w, succeeded⟩ := performs.succeeds valued
  cases operation with
  | join op position left right =>
    refine iff_of_true (fun divides => ?_) id
    subst divides
    exact Op.ne_zero_of_apply_divide succeeded
  | call name arguments =>
    constructor
    · rintro inside ⟨r, same, x, rfl, nan⟩
      obtain ⟨y, equal, admits⟩ := inside r same
      cases equal
      exact Restricted.not_admits_of_isNaN nan admits
    · intro numbers r same
      rw [standard.result_call name same] at succeeded
      -- an argument that is missing, one too many or refused would have been a failure
      by_cases count : arguments.length = 1
      · obtain ⟨x, rfl⟩ := List.length_eq_one_iff.1 count
        refine ⟨x, rfl, ?_⟩
        by_contra outside
        have number : x.isNaN = false :=
          Bool.eq_false_iff.2 fun nan => numbers ⟨r, same, x, rfl, nan⟩
        rw [Routine.unary_singleton, Restricted.function_of_refused outside number] at succeeded
        cases succeeded
      · rw [Routine.unary_of_ne count] at succeeded
        cases succeeded

/-- **Where there is a value, the domains have been kept to, except for what is not a number.** In
a calculation that ends with a value no division was by zero, and the logarithms and the square root
were called with one argument from their domain or with what is not a number; a call with the latter
has a value. A call with a number outside the domain is what the calculation fails with, and so is a
call with another number of arguments, which tells how many are written. No division and no call is
missed: where the calculation fails by one of them, that one has been performed. -/
theorem calculate_within_domains (standard : calculator.HasStandard) (text : String)
    (bindings : Bindings) (memory : σ) :
    (∀ v, ((calculator.calculate text bindings).run.run memory).1 = .ok v →
      ∀ operation, calculator.Performs text bindings memory operation →
        (operation.InDomain ↔ ¬ operation.PassesNaN)) ∧
    (∀ (r : Restricted) name x, calculator.Performs text bindings memory (.call name [x]) →
      Text.lowerCase name.text = r.name → ¬ r.Admits x → x.isNaN = false →
      ((calculator.calculate text bindings).run.run memory).1 =
        .error ⟨.failedCall name.text (.outsideDomain r.refusal), name.position⟩) ∧
    (∀ (r : Restricted) name x, calculator.Performs text bindings memory (.call name [x]) →
      Text.lowerCase name.text = r.name → x.isNaN = true → ∀ between,
      (Operation.result ⟨calculator.functions, bindings⟩ between (.call name [x])).1 =
        .ok (r.value x)) ∧
    (∀ (r : Restricted) name arguments,
      calculator.Performs text bindings memory (.call name arguments) →
      Text.lowerCase name.text = r.name → arguments.length ≠ 1 →
      ∃ before written after es,
        calculator.tokens text = .ok (before ++ (name :: written) ++ after) ∧
        Derives .call (name :: written) (.call name.text name.position es) ∧
        ((calculator.calculate text bindings).run.run memory).1 =
          .error ⟨.failedCall name.text (.wrongArity 1 es.length), name.position⟩) ∧
    (∀ d, Descent.OfValues d →
      ((calculator.calculate text bindings).run.run memory).1 = .error d →
      ∃ operation between, calculator.Performs text bindings memory operation ∧
        (operation.result ⟨calculator.functions, bindings⟩ between).1 = .error d) := by
  refine ⟨fun v valued operation performs => performs.inDomain_iff standard valued,
    fun r name x performs same outside number => ?_, fun r name x _ same nan between => ?_,
    fun r name arguments performs same count => ?_,
    fun d values failed => exists_performs_of_error values failed⟩
  · refine performs.fails fun memory => ?_
    rw [standard.result_call name same, Routine.unary_singleton,
      Restricted.function_of_refused outside number]
    rfl
  · rw [standard.result_call name same, Routine.unary_singleton,
      Restricted.function_of_not_refused (.inr nan)]
    rfl
  · have failed := performs.fails fun memory => by
      rw [standard.result_call name same, Routine.unary_of_ne count]
      rfl
    obtain ⟨tokens, scanned, performs⟩ := performs
    cases performs.writtenIn with
    | @call before _ written after es _ whole derives length =>
      refine ⟨before, written, after, es, by rw [scanned, whole], derives, ?_⟩
      rw [failed, length]

/-- The tokens of `log(x)`. -/
theorem tokens_logarithm : (standard : Calculator Unit).tokens "log(x)" = .ok
    [⟨.function, "log", 0⟩, ⟨.leftParen, "(", 3⟩, ⟨.variable, "x", 4⟩, ⟨.rightParen, ")", 5⟩,
      .finish 6] := by
  decide +kernel

/-- In `log(x)` the function is called with the value of the variable. -/
theorem performs_logarithm (x : Float) :
    (standard : Calculator Unit).Performs "log(x)" ((∅ : Bindings).insert "x" x) ()
      (.call ⟨.function, "log", 0⟩ [x]) := by
  have bound : ((∅ : Bindings).insert "x" x)["x"]? = some x := by simp
  have room : 1 < (maxLevels : ℕ∞) := Nat.cast_lt.2 (by decide : 1 < maxLevels)
  exact ⟨_, tokens_logarithm, Descent.performs_call_variable rfl rfl rfl rfl bound room _ ()⟩

/-- The logarithm of zero is refused. -/
theorem calculate_within_domains_zero :
    (standard : Calculator Unit).HasStandard ∧
    (standard : Calculator Unit).Performs "log(x)" ((∅ : Bindings).insert "x" 0.0) ()
      (.call ⟨.function, "log", 0⟩ [0.0]) ∧
    Text.lowerCase "log" = Restricted.log.name ∧ ¬ Restricted.log.Admits 0.0 ∧
    (0.0 : Float).isNaN = false ∧
    (((standard : Calculator Unit).calculate "log(x)" ((∅ : Bindings).insert "x" 0.0)).run.run
      ()).1 = .error
        ⟨.failedCall "log" (.outsideDomain "logarithm of a non-positive number"), 0⟩ := by
  have known : (standard : Calculator Unit).HasStandard := fun _ _ => rfl
  have performs := performs_logarithm 0.0
  have same : Text.lowerCase "log" = Restricted.log.name := by decide +kernel
  have outside : ¬ Restricted.log.Admits 0.0 := by
    show ¬ (0.0 : Float) < 0.0
    decide +kernel
  have number : (0.0 : Float).isNaN = false := by decide +kernel
  exact ⟨known, performs, same, outside, number,
    (calculate_within_domains known "log(x)" _ ()).2.1 .log _ 0.0 performs same outside number⟩

/-- What is not a number is not above zero, and its logarithm is calculated all the same. -/
theorem calculate_logarithm_of_nan :
    (standard : Calculator Unit).Performs "log(x)" ((∅ : Bindings).insert "x" (0.0 / 0.0)) ()
      (.call ⟨.function, "log", 0⟩ [0.0 / 0.0]) ∧
    ¬ (0.0 : Float) < 0.0 / 0.0 ∧
    ∃ v, (((standard : Calculator Unit).calculate "log(x)"
      ((∅ : Bindings).insert "x" (0.0 / 0.0))).run.run ()).1 = .ok v := by
  have nan : (0.0 / 0.0 : Float).isNaN = true := by decide +kernel
  have bound : ((∅ : Bindings).insert "x" (0.0 / 0.0 : Float))["x"]? = some (0.0 / 0.0) := by simp
  have room : 1 < (maxLevels : ℕ∞) := Nat.cast_lt.2 (by decide : 1 < maxLevels)
  refine ⟨performs_logarithm (0.0 / 0.0), (not_zero_le_of_isNaN nan).1,
    Restricted.log.value (0.0 / 0.0), ?_⟩
  have known : (standard : Calculator Unit).HasStandard := fun _ _ => rfl
  have same : Text.lowerCase "log" = Restricted.log.name := by decide +kernel
  have called : (Descent.Operation.result ⟨(standard : Calculator Unit).functions,
      (∅ : Bindings).insert "x" (0.0 / 0.0)⟩ () (.call ⟨.function, "log", 0⟩ [0.0 / 0.0])).1 =
      .ok (Restricted.log.value (0.0 / 0.0)) := by
    rw [known.result_call ⟨.function, "log", 0⟩ same, Routine.unary_singleton,
      Restricted.function_of_not_refused (.inr nan)]
    rfl
  rw [calculate_of_tokens tokens_logarithm, ← Descent.evaluate_eq_evaluateWithin,
    Descent.evaluate_call_variable rfl rfl rfl rfl bound room rfl (Prod.ext called rfl)]

end Calculator

end Reckoner
