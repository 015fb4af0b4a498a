import Reckoner.Proofs.Atoms
import Reckoner.Proofs.Lockstep

/-! # Giving variables other values

The names that an expression lists as its variables are all that its value can depend on: two
calculations of it do the same when the bindings agree on these names (`calculate_eq_of_agree`),
whatever else is bound. The list is made without reading the expression, so this holds also where
the expression is wrong somewhere. Binding more variables changes nothing but the report of a
variable that is bound now (`evaluate_of_includes`): the variables after a failure are not asked
for. -/

namespace Reckoner

namespace Calculator

variable {σ : Type} {calculator : Calculator σ} {text : String} {names : List String}
  {bindings bindings' : Bindings}

/-- A variable among the tokens of an expression is listed. -/
theorem mem_names {tokens : List Token} (scanned : calculator.tokens text = .ok tokens)
    (listed : calculator.variableNames text = .ok names) {token : Token} (member : token ∈ tokens)
    (kind : token.kind = .variable) : token.text ∈ names := by
  rw [variableNames, scanned] at listed
  cases listed
  exact mem_variablesOf.2 ⟨token, member, kind, rfl⟩

/-- Bindings that agree on the listed names agree on all tokens. -/
theorem agreeOn_of_names {tokens : List Token} (scanned : calculator.tokens text = .ok tokens)
    (listed : calculator.variableNames text = .ok names)
    (agree : ∀ name ∈ names, bindings[name]? = bindings'[name]?) :
    ∀ token ∈ tokens, Scope.AgreeOn ⟨calculator.functions, bindings⟩
      ⟨calculator.functions, bindings'⟩ token := by
  intro token member
  constructor
  · intro kind
    exact agree token.text (mem_names scanned listed member kind)
  · intro _
    rfl

/-- Calculations do the same when the bindings agree on the listed names, if any are listed. -/
theorem calculate_congr
    (agree : ∀ names, calculator.variableNames text = .ok names →
      ∀ name ∈ names, bindings[name]? = bindings'[name]?) :
    calculator.calculate text bindings = calculator.calculate text bindings' := by
  cases scanned : calculator.tokens text with
  | error d => rw [calculate_of_error scanned, calculate_of_error scanned]
  | ok tokens =>
    have listed : calculator.variableNames text = .ok (variablesOf tokens) := by
      rw [variableNames, scanned]
      rfl
    rw [calculate_of_tokens scanned, calculate_of_tokens scanned]
    exact evaluateWithin_congr maxLevels (agreeOn_of_names scanned listed (agree _ listed))

/-- **A calculation depends on its bindings only for the variables that the expression lists.**
Where the bindings agree on them, both having a value of each or both having none, the calculations
are the same: value, diagnostic, position and calls of functions. Where no variables are listed
because the expression cannot be split into tokens, every calculation of it ends with the same
diagnostic. -/
theorem calculate_eq_of_agree (calculator : Calculator σ) (text : String) :
    (∀ names, calculator.variableNames text = .ok names →
      ∀ bindings bindings' : Bindings, (∀ name ∈ names, bindings[name]? = bindings'[name]?) →
        calculator.calculate text bindings = calculator.calculate text bindings') ∧
      ∀ d, calculator.variableNames text = .error d →
        ∀ bindings, calculator.calculate text bindings = throw d := by
  refine ⟨fun names listed bindings bindings' agree => calculate_congr fun names' listed' => ?_,
    fun d failed bindings => ?_⟩
  · rw [listed] at listed'
    cases listed'
    exact agree
  · cases scanned : calculator.tokens text with
    | error d' =>
      rw [variableNames, scanned] at failed
      cases failed
      exact calculate_of_error scanned
    | ok tokens =>
      rw [variableNames, scanned] at failed
      cases failed

end Calculator

/-! ## Binding more variables -/

/-- Every value of the other bindings is one of the first. -/
def Bindings.Includes (more bindings : Bindings) : Prop :=
  ∀ (name : String) (v : Float), bindings[name]? = some v → more[name]? = some v

namespace Scope

variable {σ : Type} {bindings more : Bindings}

/-- The comparison of tokens with themselves under more bindings. Where a variable is reported that
only these bind, the evaluation under them may go on. -/
def inclusion (more : Bindings) : Descent.Comparison where
  token token token' := token' = token
  left rest rest' := rest' = rest
  fault d d' := d' = d
  excused d := ∃ name, d.problem = .unknownVariable name ∧ name ∈ more

/-- A variable has the same value or none under more bindings, unless only these bind it. -/
theorem lookup_of_includes (functions : FunctionTable σ) (includes : more.Includes bindings)
    (name : String) (position : Nat) (memory : σ) :
    (inclusion more).Results ((⟨functions, bindings⟩ : Scope σ).lookup name position, memory)
      ((⟨functions, more⟩ : Scope σ).lookup name position, memory) := by
  cases found : bindings[name]? with
  | some v =>
    have same : bindings[name]? = more[name]? := by rw [found, includes name v found]
    have lookups := @lookup_congr σ ⟨functions, bindings⟩ ⟨functions, more⟩ name same position
    rw [lookups]
    exact .refl fun _ _ => rfl
  | none =>
    have unknown : (⟨functions, bindings⟩ : Scope σ).lookup name position =
        .error ⟨.unknownVariable name, position⟩ := by rw [lookup, found]
    by_cases bound : name ∈ more
    · have excuse : (inclusion more).excused ⟨.unknownVariable name, position⟩ :=
        ⟨name, rfl, bound⟩
      rw [unknown]
      exact .excused memory excuse _
    · -- neither binds it, and both report it
      have missing : more[name]? = none := Std.TreeMap.getElem?_eq_none bound
      rw [unknown, lookup, missing]
      exact .failure memory rfl

/-- Under more bindings tokens are evaluated in lockstep with themselves. -/
theorem inclusion_lockstep (functions : FunctionTable σ) (includes : more.Includes bindings) :
    Descent.Lockstep (inclusion more) (⟨functions, bindings⟩ : Scope σ) ⟨functions, more⟩ where
  current := by
    rintro rest _ rfl
    rfl
  tail := by
    rintro rest _ rfl _
    rfl
  kind := by
    rintro token _ rfl
    rfl
  op? := by
    rintro token _ rfl
    rfl
  literal := by
    rintro token _ rfl _ memory
    exact .refl fun _ _ => rfl
  lookup := by
    rintro _ token rfl _ memory
    exact lookup_of_includes functions includes token.text token.position memory
  call := by
    -- the functions are the same
    rintro token _ rfl _ arguments memory
    exact .refl fun _ _ => rfl
  fault := by
    rintro token _ rfl problem _
    rfl

end Scope

/-- **Binding more variables changes no outcome that did not wait for them.** A value stays the
value, and so does every diagnostic other than one about a variable; a variable that is reported is
reported still if it is not bound by the further bindings either. The calls that are made are the
same, with what they leave in the memory. -/
theorem evaluate_of_includes {σ : Type} (functions : FunctionTable σ) {bindings more : Bindings}
    (includes : more.Includes bindings) (tokens : List Token) (memory : σ) :
    (∀ v memory', (evaluate ⟨functions, bindings⟩ tokens).run.run memory = (.ok v, memory') →
      (evaluate ⟨functions, more⟩ tokens).run.run memory = (.ok v, memory')) ∧
    (∀ d memory', (evaluate ⟨functions, bindings⟩ tokens).run.run memory = (.error d, memory') →
      (∀ name, d.problem ≠ .unknownVariable name) →
      (evaluate ⟨functions, more⟩ tokens).run.run memory = (.error d, memory')) ∧
    ∀ name position memory',
      (evaluate ⟨functions, bindings⟩ tokens).run.run memory =
        (.error ⟨.unknownVariable name, position⟩, memory') →
      name ∉ more →
      (evaluate ⟨functions, more⟩ tokens).run.run memory =
        (.error ⟨.unknownVariable name, position⟩, memory') := by
  have results := (Scope.inclusion_lockstep functions includes).evaluateWithin maxLevels
    (rfl : (Scope.inclusion more).left tokens tokens) memory
  refine ⟨fun v memory' ran => ?_, fun d memory' ran other => ?_,
    fun name position memory' ran unbound => ?_⟩
  · rw [← evaluate, ran] at results
    exact results.of_value
  · have inexcusable : ¬ (Scope.inclusion more).excused d := by
      rintro ⟨name, problem, _⟩
      exact other name problem
    rw [← evaluate, ran] at results
    obtain ⟨d', same, rfl⟩ := results.of_failure inexcusable
    exact same
  · -- a variable that the further bindings do not bind either excuses nothing
    have inexcusable : ¬ (Scope.inclusion more).excused ⟨.unknownVariable name, position⟩ := by
      rintro ⟨name', problem, bound⟩
      cases problem
      exact unbound bound
    rw [← evaluate, ran] at results
    obtain ⟨d', same, rfl⟩ := results.of_failure inexcusable
    exact same

/-- In `f(x) + y`, where `f` fails, a value for `y` makes no difference. -/
theorem evaluate_of_includes_failing :
    let functions : FunctionTable Unit := .register .empty "f" (.failing (.wrongArity 2 1))
    let bindings : Bindings := Std.TreeMap.empty.insert "x" 0.0
    let tokens : List Token := [⟨.function, "f", 0⟩, ⟨.leftParen, "(", 1⟩, ⟨.variable, "x", 2⟩,
      ⟨.rightParen, ")", 3⟩, ⟨.operator, "+", 4⟩, ⟨.variable, "y", 5⟩, .finish 6]
    Bindings.Includes (bindings.insert "y" 1.0) bindings ∧
      (evaluate ⟨functions, bindings⟩ tokens).run.run () =
        (.error ⟨.failedCall "f" (.wrongArity 2 1), 0⟩, ()) ∧
      (evaluate ⟨functions, bindings.insert "y" 1.0⟩ tokens).run.run () =
        (.error ⟨.failedCall "f" (.wrongArity 2 1), 0⟩, ()) := by
  intro functions bindings tokens
  have includes : Bindings.Includes (bindings.insert "y" 1.0) bindings := by
    intro name v found
    have other : name ≠ "y" := by
      rintro rfl
      have none : bindings["y"]? = none := by simp [bindings]
      rw [none] at found
      cases found
    rwa [Std.TreeMap.getElem?_insert, if_neg (by simpa using other.symm)]
  have ran : (evaluate ⟨functions, bindings⟩ tokens).run.run () =
      (.error ⟨.failedCall "f" (.wrongArity 2 1), 0⟩, ()) := by
    with_unfolding_all rfl
  exact ⟨includes, ran, (evaluate_of_includes functions includes tokens ()).2.1 _ _ ran (by simp)⟩

end Reckoner
