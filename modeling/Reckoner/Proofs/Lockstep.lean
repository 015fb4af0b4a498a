import Reckoner.Proofs.DescentReading

/-! # Evaluations in lockstep

Two evaluations, of different tokens or in different scopes, are compared step by step. A
`Comparison` says which tokens are alike, which diagnostics, and which failures of the first
evaluation excuse the second one from going on alike. If alike tokens have alike meanings
(`Lockstep`), alike states are followed by alike states: the same procedure is entered or left, with
the same frames, the same numbers, the same depth and the same memory. So both evaluations end alike
(`Lockstep.evaluateWithin`). -/

namespace Reckoner

namespace Descent

variable {σ : Type}

/-- How two evaluations are compared. -/
structure Comparison where
  /-- The tokens that are alike. -/
  token : Token → Token → Prop
  /-- The tokens that have not been taken are alike. -/
  left : List Token → List Token → Prop
  /-- The diagnostics that are alike. -/
  fault : Diagnostic → Diagnostic → Prop
  /-- The failures of the first evaluation after which the second one may do anything. -/
  excused : Diagnostic → Prop

namespace Comparison

variable (comparison : Comparison)

/-- Two results with the memories after them are alike. -/
inductive Results : Except Diagnostic Float × σ → Except Diagnostic Float × σ → Prop
  | value (v : Float) (memory : σ) : Results (.ok v, memory) (.ok v, memory)
  | failure {d d' : Diagnostic} (memory : σ) (alike : comparison.fault d d') :
      Results (.error d, memory) (.error d', memory)
  | excused {d : Diagnostic} (memory : σ) (excuse : comparison.excused d)
      (other : Except Diagnostic Float × σ) : Results (.error d, memory) other

/-- The procedures that wait are alike. -/
inductive Frames : Frame → Frame → Prop
  | first (level : Level) : Frames (.first level) (.first level)
  | next (level : Level) (v : Float) (op : Op) {token token' : Token}
      (alike : comparison.token token token') :
      Frames (.next level v op token.position) (.next level v op token'.position)
  | operand : Frames .operand .operand
  | sign (sign : Sign) : Frames (.sign sign) (.sign sign)
  | plain : Frames .plain .plain
  | group : Frames .group .group
  | callee : Frames .callee .callee
  | argument {name name' : Token} (alike : comparison.token name name')
      (function : name.kind = .function) (done : List Float) :
      Frames (.argument name done) (.argument name' done)

/-- The states are alike. -/
inductive States : State σ → State σ → Prop
  | enter {procedure : Procedure} {frames frames' : List Frame} {rest rest' : List Token}
      {depth : Nat} {memory : σ} (stack : List.Forall₂ comparison.Frames frames frames')
      (alike : comparison.left rest rest')
      -- a call is entered at the name of a function only
      (named : procedure = .call → (Token.current rest).kind = .function) :
      States ⟨.enter procedure, frames, rest, depth, memory⟩
        ⟨.enter procedure, frames', rest', depth, memory⟩
  | value {v : Float} {frames frames' : List Frame} {rest rest' : List Token} {depth : Nat}
      {memory : σ} (stack : List.Forall₂ comparison.Frames frames frames')
      (alike : comparison.left rest rest') :
      States ⟨.leave (.ok v), frames, rest, depth, memory⟩
        ⟨.leave (.ok v), frames', rest', depth, memory⟩
  | failure {d d' : Diagnostic} {frames frames' : List Frame} {rest rest' : List Token}
      {depth : Nat} {memory : σ} (same : comparison.fault d d') :
      States ⟨.leave (.error d), frames, rest, depth, memory⟩
        ⟨.leave (.error d'), frames', rest', depth, memory⟩
  | excused {d : Diagnostic} {frames : List Frame} {rest : List Token} {depth : Nat} {memory : σ}
      (excuse : comparison.excused d) (other : State σ) :
      States ⟨.leave (.error d), frames, rest, depth, memory⟩ other

variable {comparison}

/-- A result is alike to itself if its failure is. -/
theorem Results.refl {result : Except Diagnostic Float × σ}
    (same : ∀ d, result.1 = .error d → comparison.fault d d) :
    comparison.Results result result := by
  obtain ⟨result, memory⟩ := result
  cases result with
  | ok v => exact .value v memory
  | error d => exact .failure memory (same d rfl)

/-- Only the same value is alike to a value. -/
theorem Results.of_value {v : Float} {memory : σ} {other : Except Diagnostic Float × σ}
    (results : comparison.Results (.ok v, memory) other) : other = (.ok v, memory) := by
  cases results
  rfl

/-- Only failures are alike to a failure that is not excused. -/
theorem Results.of_failure {d : Diagnostic} {memory : σ} {other : Except Diagnostic Float × σ}
    (results : comparison.Results (.error d, memory) other) (inexcusable : ¬ comparison.excused d) :
    ∃ d', other = (.error d', memory) ∧ comparison.fault d d' := by
  cases results with
  | failure _ same => exact ⟨_, rfl, same⟩
  | excused _ excuse => exact absurd excuse inexcusable

/-- Where only equal diagnostics are alike and nothing is excused, alike results are equal. -/
theorem Results.eq (equal : ∀ d d', comparison.fault d d' → d' = d)
    (inexcusable : ∀ d, ¬ comparison.excused d) {result other : Except Diagnostic Float × σ}
    (results : comparison.Results result other) : other = result := by
  obtain ⟨outcome, memory⟩ := result
  cases outcome with
  | ok v => exact results.of_value
  | error d =>
    obtain ⟨d', rfl, same⟩ := results.of_failure (inexcusable d)
    rw [equal d d' same]

/-- Procedures that are left with alike results are left alike. -/
theorem Results.states {result result' : Except Diagnostic Float}
    {frames frames' : List Frame} {rest rest' : List Token} {depth : Nat} {memory memory' : σ}
    (results : comparison.Results (result, memory) (result', memory'))
    (stack : List.Forall₂ comparison.Frames frames frames')
    (alike : comparison.left rest rest') :
    comparison.States ⟨.leave result, frames, rest, depth, memory⟩
      ⟨.leave result', frames', rest', depth, memory'⟩ := by
  cases results with
  | value => exact .value stack alike
  | failure _ same => exact .failure same
  | excused _ excuse => exact .excused excuse _

end Comparison

/-- Alike tokens have alike meanings in the two scopes. -/
structure Lockstep (comparison : Comparison) (scope scope' : Scope σ) : Prop where
  current : ∀ {rest rest'}, comparison.left rest rest' →
    comparison.token (Token.current rest) (Token.current rest')
  tail : ∀ {rest rest'}, comparison.left rest rest' → (Token.current rest).kind ≠ .endOfInput →
    comparison.left rest.tail rest'.tail
  kind : ∀ {token token'}, comparison.token token token' → token'.kind = token.kind
  op? : ∀ {token token'}, comparison.token token token' → token'.op? = token.op?
  literal : ∀ {token token'}, comparison.token token token' → token.kind = .number →
    ∀ memory : σ, comparison.Results (Scope.literal token.text token.position, memory)
      (Scope.literal token'.text token'.position, memory)
  lookup : ∀ {token token'}, comparison.token token token' → token.kind = .variable →
    ∀ memory : σ, comparison.Results (scope.lookup token.text token.position, memory)
      (scope'.lookup token'.text token'.position, memory)
  call : ∀ {token token'}, comparison.token token token' → token.kind = .function →
    ∀ (arguments : List Float) (memory : σ), comparison.Results
      ((scope.call token.text token.position arguments).run.run memory)
      ((scope'.call token'.text token'.position arguments).run.run memory)
  /-- What is wrong at a token is wrong at those that are alike. -/
  fault : ∀ {token token'}, comparison.token token token' →
    ∀ {problem : Problem}, (∀ name cause, problem ≠ .failedCall name cause) →
      comparison.fault ⟨problem, token.position⟩ ⟨problem, token'.position⟩

namespace Lockstep

variable {comparison : Comparison} {scope scope' : Scope σ} {limit : ℕ∞}
  {frames frames' : List Frame} {rest rest' : List Token} {depth : Nat} {memory : σ}

section Steps

variable (lockstep : Lockstep comparison scope scope')
  (stack : List.Forall₂ comparison.Frames frames frames') (alike : comparison.left rest rest')

include lockstep stack alike

/-- Chains go on alike. -/
theorem goOn (level : Level) (v : Float) (mode mode' : Mode) :
    comparison.States (goOn level v ⟨mode, frames, rest, depth, memory⟩)
      (goOn level v ⟨mode', frames', rest', depth, memory⟩) := by
  have current := lockstep.current alike
  simp only [Descent.goOn, lockstep.op? current]
  cases found : (Token.current rest).op? with
  | none => exact .value stack alike
  | some op =>
    by_cases same : op.level = level
    · simp only [if_pos same]
      exact .enter (.cons (.next level v op current) stack)
        (lockstep.tail alike (kind_ne_of_op? found))
        fun entered => absurd entered (Procedure.part_ne_call level)
    · simp only [if_neg same]
      exact .value stack alike

/-- Functions are called alike. -/
theorem invoke {name name' : Token} (named : comparison.token name name')
    (function : name.kind = .function) (arguments : List Float) (mode mode' : Mode) :
    comparison.States (invoke scope name arguments ⟨mode, frames, rest, depth, memory⟩)
      (invoke scope' name' arguments ⟨mode', frames', rest', depth, memory⟩) := by
  have current := lockstep.current alike
  simp only [Descent.invoke, lockstep.kind current]
  by_cases closes : (Token.current rest).kind = .rightParen
  · simp only [if_pos closes]
    exact (lockstep.call named function arguments memory).states stack
      (lockstep.tail alike (by simp [closes]))
  · simp only [if_neg closes]
    exact .failure (lockstep.fault current (by simp))

/-- Calls go on alike. -/
theorem goOnArguments {name name' : Token} (named : comparison.token name name')
    (function : name.kind = .function) (done : List Float) (mode mode' : Mode) :
    comparison.States (goOnArguments scope name done ⟨mode, frames, rest, depth, memory⟩)
      (goOnArguments scope' name' done ⟨mode', frames', rest', depth, memory⟩) := by
  simp only [Descent.goOnArguments, lockstep.kind (lockstep.current alike)]
  by_cases comma : (Token.current rest).kind = .comma
  · simp only [if_pos comma]
    exact .enter (.cons (.argument named function done) stack)
      (lockstep.tail alike (by simp [comma])) (by simp [Frame.inner])
  · simp only [if_neg comma]
    exact lockstep.invoke stack alike named function done.reverse mode mode'

/-- Operands without a sign are entered alike. -/
theorem enterUnsigned (mode mode' : Mode) :
    comparison.States (enterUnsigned scope ⟨mode, frames, rest, depth, memory⟩)
      (enterUnsigned scope' ⟨mode', frames', rest', depth, memory⟩) := by
  have current := lockstep.current alike
  have tail (proper : (Token.current rest).kind ≠ .endOfInput) := lockstep.tail alike proper
  simp only [Descent.enterUnsigned, lockstep.kind current]
  cases kind : (Token.current rest).kind with
  | number => exact (lockstep.literal current kind memory).states stack (tail (by simp [kind]))
  | «variable» => exact (lockstep.lookup current kind memory).states stack (tail (by simp [kind]))
  | function => exact .enter (.cons .callee stack) alike fun _ => kind
  | leftParen => exact .enter (.cons .group stack) (tail (by simp [kind])) (by simp [Frame.inner])
  | operator => exact .failure (lockstep.fault current (by simp))
  | rightParen => exact .failure (lockstep.fault current (by simp))
  | comma => exact .failure (lockstep.fault current (by simp))
  | endOfInput => exact .failure (lockstep.fault current (by simp))

/-- Calls are entered alike. -/
theorem enterCall (function : (Token.current rest).kind = .function) (mode mode' : Mode) :
    comparison.States (enterCall scope ⟨mode, frames, rest, depth, memory⟩)
      (enterCall scope' ⟨mode', frames', rest', depth, memory⟩) := by
  have named := lockstep.current alike
  have inside := lockstep.tail alike (by simp [function])
  have opening := lockstep.current inside
  simp only [Descent.enterCall, lockstep.kind opening]
  by_cases opens : (Token.current rest.tail).kind = .leftParen
  · have arguments := lockstep.tail inside (by simp [opens])
    simp only [if_pos opens, lockstep.kind (lockstep.current arguments)]
    by_cases closes : (Token.current rest.tail.tail).kind = .rightParen
    · simp only [if_pos closes]
      exact lockstep.invoke stack arguments named function [] mode mode'
    · simp only [if_neg closes]
      exact .enter (.cons (.argument named function []) stack) arguments (by simp [Frame.inner])
  · simp only [if_neg opens]
    exact .failure (lockstep.fault opening (by simp))

/-- Procedures are entered alike. -/
theorem enter (procedure : Procedure)
    (named : procedure = .call → (Token.current rest).kind = .function) (mode mode' : Mode) :
    comparison.States (enter limit scope ⟨mode, frames, rest, depth, memory⟩ procedure)
      (enter limit scope' ⟨mode', frames', rest', depth, memory⟩ procedure) := by
  have current := lockstep.current alike
  cases procedure with
  | chain level =>
    exact .enter (.cons (.first level) stack) alike
      fun entered => absurd entered (Procedure.part_ne_call level)
  | operand =>
    simp only [Descent.enter]
    by_cases full : (depth : ℕ∞) = limit
    · simp only [if_pos full]
      exact .failure (lockstep.fault current (by simp))
    · simp only [if_neg full]
      exact .enter (.cons .operand stack) alike (by simp [Frame.inner])
  | signed =>
    simp only [Descent.enter, lockstep.op? current]
    cases found : (Token.current rest).op?.bind Op.sign? with
    | none => exact .enter (.cons .plain stack) alike (by simp [Frame.inner])
    | some sign =>
      obtain ⟨op, some, _⟩ := Option.bind_eq_some_iff.1 found
      exact .enter (.cons (.sign sign) stack) (lockstep.tail alike (kind_ne_of_op? some))
        (by simp [Frame.inner])
  | unsigned => exact lockstep.enterUnsigned stack alike mode mode'
  | call => exact lockstep.enterCall stack alike (named rfl) mode mode'

/-- Procedures that wait go on alike with a value. -/
theorem resume {frame frame' : Frame} (waits : comparison.Frames frame frame') (v : Float)
    (mode mode' : Mode) :
    comparison.States (resume scope v ⟨mode, frames, rest, depth, memory⟩ frame)
      (resume scope' v ⟨mode', frames', rest', depth, memory⟩ frame') := by
  cases waits with
  | first level => exact lockstep.goOn stack alike level v mode mode'
  | next level left op named =>
    simp only [Descent.resume]
    by_cases zero : op = .divide ∧ v == 0.0
    · obtain ⟨rfl, zero⟩ := zero
      simp only [Op.apply, if_pos zero]
      exact .failure (lockstep.fault named (by simp))
    · -- no position matters to an operator that has a result
      obtain ⟨joined, applied⟩ : ∃ joined, ∀ position, op.apply position left v = .ok joined := by
        cases op with
        | divide => exact ⟨left / v, fun _ => if_neg fun equal => zero ⟨rfl, equal⟩⟩
        | _ => exact ⟨_, fun _ => rfl⟩
      simp only [applied]
      exact lockstep.goOn stack alike level joined mode mode'
  | operand => exact .value stack alike
  | sign sign => exact .value stack alike
  | plain => exact .value stack alike
  | group =>
    have current := lockstep.current alike
    simp only [Descent.resume, lockstep.kind current]
    by_cases closes : (Token.current rest).kind = .rightParen
    · simp only [if_pos closes]
      exact .value stack (lockstep.tail alike (by simp [closes]))
    · simp only [if_neg closes]
      exact .failure (lockstep.fault current (by simp))
  | callee => exact .value stack alike
  | argument named function done =>
    exact lockstep.goOnArguments stack alike named function (v :: done) mode mode'

end Steps

/-- What follows the expression is judged alike. -/
theorem finish (lockstep : Lockstep comparison scope scope') (alike : comparison.left rest rest')
    (v : Float) (memory : σ) :
    comparison.Results (Outcome.finish ⟨.ok v, rest, memory⟩)
      (Outcome.finish ⟨.ok v, rest', memory⟩) := by
  have current := lockstep.current alike
  simp only [Outcome.finish, lockstep.kind current]
  by_cases ends : (Token.current rest).kind = .endOfInput
  · simp only [if_pos ends]
    exact .value v memory
  · simp only [if_neg ends]
    exact .failure memory (lockstep.fault current (by simp))

/-- Alike states end alike. -/
theorem run (lockstep : Lockstep comparison scope scope') {s s' : State σ}
    (alike : comparison.States s s') :
    comparison.Results (run limit scope s).finish (run limit scope' s').finish := by
  induction s using WellFounded.induction (measure State.potential).wf generalizing s' with
  | _ s ih =>
    cases alike with
    | excused excuse other =>
      rw [run_leave_error]
      exact .excused _ excuse _
    | failure same =>
      rw [run_leave_error, run_leave_error]
      exact .failure _ same
    | @enter procedure frames frames' rest rest' depth memory stack alike named =>
      have move : Move limit _ _ := move_enter scope procedure frames rest depth memory
      rw [run_enter, run_enter]
      exact ih _ move.potential_lt (lockstep.enter stack alike procedure named _ _)
    | @value v _ _ rest rest' depth memory stack alike =>
      cases stack with
      | nil =>
        rw [run_of_end rfl, run_of_end rfl]
        exact lockstep.finish alike v memory
      | @cons frame frame' frames frames' waits stack =>
        have move : Move limit _ (Descent.resume scope v ⟨_, frames, rest, depth, memory⟩ frame) :=
          move_resume scope frame
        rw [run_resume, run_resume]
        exact ih _ move.potential_lt (lockstep.resume stack alike waits v _ _)

/-- **Evaluations of alike tokens end alike.** -/
theorem evaluateWithin (lockstep : Lockstep comparison scope scope') (levels : Nat)
    {tokens tokens' : List Token} (alike : comparison.left tokens tokens') (memory : σ) :
    comparison.Results ((evaluateWithin levels scope tokens).run.run memory)
      ((Reckoner.evaluateWithin levels scope' tokens').run.run memory) := by
  rw [← evaluate_eq_evaluateWithin, ← evaluate_eq_evaluateWithin]
  exact lockstep.run (.enter .nil alike (by simp))

end Lockstep

end Descent

/-! ## The same tokens in two scopes -/

namespace Scope

variable {σ : Type} {scope scope' : Scope σ}

/-- The scopes agree on what the token names, if it names anything. -/
structure AgreeOn (scope scope' : Scope σ) (token : Token) : Prop where
  value : token.kind = .variable → scope.bindings[token.text]? = scope'.bindings[token.text]?
  routine : token.kind = .function →
    scope.functions.find? token.text = scope'.functions.find? token.text

/-- A value that the scopes agree on is looked up alike. -/
theorem lookup_congr {name : String} (same : scope.bindings[name]? = scope'.bindings[name]?)
    (position : Nat) : scope.lookup name position = scope'.lookup name position := by
  rw [lookup, lookup, same]

/-- A routine that the scopes agree on is called alike. -/
theorem call_congr {name : String}
    (same : scope.functions.find? name = scope'.functions.find? name) (position : Nat)
    (arguments : List Float) :
    scope.call name position arguments = scope'.call name position arguments := by
  rw [call, call, FunctionTable.invoke, FunctionTable.invoke, same]

/-- The comparison of tokens with themselves in two scopes that agree on them. -/
def agreement (scope scope' : Scope σ) : Descent.Comparison where
  token token token' := token' = token ∧ scope.AgreeOn scope' token
  left rest rest' := rest' = rest ∧ ∀ token ∈ rest, scope.AgreeOn scope' token
  fault d d' := d' = d
  excused _ := False

/-- Tokens that two scopes agree on are evaluated in lockstep. -/
theorem agreement_lockstep (scope scope' : Scope σ) :
    Descent.Lockstep (scope.agreement scope') scope scope' where
  current := by
    rintro _ rest ⟨rfl, agree⟩
    cases rest with
    | nil => exact ⟨rfl, by simp [Token.finish], by simp [Token.finish]⟩
    | cons token rest => exact ⟨rfl, agree token List.mem_cons_self⟩
  tail := by
    rintro _ rest ⟨rfl, agree⟩ _
    exact ⟨rfl, fun token member => agree token (List.mem_of_mem_tail member)⟩
  kind := by
    rintro token _ ⟨rfl, _⟩
    rfl
  op? := by
    rintro token _ ⟨rfl, _⟩
    rfl
  literal := by
    rintro token _ ⟨rfl, _⟩ _ memory
    exact .refl fun _ _ => rfl
  lookup := by
    rintro token _ ⟨rfl, agree⟩ kind memory
    rw [lookup_congr (agree.value kind)]
    exact .refl fun _ _ => rfl
  call := by
    rintro token _ ⟨rfl, agree⟩ kind arguments memory
    rw [call_congr (agree.routine kind)]
    exact .refl fun _ _ => rfl
  fault := by
    rintro token _ ⟨rfl, _⟩ problem _
    rfl

end Scope

/-- **Evaluating tokens uses a scope for the names among them only.** -/
theorem evaluateWithin_congr {σ : Type} {scope scope' : Scope σ} (levels : Nat)
    {tokens : List Token} (agree : ∀ token ∈ tokens, scope.AgreeOn scope' token) :
    evaluateWithin levels scope tokens = evaluateWithin levels scope' tokens := by
  refine ExceptT.ext (funext fun memory => ?_)
  have alike : (scope.agreement scope').left tokens tokens := ⟨rfl, agree⟩
  have results := (Scope.agreement_lockstep scope scope').evaluateWithin levels alike memory
  exact (results.eq (fun _ _ same => same) fun _ => id).symm

end Reckoner
