import Mathlib.Data.List.Basic
import Reckoner.Proofs.Accounts
import Reckoner.Proofs.NestingLimit

/-! # The calls of an evaluation

Functions are called in the order of the parentheses that close their arguments, each once and none
before its parenthesis has been taken (`Trace.exists_isDue`). A call that fails is the last one
(`Trace.last_of_error`), and a failure of a call is that of the last one (`Trace.exists_failed`);
where there is a value, every function has been called (`Trace.functions`). What the functions have
done to the memory stays, in this order, whatever the evaluation ends with. `CallsInOrder` puts
these facts together and `evaluate_callsInOrder` is their proof for the evaluation of any tokens. -/

namespace Reckoner

namespace Descent

variable {σ : Type} {limit : ℕ∞} {scope : Scope σ} {s s' t : State σ}
  {own taken rest : List Token} {new calls earlier later : List Invocation} {call : Invocation}
  {memory memory' : σ} {depth : Nat} {d : Diagnostic} {result : Except Diagnostic Float}

/-! ## What is recorded in the memory -/

/-- What calls append to a record in the memory stands there in the order of the calls. -/
theorem record_effects {ε : Type} {record : σ → List ε} {entries : Invocation → List ε}
    (appends : ∀ call memory,
      record (call.result scope memory).2 = record memory ++ entries call)
    (calls : List Invocation) (memory : σ) :
    record (effects scope calls memory) = record memory ++ calls.flatMap entries := by
  induction calls generalizing memory with
  | nil => simp
  | cons call calls ih =>
    have first : effects scope (call :: calls) memory =
        effects scope calls (call.result scope memory).2 := rfl
    rw [first, ih, appends, List.flatMap_cons, List.append_assoc]

/-! ## One call after the other -/

/-- A call of several and one more is that one or is among the others. -/
theorem eq_of_append_singleton {last : Invocation}
    (same : calls ++ [last] = earlier ++ call :: later) :
    (later = [] ∧ earlier = calls ∧ call = last) ∨
      ∃ between, later = between ++ [last] ∧ calls = earlier ++ call :: between := by
  rcases later.eq_nil_or_concat' with rfl | ⟨between, other, rfl⟩
  · obtain ⟨before, alone⟩ := List.append_inj' same rfl
    exact .inl ⟨rfl, before.symm, (List.singleton_inj.1 alone).symm⟩
  · rw [← List.cons_append, ← List.append_assoc] at same
    obtain ⟨before, alone⟩ := List.append_inj' same rfl
    rw [List.singleton_inj.1 alone]
    exact .inr ⟨between, rfl, before⟩

/-- A transition makes no call, or one that is due and with whose result the procedure is left. -/
theorem Transition.new_cases (transition : Transition limit scope s own new s')
    (here : s.memory = effects scope calls memory)
    (accounts : s.Accounts scope memory taken calls) :
    new = [] ∨ ∃ call, new = [call] ∧ call.IsDue scope memory (taken ++ own) calls ∧
      (∀ d, s.mode ≠ .leave (.error d)) ∧
      s'.mode = .leave (call.result scope (effects scope calls memory)).1 := by
  cases transition with
  | @call mode waiting own call frames rest depth memory' calls' =>
    cases here
    refine .inr ⟨call, rfl, (accounts.closing calls').isDue, fun d failed => ?_, rfl⟩
    cases calls' <;> cases failed
  | _ => exact .inl rfl

/-- A procedure that has been left with a failure is followed by others that are left with it. -/
theorem Transition.mode_eq (transition : Transition limit scope s own new s')
    (failed : s.mode = .leave (.error d)) : new = [] ∧ s'.mode = .leave (.error d) := by
  cases transition with
  | fail => exact ⟨rfl, failed⟩
  | call calls => cases calls <;> cases failed
  | complain complains => cases complains <;> cases failed
  | _ => cases failed

namespace Trace

/-- **Every call is made when it is due.** -/
theorem exists_isDue {tokens : List Token}
    (trace : Trace limit scope (Descent.start tokens memory) taken calls s)
    (made : calls = earlier ++ call :: later) :
    ∃ upTo, upTo <+: taken ∧ call.IsDue scope memory upTo earlier := by
  induction trace generalizing later with
  | start => simp at made
  | @step taken calls t own new u trace transition ih =>
    rcases transition.new_cases trace.memory_eq trace.accounts with rfl | ⟨last, rfl, due, _⟩
    · rw [List.append_nil] at made
      obtain ⟨upTo, before, due⟩ := ih made
      exact ⟨upTo, before.trans (List.prefix_append _ _), due⟩
    · rcases eq_of_append_singleton made with ⟨_, rfl, rfl⟩ | ⟨between, _, made⟩
      · exact ⟨taken ++ own, List.prefix_refl _, due⟩
      · obtain ⟨upTo, before, due⟩ := ih made
        exact ⟨upTo, before.trans (List.prefix_append _ _), due⟩

/-- **A call that fails is the last one**, and what it fails with is what procedures are left with
from then on. -/
theorem last_of_error {tokens : List Token}
    (trace : Trace limit scope (Descent.start tokens memory) taken calls s)
    (made : calls = earlier ++ call :: later)
    (failed : (call.result scope (effects scope earlier memory)).1 = .error d) :
    later = [] ∧ s.mode = .leave (.error d) := by
  induction trace generalizing later with
  | start => simp at made
  | @step taken calls t own new u trace transition ih =>
    rcases transition.new_cases trace.memory_eq trace.accounts with
      rfl | ⟨last, rfl, _, proper, left⟩
    · rw [List.append_nil] at made
      obtain ⟨rfl, mode⟩ := ih made
      exact ⟨rfl, (transition.mode_eq mode).2⟩
    · rcases eq_of_append_singleton made with ⟨rfl, rfl, rfl⟩ | ⟨between, _, made⟩
      · exact ⟨rfl, left.trans (congrArg Mode.leave failed)⟩
      · exact absurd (ih made).2 (proper d)

/-- A failure of a call is that of the last one. -/
theorem exists_failed {tokens : List Token} {name : String} {cause : CallFailure} {position : Nat}
    (trace : Trace limit scope (Descent.start tokens memory) taken calls
      ⟨.leave result, [], rest, depth, memory'⟩)
    (failed : (Outcome.finish ⟨result, rest, memory'⟩).1 =
      .error ⟨.failedCall name cause, position⟩) :
    ∃ earlier call, calls = earlier ++ [call] ∧ call.name.text = name ∧
      call.name.position = position ∧ (call.result scope (effects scope earlier memory)).1 =
        .error ⟨.failedCall name cause, position⟩ := by
  obtain ⟨_, call, _, _, earlier, _, _, made, ended⟩ := trace.isRaised failed
  obtain ⟨cause', same⟩ := Scope.fails_call ⟨_, _, Prod.ext ended rfl⟩
  cases same
  exact ⟨earlier, call, made, rfl, rfl, ended⟩

/-- Where there is a value, all functions before the end of the input have been called. -/
theorem functions {tokens : List Token} {v : Float}
    (trace : Trace limit scope (Descent.start tokens memory) taken calls
      ⟨.leave result, [], rest, depth, memory'⟩)
    (valued : (Outcome.finish ⟨result, rest, memory'⟩).1 = .ok v) :
    (calls.map (·.name)).Perm ((Token.beforeEnd tokens).filter (·.kind = .function)) := by
  cases result with
  | error d => cases valued
  | ok w =>
    have ends : (Token.current rest).kind = .endOfInput := by
      by_contra other
      simp only [Outcome.finish, if_neg other] at valued
      cases valued
    have written : tokens = taken ++ rest := trace.rest_eq
    rw [written, Token.beforeEnd_append trace.kind_ne_endOfInput ends]
    cases trace.accounts with
    | value valued =>
      have ordered := valued.ordered.functions
      rw [List.filterMap_nil, List.append_nil] at ordered
      exact ordered.symm

end Trace

/-! ## The whole evaluation -/

/-- An evaluation of the tokens that begins with the first memory, takes some of the tokens and ends
with a result and the second memory makes the calls, in this order. -/
structure CallsInOrder (scope : Scope σ) (tokens taken : List Token) (memory : σ)
    (calls : List Invocation) (result : Except Diagnostic Float) (memory' : σ) : Prop where
  /-- The tokens begin with those that are taken. -/
  isPrefix : taken <+: tokens
  /-- There is one call for each function whose closing parenthesis is taken, in the order of the
  closing parentheses. -/
  completed : calls.map (·.name) = completedCalls taken
  /-- Each call is made when its closing parenthesis is taken and with the values of its arguments
  in their order. -/
  due : ∀ earlier call later, calls = earlier ++ call :: later →
    ∃ upTo, upTo <+: taken ∧ call.IsDue scope memory upTo earlier
  /-- A call that fails is the last one and fails the evaluation. -/
  last : ∀ earlier call later d, calls = earlier ++ call :: later →
    (call.result scope (effects scope earlier memory)).1 = .error d →
    later = [] ∧ result = .error d
  /-- If the evaluation fails with a failed call, this call is the last one. -/
  failed : ∀ name cause position, result = .error ⟨.failedCall name cause, position⟩ →
    ∃ earlier call, calls = earlier ++ [call] ∧ call.name.text = name ∧
      call.name.position = position ∧
      (call.result scope (effects scope earlier memory)).1 = result
  /-- If there is a value, there is one call for each function before the end of the input. -/
  functions : ∀ v, result = .ok v →
    (calls.map (·.name)).Perm ((Token.beforeEnd tokens).filter (·.kind = .function))
  /-- What the calls do to the memory is done one after the other and stays. -/
  effects : memory' = effects scope calls memory
  /-- A record in the memory that the functions append to holds in the end what the calls have
  appended, in their order. -/
  record : ∀ {ε : Type} (record : σ → List ε) (entries : Invocation → List ε),
    (∀ call memory, record (call.result scope memory).2 = record memory ++ entries call) →
    record memory' = record memory ++ calls.flatMap entries

end Descent

open Descent in
/-- **Functions are called in order, once each, and only when their arguments are closed.** This is
so in the evaluation of any tokens, whatever it ends with. -/
theorem evaluate_callsInOrder {σ : Type} (scope : Scope σ) (tokens : List Token) (memory : σ) :
    let ended := (evaluate scope tokens).run.run memory
    CallsInOrder scope tokens (takenFrom maxLevels scope tokens memory) memory
      (invocations maxLevels scope (start tokens memory)) ended.1 ended.2 := by
  intro ended
  obtain ⟨depth, trace⟩ := exists_trace maxLevels scope tokens memory
  rw [show ended = _ from run_evaluate_eq_finish scope tokens memory]
  generalize run maxLevels scope (start tokens memory) = outcome at trace
  obtain ⟨result, rest, memory'⟩ := outcome
  have effects_eq := (Outcome.finish_memory ⟨result, rest, memory'⟩).trans trace.memory_eq
  exact {
    isPrefix := ⟨rest, trace.rest_eq.symm⟩
    completed := trace.accounts.completed.symm
    due := fun earlier call later made => trace.exists_isDue made
    last := fun earlier call later d made failed => by
      obtain ⟨none, mode⟩ := trace.last_of_error made failed
      cases mode
      exact ⟨none, rfl⟩
    failed := fun name cause position failed => by
      obtain ⟨earlier, call, made, text, place, ended⟩ := trace.exists_failed failed
      exact ⟨earlier, call, made, text, place, ended.trans failed.symm⟩
    functions := fun v valued => trace.functions valued
    effects := effects_eq
    record := fun record entries appends =>
      (congrArg record effects_eq).trans (record_effects appends _ memory) }

end Reckoner
