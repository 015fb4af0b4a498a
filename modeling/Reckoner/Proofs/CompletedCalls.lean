import Reckoner.Proofs.Classification
import Reckoner.Proofs.Invocations
import Reckoner.Proofs.Operations

/-! # Tokens that outlive a registration

Tokens tell functions and variables apart as the functions known when they were scanned, and can be
evaluated when others are known. Throughout an evaluation the open parentheses are those of the
procedures that wait, and the calls completed so far were of known functions (`State.Keeps`). So an
unknown function is reported for the first completed call of one, and all functions are known where
there is a value (`Calculator.evaluate_of_tokens`). -/

namespace Reckoner

/-- The diagnostic is that of the first completed call of an unknown function. -/
def IsFirstUnknown {σ : Type} (table : FunctionTable σ) (tokens : List Token) (d : Diagnostic) :
    Prop :=
  ∃ call, (completedCalls tokens).find? (fun call => !table.has call.text) = some call ∧
    d = ⟨.failedCall call.text (.unknownFunction call.text), call.position⟩

/-! ## Calls that have been completed -/

/-- The parentheses open after the tokens are those of the procedures that wait, the calls completed
are of known functions, and no function among the tokens is left out. -/
structure Closes {σ : Type} (table : FunctionTable σ) (frames : List Frame)
    (taken completed : List Token) : Prop where
  calls : Calls.ofTokens taken = ⟨none, frames.filterMap Frame.opening, completed⟩
  known : ∀ call ∈ completed, table.has call.text = true
  called : ∀ token ∈ taken, token.kind = .function →
    some token ∈ frames.filterMap Frame.opening ∨ token ∈ completed

/-- Where the calls made are of known functions, the calls completed are. -/
theorem Descent.Ordered.closes {σ : Type} {table : FunctionTable σ} {frames : List Frame}
    {taken : List Token} {calls : List Descent.Invocation}
    (ordered : Descent.Ordered frames taken calls)
    (known : ∀ call ∈ calls, table.has call.name.text = true) :
    Closes table frames taken (calls.map (·.name)) where
  calls := ordered.tokens
  known := List.forall_mem_map.2 known
  called := by
    intro token member function
    have named : token ∈ taken.filter (·.kind = .function) :=
      List.mem_filter.2 ⟨member, decide_eq_true function⟩
    rcases List.mem_append.1 (ordered.functions.mem_iff.1 named) with made | waits
    · exact .inr made
    · obtain ⟨frame, waiting, caller⟩ := List.mem_filterMap.1 waits
      refine .inl (List.mem_filterMap.2 ⟨frame, waiting, ?_⟩)
      -- a procedure that waits for arguments has opened them
      cases frame <;> cases caller
      rfl

/-! ## Throughout an evaluation -/

namespace Descent

variable {σ : Type} {limit : ℕ∞} {scope : Scope σ} {tokens : List Token} {memory : σ}

/-- A call with a value is one of a known function. -/
theorem has_of_call {name : Token} {arguments : List Float} {v : Float}
    (called : (Operation.result scope memory (.call name arguments)).1 = .ok v) :
    scope.functions.has name.text = true := by
  by_contra unknown
  rw [Operation.result, Scope.call,
    FunctionTable.invoke_of_not_has (Bool.eq_false_iff.2 unknown)] at called
  cases called

/-- A call that fails has its name in the failure, and that the function is unknown if it is. -/
theorem failure_of_call {name : Token} {arguments : List Float} {d : Diagnostic}
    (called : (Operation.result scope memory (.call name arguments)).1 = .error d) :
    ∃ cause, d = ⟨.failedCall name.text cause, name.position⟩ ∧
      (scope.functions.has name.text = false → cause = .unknownFunction name.text) := by
  obtain ⟨cause, rfl⟩ := Scope.fails_call ⟨memory, _, Prod.ext called rfl⟩
  refine ⟨cause, rfl, fun unknown => ?_⟩
  rw [Operation.result, Scope.call, FunctionTable.invoke_of_not_has unknown] at called
  cases called
  rfl

/-- The tokens taken are closed as far as the procedures that wait say, and a call that failed
because its function is unknown is the first one of the tokens. -/
inductive State.Keeps (table : FunctionTable σ) (tokens : List Token) : State σ → Prop
  | enter {procedure frames taken completed rest depth memory} :
      Closes table frames taken completed → tokens = taken ++ rest →
      (procedure = .call → (Token.current rest).kind = .function) →
      Keeps table tokens ⟨.enter procedure, frames, rest, depth, memory⟩
  | value {v frames taken completed rest depth memory} :
      Closes table frames taken completed → tokens = taken ++ rest →
      Keeps table tokens ⟨.leave (.ok v), frames, rest, depth, memory⟩
  | failure {d frames rest depth memory} :
      (∀ name cause, d.problem = .failedCall name cause → table.has name = false →
        IsFirstUnknown table tokens d) →
      Keeps table tokens ⟨.leave (.error d), frames, rest, depth, memory⟩

/-- All calls before one that fails are of known functions. -/
theorem Trace.known {s : State σ} {taken : List Token} {calls earlier later : List Invocation}
    (trace : Trace limit scope (Descent.start tokens memory) taken calls s)
    (made : calls = earlier ++ later)
    (proper : later = [] → ∀ d, s.mode ≠ .leave (.error d)) :
    ∀ call ∈ earlier, scope.functions.has call.name.text = true := by
  intro call member
  obtain ⟨before, between, rfl⟩ := List.append_of_mem member
  rw [List.append_assoc, List.cons_append] at made
  cases result : (call.result scope (effects scope before memory)).1 with
  | ok v => exact has_of_call result
  | error d =>
    obtain ⟨none, mode⟩ := trace.last_of_error made result
    exact absurd mode (proper (List.append_eq_nil_iff.1 none).2 d)

/-- A call that fails because its function is unknown is the first one of the tokens. -/
theorem Trace.isFirstUnknown {s : State σ} {taken : List Token} {calls earlier : List Invocation}
    {call : Invocation} {name : String} {cause : CallFailure} {d : Diagnostic}
    (trace : Trace limit scope (Descent.start tokens memory) taken calls s)
    (made : calls = earlier ++ [call])
    (failed : (call.result scope (effects scope earlier memory)).1 = .error d)
    (problem : d.problem = .failedCall name cause) (missing : scope.functions.has name = false) :
    IsFirstUnknown scope.functions tokens d := by
  obtain ⟨cause', rfl, unknown⟩ := failure_of_call failed
  cases problem
  obtain rfl := unknown missing
  refine ⟨call.name, ?_, rfl⟩
  -- the calls completed before it are of known functions
  have none : (earlier.map (·.name)).find? (fun call => !scope.functions.has call.text) = none := by
    rw [List.find?_eq_none]
    intro token among
    obtain ⟨before, member, rfl⟩ := List.mem_map.1 among
    simp [trace.known made (by simp) before member]
  have written : tokens = taken ++ s.rest := trace.rest_eq
  obtain ⟨more, whole⟩ := Calls.completed_isPrefix taken s.rest
  have completed : (Calls.ofTokens taken).completed = calls.map (·.name) :=
    trace.accounts.completed
  rw [completedCalls, written, ← whole, completed, made, List.map_append, List.find?_append,
    List.find?_append, none]
  simp [missing]

/-- The calls are kept in order throughout an evaluation. -/
theorem Runs.keeps {s : State σ} (runs : Runs limit scope (start tokens memory) s) :
    s.Keeps scope.functions tokens := by
  obtain ⟨⟨taken, calls, trace⟩, named⟩ := Runs.trace runs (named_start tokens memory)
  have same : tokens = taken ++ s.rest := trace.rest_eq
  have known := trace.known (List.append_nil calls).symm
  cases trace.accounts with
  | enter held =>
    have closes := held.ordered.closes (known fun _ d mode => by cases mode)
    exact .enter closes same fun call => named (congrArg Mode.enter call)
  | value valued => exact .value (valued.ordered.closes (known fun _ d mode => by cases mode)) same
  | @failure d _ _ _ _ _ raised =>
    refine .failure fun name cause problem missing => ?_
    rw [Diagnostic.IsRaised, problem] at raised
    obtain ⟨_, call, _, _, earlier, _, _, made, failed⟩ := raised
    exact trace.isFirstUnknown made failed problem missing

/-- What an evaluation ends with keeps the calls in order. -/
theorem run_keeps (limit : ℕ∞) (scope : Scope σ) (tokens : List Token) (memory : σ) :
    let outcome := run limit scope (start tokens memory)
    ∃ depth, (⟨.leave outcome.result, [], outcome.rest, depth, outcome.memory⟩ : State σ).Keeps
      scope.functions tokens := by
  obtain ⟨depth, runs⟩ := exists_runs_leave limit scope (start tokens memory)
  exact ⟨depth, Runs.keeps runs⟩

/-- Where there is a value, the functions of all tokens before the end of the input are known. -/
theorem has_of_value {v : Float} {memory' : σ}
    (valued : (evaluate limit scope tokens).run.run memory = (.ok v, memory')) {token : Token}
    (member : token ∈ Token.beforeEnd tokens) (function : token.kind = .function) :
    scope.functions.has token.text = true := by
  obtain ⟨depth, keeps⟩ := run_keeps limit scope tokens memory
  replace valued : (run limit scope (start tokens memory)).finish = (.ok v, memory') := valued
  generalize run limit scope (start tokens memory) = outcome at keeps valued
  obtain ⟨result, rest, memory''⟩ := outcome
  cases keeps with
  | failure => cases valued
  | @value _ _ taken _ _ _ _ closes same =>
    have ends : (Token.current rest).kind = .endOfInput := by
      by_contra other
      simp only [Outcome.finish, if_neg other] at valued
      cases valued
    have inside : token ∈ taken := Token.mem_of_mem_beforeEnd ends (same ▸ member)
    rcases closes.called token inside function with opened | completed
    · cases opened
    · exact closes.known token completed

/-- A call that fails because its function is unknown is the first completed one of them. -/
theorem isFirstUnknown_of_error {name : String} {cause : CallFailure} {position : Nat}
    {memory' : σ} (failed : (evaluate limit scope tokens).run.run memory =
      (.error ⟨.failedCall name cause, position⟩, memory'))
    (unknown : scope.functions.has name = false) :
    IsFirstUnknown scope.functions tokens ⟨.failedCall name cause, position⟩ := by
  obtain ⟨depth, keeps⟩ := run_keeps limit scope tokens memory
  replace failed : (run limit scope (start tokens memory)).finish =
      (.error ⟨.failedCall name cause, position⟩, memory') := failed
  generalize run limit scope (start tokens memory) = outcome at keeps failed
  obtain ⟨result, rest, memory''⟩ := outcome
  cases keeps with
  | failure first =>
    cases failed
    exact first name cause rfl unknown
  | value =>
    -- what comes after the expression is no call
    simp only [Outcome.finish] at failed
    split at failed <;> cases failed

/-- The functions that are called are among the tokens. -/
theorem Performs.function {name : Token} {arguments : List Float}
    (performs : Performs limit scope tokens memory (.call name arguments)) :
    name ∈ tokens ∧ name.kind = .function := by
  cases performs.writtenIn with
  | call same derives _ =>
    refine ⟨by simp [same], ?_⟩
    cases derives <;> assumption

end Descent

/-! ## Other functions than those that the tokens were scanned with -/

namespace Calculator

variable {σ : Type}

/-- **What is a function is settled when an expression is split into tokens.** The tokens can be
evaluated by any other calculator. If it tells the names of the expression apart alike, this is
calculating the expression with it. Routines registered meanwhile under other names than those of
the functions among the tokens make no difference. Whatever functions it knows, it calls none but
the functions among the tokens, and gives a value only if all variables are bound and all functions
are known; an unknown function is reported at the first completed call of one, under its name as
written. -/
theorem evaluate_of_tokens (calculator other : Calculator σ) {text : String} {tokens : List Token}
    (scanned : calculator.tokens text = .ok tokens) (bindings : Bindings) :
    ((∀ token ∈ tokens, token.IsIdentifier →
        other.functions.has token.text = calculator.functions.has token.text) →
      other.evaluate tokens bindings = other.calculate text bindings) ∧
    (∀ history : List (String × Routine σ),
      (∀ entry ∈ history, ∀ token ∈ tokens, token.kind = .function →
        Text.lowerCase entry.1 ≠ Text.lowerCase token.text) →
      (⟨calculator.functions.registerAll history⟩ : Calculator σ).evaluate tokens bindings =
        calculator.evaluate tokens bindings) ∧
    ∀ memory,
      (∀ name arguments, Descent.Performs maxLevels ⟨other.functions, bindings⟩ tokens memory
        (.call name arguments) → name ∈ tokens ∧ name.kind = .function) ∧
      (∀ v memory', (other.evaluate tokens bindings).run.run memory = (.ok v, memory') →
        ∀ token ∈ tokens, (token.kind = .variable → token.text ∈ bindings) ∧
          (token.kind = .function → other.functions.has token.text = true)) ∧
      ∀ name cause position memory', (other.evaluate tokens bindings).run.run memory =
          (.error ⟨.failedCall name cause, position⟩, memory') →
        other.functions.has name = false →
        cause = .unknownFunction name ∧
          ∃ call ∈ tokens, call.kind = .function ∧ call.text = name ∧ call.position = position ∧
            (completedCalls tokens).find? (fun call => !other.functions.has call.text) =
              some call := by
  refine ⟨fun agree => ?_, fun history apart => ?_, fun memory =>
    ⟨fun name arguments performs => performs.function, fun v memory' valued token member => ?_,
      fun name cause position memory' failed unknown => ?_⟩⟩
  · rw [calculate_of_tokens (tokens_congr scanned agree)]
    rfl
  · refine evaluateWithin_congr maxLevels fun token member => ⟨fun _ => rfl, fun function => ?_⟩
    exact FunctionTable.find?_registerAll_of_forall_ne fun entry registered =>
      apart entry registered token member function
  · have inside (kind : token.kind ≠ .endOfInput) := mem_beforeEnd_of_tokens scanned member kind
    refine ⟨fun kind => ?_, fun kind => ?_⟩
    · exact evaluateWithin_bound valued (inside (by simp [kind])) kind
    · rw [evaluate, Reckoner.evaluate, ← Descent.evaluate_eq_evaluateWithin] at valued
      exact Descent.has_of_value valued (inside (by simp [kind])) kind
  · rw [evaluate, Reckoner.evaluate, ← Descent.evaluate_eq_evaluateWithin] at failed
    obtain ⟨call, first, same⟩ := Descent.isFirstUnknown_of_error failed unknown
    cases same
    obtain ⟨member, function⟩ := mem_of_mem_completedCalls (List.mem_of_find?_eq_some first)
    exact ⟨rfl, call, member, function, rfl, rfl, first⟩

/-- Without the functions of `f(g(x))` the call of `g` is reported, which is completed first. -/
theorem evaluate_of_tokens_nested :
    let calculator : Calculator Unit := .register (.register ⟨.empty⟩ "f" .sum) "g" .sum
    let other : Calculator Unit := ⟨.empty⟩
    let bindings : Bindings := Std.TreeMap.empty.insert "x" 1.0
    let tokens : List Token := [⟨.function, "f", 0⟩, ⟨.leftParen, "(", 1⟩, ⟨.function, "g", 2⟩,
      ⟨.leftParen, "(", 3⟩, ⟨.variable, "x", 4⟩, ⟨.rightParen, ")", 5⟩, ⟨.rightParen, ")", 6⟩,
      .finish 7]
    calculator.tokens "f(g(x))" = .ok tokens ∧
      (other.evaluate tokens bindings).run.run () =
        (.error ⟨.failedCall "g" (.unknownFunction "g"), 2⟩, ()) ∧
      ∃ call ∈ tokens, call.kind = .function ∧ call.text = "g" ∧ call.position = 2 ∧
        (completedCalls tokens).find? (fun call => !other.functions.has call.text) =
          some call := by
  intro calculator other bindings tokens
  have scanned : calculator.tokens "f(g(x))" = .ok tokens := by decide +kernel
  have ran : (other.evaluate tokens bindings).run.run () =
      (.error ⟨.failedCall "g" (.unknownFunction "g"), 2⟩, ()) := by
    with_unfolding_all rfl
  have unknown : other.functions.has "g" = false := by decide +kernel
  have reported := ((evaluate_of_tokens calculator other scanned bindings).2.2 ()).2.2
  exact ⟨scanned, ran, (reported _ _ _ _ ran unknown).2⟩

end Calculator

end Reckoner
