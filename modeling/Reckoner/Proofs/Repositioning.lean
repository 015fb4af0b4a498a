import Reckoner.Proofs.Accounts
import Reckoner.Proofs.Lockstep
import Reckoner.Proofs.NestingLimit

/-! # Positions are only carried

Nothing that an evaluation does depends on the position of a token. `Token.mapPosition` puts a token
elsewhere. Tokens and the same tokens elsewhere are evaluated in lockstep
(`repositioning_lockstep`), so that the diagnostic is moved as the tokens are
(`evaluate_mapPosition`). The end of the input that is supplied behind the last token stands at
position zero, which has to stay where it is if it is met. -/

namespace Reckoner

variable {σ : Type}

/-- A token with its position replaced. -/
def Token.mapPosition (f : Nat → Nat) (token : Token) : Token :=
  { token with position := f token.position }

namespace Token

variable (f : Nat → Nat) (token : Token)

@[simp] theorem mapPosition_kind : (token.mapPosition f).kind = token.kind := rfl

@[simp] theorem mapPosition_op? : (token.mapPosition f).op? = token.op? := rfl

/-- The current token is moved with the others, the supplied end of the input at position zero. -/
theorem current_map_mapPosition {f : Nat → Nat} {tokens : List Token}
    (fixed : tokens = [] → f 0 = 0) :
    current (tokens.map (mapPosition f)) = (current tokens).mapPosition f := by
  cases tokens with
  | nil => simp [mapPosition, finish, fixed rfl]
  | cons => rfl

end Token

/-! ## Diagnostics of single tokens -/

namespace Scope

variable (scope : Scope σ) (f : Nat → Nat) (text : String) (position : Nat)

/-- A number that has no value has none elsewhere. -/
theorem literal_mapPosition : literal text (f position) =
    (literal text position).mapError (Diagnostic.mapPosition f) := by
  rw [literal, literal]
  split <;> rfl

/-- A variable that has no value has none elsewhere. -/
theorem lookup_mapPosition : scope.lookup text (f position) =
    (scope.lookup text position).mapError (Diagnostic.mapPosition f) := by
  rw [lookup, lookup]
  split <;> rfl

/-- A call does the same elsewhere. -/
theorem call_mapPosition (arguments : List Float) (memory : σ) :
    (scope.call text (f position) arguments).run.run memory =
      (((scope.call text position arguments).run.run memory).1.mapError (Diagnostic.mapPosition f),
        ((scope.call text position arguments).run.run memory).2) := by
  have placed (position : Nat) : (scope.call text position arguments).run.run memory =
      (((scope.functions.invoke text arguments).run.run memory).1.mapError
        fun cause => ⟨.failedCall text cause, position⟩,
        ((scope.functions.invoke text arguments).run.run memory).2) := rfl
  rw [placed, placed]
  cases ((scope.functions.invoke text arguments).run.run memory).1 <;> rfl

end Scope

namespace Descent

/-- The comparison of tokens with the same tokens elsewhere. Either the end of the input is among
those that have not been taken, or its supplied position stays. -/
def repositioning (f : Nat → Nat) : Comparison where
  token token token' := token' = token.mapPosition f
  left rest rest' := rest' = rest.map (Token.mapPosition f) ∧
    (f 0 = 0 ∨ ∃ token ∈ rest, token.kind = .endOfInput)
  fault d d' := d' = d.mapPosition f
  excused _ := False

/-- Results whose diagnostics are moved are alike. -/
theorem repositioning_results {f : Nat → Nat} (result : Except Diagnostic Float) (memory : σ) :
    (repositioning f).Results (result, memory)
      (result.mapError (Diagnostic.mapPosition f), memory) := by
  cases result with
  | ok v => exact .value v memory
  | error d => exact .failure memory rfl

/-- Only the result with its diagnostic moved is alike. -/
theorem repositioning_results_eq {f : Nat → Nat} {result other : Except Diagnostic Float × σ}
    (results : (repositioning f).Results result other) :
    other = (result.1.mapError (Diagnostic.mapPosition f), result.2) := by
  obtain ⟨result, memory⟩ := result
  cases result with
  | ok v => exact results.of_value
  | error d =>
    obtain ⟨d', rfl, same⟩ := results.of_failure id
    rw [same]
    rfl

/-- **Tokens and the same tokens elsewhere are evaluated in lockstep.** -/
theorem repositioning_lockstep (scope : Scope σ) (f : Nat → Nat) :
    Lockstep (repositioning f) scope scope where
  current := by
    rintro rest _ ⟨rfl, fixed⟩
    refine Token.current_map_mapPosition fun none => fixed.resolve_right ?_
    simp [none]
  tail := by
    rintro rest _ ⟨rfl, fixed⟩ inside
    refine ⟨List.map_tail.symm, fixed.imp_right fun ⟨token, member, ends⟩ => ?_⟩
    -- the end of the input is not the token that is taken
    cases rest with
    | nil => cases member
    | cons first rest =>
      rcases List.mem_cons.1 member with rfl | member
      · exact absurd ends inside
      · exact ⟨token, member, ends⟩
  kind := by
    rintro token _ rfl
    exact token.mapPosition_kind f
  op? := by
    rintro token _ rfl
    exact token.mapPosition_op? f
  literal := by
    rintro token _ rfl _ memory
    rw [Token.mapPosition, Scope.literal_mapPosition]
    exact repositioning_results _ memory
  lookup := by
    rintro token _ rfl _ memory
    rw [Token.mapPosition, Scope.lookup_mapPosition]
    exact repositioning_results _ memory
  call := by
    rintro token _ rfl _ arguments memory
    rw [Token.mapPosition, Scope.call_mapPosition]
    exact repositioning_results _ _
  fault := by
    rintro token _ rfl problem _
    rfl

end Descent

/-! ## Positions of diagnostics -/

open Descent in
/-- What is raised has the position of a token that has been taken or of the next token. -/
theorem Diagnostic.IsRaised.exists_position {scope : Scope σ} {memory : σ} {taken : List Token}
    {calls : List Invocation} {next : Token} {d : Diagnostic}
    (raised : d.IsRaised scope memory taken calls next) :
    (∃ token ∈ taken, token.position = d.position) ∨ next.position = d.position := by
  rw [Diagnostic.IsRaised] at raised
  split at raised
  · exact raised.elim
  · obtain ⟨before, token, rfl, _, failed⟩ := raised
    rw [Scope.literal] at failed
    split at failed <;> cases failed
    exact .inl ⟨token, by simp, rfl⟩
  · obtain ⟨before, token, rfl, _, failed⟩ := raised
    rw [Scope.lookup] at failed
    split at failed <;> cases failed
    exact .inl ⟨token, by simp, rfl⟩
  · obtain ⟨before, call, written, es, earlier, rfl, _, _, failed⟩ := raised
    obtain ⟨cause, rfl⟩ := Scope.fails_call ⟨_, _, Prod.ext failed rfl⟩
    exact .inl ⟨call.name, by simp, rfl⟩
  · obtain ⟨before, slash, right, e, rfl, _, position, _⟩ := raised
    exact .inl ⟨slash, by simp, position.symm⟩
  · exact .inr raised.1.symm
  · exact .inr raised.1.symm
  · exact .inr raised.1.symm
  · exact .inr raised.symm

open Descent in
/-- The position of a diagnostic is that of one of the tokens, or zero if all tokens have been taken
and none of them is the end of the input. -/
theorem Descent.Trace.exists_position {limit : ℕ∞} {scope : Scope σ}
    {tokens taken rest : List Token} {calls : List Invocation} {memory memory' : σ} {depth : Nat}
    {result : Except Diagnostic Float} {d : Diagnostic}
    (trace : Trace limit scope (Descent.start tokens memory) taken calls
      ⟨.leave result, [], rest, depth, memory'⟩)
    (failed : (Outcome.finish ⟨result, rest, memory'⟩).1 = .error d) :
    (∃ token ∈ tokens, token.position = d.position) ∨
      d.position = 0 ∧ taken = tokens ∧ ∀ token ∈ tokens, token.kind ≠ .endOfInput := by
  have written : tokens = taken ++ rest := trace.rest_eq
  rcases (trace.isRaised failed).exists_position with ⟨token, member, position⟩ | position
  · exact .inl ⟨token, by simp [written, member], position⟩
  · cases rest with
    | nil =>
      rw [List.append_nil] at written
      rw [written]
      exact .inr ⟨position.symm, rfl, trace.kind_ne_endOfInput⟩
    | cons next rest => exact .inl ⟨next, by simp [written], position⟩

open Descent in
/-- **Positions are only carried.** If the tokens are put elsewhere, their evaluation does the same,
calls included, and ends with the same value or with the same diagnostic put elsewhere; only the
position of the end of the input that is supplied where there is none has to stay. So the position
of a diagnostic is that of one of the tokens, or zero if all tokens have been taken and none of them
is the end of the input. -/
theorem evaluate_mapPosition (scope : Scope σ) (tokens : List Token) (f : Nat → Nat)
    (fixed : f 0 = 0 ∨ ∃ token ∈ tokens, token.kind = .endOfInput) :
    evaluate scope (tokens.map (Token.mapPosition f)) =
        (evaluate scope tokens).adapt (Diagnostic.mapPosition f) ∧
      ∀ memory d memory', (evaluate scope tokens).run.run memory = (.error d, memory') →
        (∃ token ∈ tokens, token.position = d.position) ∨
          d.position = 0 ∧ takenFrom maxLevels scope tokens memory = tokens ∧
            ∀ token ∈ tokens, token.kind ≠ .endOfInput := by
  refine ⟨ExceptT.ext (funext fun memory => ?_), fun memory d memory' failed => ?_⟩
  · have results := (repositioning_lockstep scope f).evaluateWithin maxLevels ⟨rfl, fixed⟩ memory
    exact repositioning_results_eq results
  · obtain ⟨depth, trace⟩ := exists_trace maxLevels scope tokens memory
    rw [run_evaluate_eq_finish] at failed
    exact trace.exists_position (congrArg Prod.fst failed)

/-- At twice its position a variable without a value is reported at twice its position. -/
theorem evaluate_mapPosition_double :
    let scope : Scope Unit := ⟨.empty, ∅⟩
    let tokens : List Token := [⟨.variable, "x", 3⟩]
    2 * 0 = 0 ∧ (evaluate scope tokens).run.run () = (.error ⟨.unknownVariable "x", 3⟩, ()) ∧
      evaluate scope [⟨.variable, "x", 6⟩] =
        (evaluate scope tokens).adapt (Diagnostic.mapPosition (2 * ·)) ∧
      ∃ token ∈ tokens, token.position = 3 := by
  intro scope tokens
  have failed : (evaluate scope tokens).run.run () = (.error ⟨.unknownVariable "x", 3⟩, ()) := by
    with_unfolding_all rfl
  obtain ⟨same, position⟩ := evaluate_mapPosition scope tokens (2 * ·) (.inl rfl)
  exact ⟨rfl, failed, same, (position () _ () failed).resolve_right (by simp)⟩

end Reckoner
