import Reckoner.Proofs.Accounts
import Reckoner.Proofs.NestingLimit

/-! # Failures and the tokens behind them

A step looks at the tokens that it takes and at most at the one that comes next, so it does not
depend on what comes after that (`Transition.replace`), and neither do the steps before a state
(`Trace.replace`). A number, a variable or a call that has no value does not even depend on the next
token. So a failure stays the same whatever is written behind the token that it is about
(`evaluate_of_agree`). -/

namespace Reckoner

/-- Whether the problem depends on the token behind those that have been taken. -/
def Problem.looksAhead : Problem → Bool
  | .unexpected _ | .missingRightParen | .trailing _ | .nestedTooDeeply | .divisionByZero => true
  | .unknownCharacter _ | .malformedNumber | .unknownVariable _ | .failedCall _ _ => false

/-- The last index that the problem depends on, when so many tokens have been taken. -/
def Problem.lastIndex (problem : Problem) (taken : Nat) : Nat :=
  if problem.looksAhead then taken else taken - 1

namespace Descent

variable {σ : Type} {limit : ℕ∞} {scope : Scope σ} {s s' t : State σ}
  {own taken rest more : List Token} {new calls : List Invocation} {memory memory' : σ}

/-! ## Other tokens behind those that have been taken -/

/-- The state may have come to these tokens as well: the current one is the same, unless the state
has failed in such a way that it does not matter. -/
def State.Admits (s : State σ) (more : List Token) : Prop :=
  Token.current more = Token.current s.rest ∨
    ∃ d, s.mode = .leave (.error d) ∧ d.problem.looksAhead = false

/-- Tokens that have been put back hide what is behind them. -/
theorem current_append (same : own = [] → Token.current more = Token.current rest) :
    Token.current (own ++ more) = Token.current (own ++ rest) := by
  cases own with
  | nil => exact same rfl
  | cons => rfl

/-- A complaint is about the next token. -/
theorem Mode.Complains.looksAhead {mode : Mode} {waiting : List Frame} {depth : Nat} {next : Token}
    {problem : Problem} (complains : Mode.Complains limit mode waiting depth own next problem) :
    problem.looksAhead = true := by
  cases complains <;> rfl

/-- That a value cannot be divided by zero is known when the divisor is complete. -/
theorem looksAhead_of_apply {op : Op} {position : Nat} {left right : Float} {d : Diagnostic}
    (failed : op.apply position left right = .error d) : d.problem.looksAhead = true := by
  obtain ⟨_, rfl⟩ := Op.apply_eq_error failed
  rfl

/-- **A transition does not depend on what is behind the next token.** -/
theorem Transition.replace (transition : Transition limit scope s own new s')
    (admits : s'.Admits more) :
    Transition limit scope { s with rest := own ++ more } own new { s' with rest := more } ∧
      s.Admits (own ++ more) := by
  cases transition with
  | wait frame opens free =>
    have same : Token.current more = Token.current _ := admits.resolve_right (by simp)
    rw [← same] at opens
    exact ⟨.wait frame opens free, .inl (current_append fun _ => same)⟩
  | number kind => exact ⟨.number kind, .inl rfl⟩
  | «variable» kind => exact ⟨.variable kind, .inl rfl⟩
  | call calls =>
    refine ⟨.call calls, .inl (current_append ?_)⟩
    -- a call takes its closing parenthesis
    cases calls <;> simp
  | complain complains =>
    have ahead := complains.looksAhead
    have same : Token.current more = Token.current _ := admits.resolve_right (by simp [ahead])
    rw [← same] at complains ⊢
    exact ⟨.complain complains, .inl (current_append fun _ => same)⟩
  | divide fails =>
    have ahead := looksAhead_of_apply fails
    exact ⟨.divide fails, .inl (admits.resolve_right (by simp [ahead]))⟩
  | goOn joins found level => exact ⟨.goOn joins found level, .inl rfl⟩
  | separate kind => exact ⟨.separate kind, .inl rfl⟩
  | pass passes =>
    have same : Token.current more = Token.current _ := admits.resolve_right (by simp)
    rw [← same] at passes
    exact ⟨.pass passes, .inl (current_append fun _ => same)⟩
  | fail => exact ⟨.fail, admits⟩

/-- **What an evaluation has come to does not depend on what is behind the next token.** -/
theorem Trace.replace (trace : Trace limit scope s taken calls t) (admits : t.Admits more) :
    Trace limit scope { s with rest := taken ++ more } taken calls { t with rest := more } := by
  induction trace generalizing more with
  | start => exact .start
  | step trace transition ih =>
    obtain ⟨transition', admits'⟩ := transition.replace admits
    rw [List.append_assoc]
    exact .step (ih admits') transition'

/-- An evaluation ends with what it has come to when no procedure waits. -/
theorem Trace.run_eq {result : Except Diagnostic Float} {depth : Nat}
    (trace : Trace limit scope s taken calls ⟨.leave result, [], rest, depth, memory⟩) :
    run limit scope s = ⟨result, rest, memory⟩ :=
  trace.runs.run_eq.trans (run_of_end rfl)

/-- Where the same tokens have been taken and the next one is the same, unless it does not matter,
an evaluation fails in the same way. -/
theorem Trace.finish_eq {tokens : List Token} {result : Except Diagnostic Float} {depth : Nat}
    {d : Diagnostic}
    (trace : Trace limit scope (Descent.start tokens memory) taken calls
      ⟨.leave result, [], rest, depth, memory'⟩)
    (failed : (Outcome.finish ⟨result, rest, memory'⟩).1 = .error d)
    (same : d.problem.looksAhead = true → Token.current more = Token.current rest) :
    (run limit scope (Descent.start (taken ++ more) memory)).finish = (.error d, memory') := by
  cases result with
  | error d' =>
    cases failed
    have admits : (⟨.leave (.error d), [], rest, depth, memory'⟩ : State σ).Admits more := by
      cases ahead : d.problem.looksAhead with
      | true => exact .inl (same ahead)
      | false => exact .inr ⟨d, rfl, ahead⟩
    rw [show run limit scope (Descent.start (taken ++ more) memory) = ⟨.error d, more, memory'⟩ from
      (trace.replace admits).run_eq]
    rfl
  | ok v =>
    simp only [Outcome.finish] at failed
    split at failed
    · cases failed
    · rename_i other
      cases failed
      have current := same rfl
      rw [show run limit scope (Descent.start (taken ++ more) memory) = ⟨.ok v, more, memory'⟩ from
        (trace.replace (.inl current)).run_eq]
      simp only [Outcome.finish, current, if_neg other]

/-! ## Tokens that agree -/

/-- Lists that agree before an index begin alike. -/
theorem take_eq_of_agree {α : Type} {xs ys : List α} {n : Nat}
    (agree : ∀ i < n, ys[i]? = xs[i]?) : ys.take n = xs.take n := by
  refine List.ext_getElem? fun i => ?_
  by_cases inside : i < n
  · simp [inside, agree i inside]
  · simp [inside]

/-- Tokens that agree at an index have the same current token there. -/
theorem current_drop_of_agree {tokens other : List Token} {i : Nat}
    (agree : other[i]? = tokens[i]?) :
    Token.current (other.drop i) = Token.current (tokens.drop i) := by
  have current (tokens : List Token) : Token.current tokens = tokens.head?.getD (.finish 0) := by
    cases tokens <;> rfl
  rw [current, current, List.head?_drop, List.head?_drop, agree]

end Descent

open Descent in
/-- **A failure depends on no token that has not been looked at.** Evaluating the tokens fails where
a number of them has been taken. What is raised there is about the next token; about the division
whose right operand ends there, before a token that it does not take in; about the last token taken,
a number or a variable; or about a call that the last token taken closes. Any other tokens that
agree up to and including the next token, or the last one taken in the case of a number, a variable
or a call, fail in the same way; where the tokens have ended at one of these indexes, the others
have to have ended too. -/
theorem evaluate_error_of_agree {σ : Type} (scope : Scope σ) (tokens : List Token)
    (memory memory' : σ) (d : Diagnostic)
    (failed : (evaluate scope tokens).run.run memory = (.error d, memory')) :
    let taken := takenFrom maxLevels scope tokens memory
    d.IsRaised scope memory taken (invocations maxLevels scope (start tokens memory))
      (Token.current (tokens.drop taken.length)) ∧
    ∀ other : List Token,
      (∀ i ≤ d.problem.lastIndex taken.length, other[i]? = tokens[i]?) →
      (evaluate scope other).run.run memory = (.error d, memory') := by
  intro taken
  obtain ⟨depth, trace⟩ := exists_trace maxLevels scope tokens memory
  rw [run_evaluate_eq_finish] at failed
  change Trace _ _ _ taken _ _ at trace
  generalize run maxLevels scope (start tokens memory) = outcome at failed trace
  obtain ⟨result, rest, between⟩ := outcome
  obtain rfl : between = memory' := (Outcome.finish_memory _).symm.trans (congrArg Prod.snd failed)
  have ended := congrArg Prod.fst failed
  have raised := trace.isRaised ended
  have written : tokens = taken ++ rest := trace.rest_eq
  clear_value taken
  have front : tokens.take taken.length = taken := by rw [written, List.take_left]
  have behind : tokens.drop taken.length = rest := by rw [written, List.drop_left]
  refine ⟨by rwa [behind], fun other agree => ?_⟩
  -- the other tokens begin with those that have been taken
  have inside : ∀ i < taken.length, other[i]? = tokens[i]? := by
    refine fun i less => agree i ?_
    rw [Problem.lastIndex]
    split <;> omega
  have begins : other.take taken.length = taken := by rw [take_eq_of_agree inside, front]
  have next : d.problem.looksAhead = true →
      Token.current (other.drop taken.length) = Token.current rest := by
    intro ahead
    rw [← behind]
    exact current_drop_of_agree (agree taken.length (by simp [Problem.lastIndex, ahead]))
  rw [run_evaluate_eq_finish, ← List.take_append_drop taken.length other, begins]
  exact trace.finish_eq ended next

/-- A variable without a value is reported whatever is written behind it. -/
theorem evaluate_error_of_agree_variable :
    let scope : Scope Unit := ⟨.empty, ∅⟩
    let x : Token := ⟨.variable, "x", 0⟩
    (evaluate scope [x]).run.run () = (.error ⟨.unknownVariable "x", 0⟩, ()) ∧
      ∀ more, (evaluate scope (x :: more)).run.run () = (.error ⟨.unknownVariable "x", 0⟩, ()) := by
  intro scope x
  have failed : (evaluate scope [x]).run.run () = (.error ⟨.unknownVariable "x", 0⟩, ()) := by
    with_unfolding_all rfl
  refine ⟨failed, fun more => (evaluate_error_of_agree scope [x] () () _ failed).2 _ ?_⟩
  -- no more than the one token has been taken
  intro i le
  have few : (Descent.takenFrom maxLevels scope [x] ()).length ≤ 1 := List.length_take_le' _ _
  have first : i ≤ (Descent.takenFrom maxLevels scope [x] ()).length - 1 := le
  obtain rfl : i = 0 := by omega
  rfl

end Reckoner
