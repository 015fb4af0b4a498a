import Reckoner.Proofs.TreeSemantics

/-! # Where the failures of a tree are

`Evaluation.Fails` says that a computation can end with a diagnostic. The diagnostics with which the
value of a tree can end are about tokens of the tree (`Diagnostic.Within`): about a number, about a
variable, about the sign of a division whose right operand is complete, or about the name of a call
that is complete (`Derives.located`). -/

namespace Reckoner

/-! ## Computations that fail -/

namespace Evaluation

variable {σ α β : Type} {x : Evaluation σ α} {f : α → Evaluation σ β} {d : Diagnostic}

/-- From some memory the computation ends with the diagnostic. -/
def Fails (x : Evaluation σ α) (d : Diagnostic) : Prop :=
  ∃ memory memory', x.run.run memory = (.error d, memory')

/-- After a step with a value comes the second one, from where the first one ended. -/
theorem run_bind_of_ok {a : α} {memory between : σ}
    (first : x.run.run memory = (.ok a, between)) :
    (x >>= f).run.run memory = (f a).run.run between := by
  rw [ExceptT.run_bind, StateT.run_bind, first]
  rfl

/-- After a step with a diagnostic comes nothing. -/
theorem run_bind_of_error {memory between : σ}
    (first : x.run.run memory = (.error d, between)) :
    (x >>= f).run.run memory = (.error d, between) := by
  rw [ExceptT.run_bind, StateT.run_bind, first]
  rfl

/-- Two steps give a value when both do, the second one from where the first one ended. -/
theorem run_bind_eq_ok {b : β} {memory memory' : σ} :
    (x >>= f).run.run memory = (.ok b, memory') ↔
      ∃ a between, x.run.run memory = (.ok a, between) ∧
        (f a).run.run between = (.ok b, memory') := by
  constructor
  · intro run
    rcases first : x.run.run memory with ⟨cause | a, between⟩
    · rw [run_bind_of_error first] at run
      cases run
    · rw [run_bind_of_ok first] at run
      exact ⟨a, between, rfl, run⟩
  · rintro ⟨a, between, first, second⟩
    rw [run_bind_of_ok first, second]

/-- Two steps end with a diagnostic when the first one does, or when the second one does from where
the first one ended with a value. -/
theorem run_bind_eq_error {memory memory' : σ} :
    (x >>= f).run.run memory = (.error d, memory') ↔
      x.run.run memory = (.error d, memory') ∨
      ∃ a between, x.run.run memory = (.ok a, between) ∧
        (f a).run.run between = (.error d, memory') := by
  constructor
  · intro run
    rcases first : x.run.run memory with ⟨cause | a, between⟩
    · rw [run_bind_of_error first] at run
      cases run
      exact .inl rfl
    · rw [run_bind_of_ok first] at run
      exact .inr ⟨a, between, rfl, run⟩
  · rintro (first | ⟨a, between, first, second⟩)
    · exact run_bind_of_error first
    · rw [run_bind_of_ok first, second]

/-- Two steps fail when the first does or the second one after it. -/
theorem Fails.of_bind (fails : Fails (x >>= f) d) : Fails x d ∨ ∃ a, Fails (f a) d := by
  obtain ⟨memory, memory', run⟩ := fails
  rcases run_bind_eq_error.1 run with failed | ⟨a, between, _, failed⟩
  · exact .inl ⟨memory, memory', failed⟩
  · exact .inr ⟨a, between, memory', failed⟩

/-- A value is no failure. -/
theorem not_fails_pure (a : α) : ¬ Fails (pure a : Evaluation σ α) d := by
  rintro ⟨memory, memory', run⟩
  cases run

/-- What is raised is the diagnostic. -/
theorem Fails.of_throw {cause : Diagnostic} (fails : Fails (throw cause : Evaluation σ α) d) :
    d = cause := by
  obtain ⟨memory, memory', run⟩ := fails
  cases run
  rfl

/-- A result without calls fails as it is. -/
theorem Fails.of_ofExcept {result : Except Diagnostic α}
    (fails : Fails (ofExcept result : Evaluation σ α) d) : result = .error d := by
  cases result with
  | error cause => rw [fails.of_throw]
  | ok a => exact absurd fails (not_fails_pure a)

/-- What is done with the value of a step does not make it fail. -/
theorem Fails.of_bind_pure {g : α → β} (fails : Fails (x >>= fun a => pure (g a)) d) :
    Fails x d := by
  rcases fails.of_bind with fails | ⟨a, fails⟩
  · exact fails
  · exact absurd fails (not_fails_pure _)

end Evaluation

open Evaluation

/-! ## Diagnostics about tokens -/

/-- The diagnostic is about one of the tokens, and what it speaks of is complete before the token
that comes next. -/
def Diagnostic.Within (d : Diagnostic) (tokens : List Token) (next : Token) : Prop :=
  match d.problem with
  | .malformedNumber => ∃ token ∈ tokens, token.kind = .number ∧ d.position = token.position
  | .unknownVariable name =>
    ∃ token ∈ tokens, token.kind = .variable ∧ token.text = name ∧ d.position = token.position
  | .divisionByZero =>
    ∃ before slash right after e, tokens = before ++ slash :: (right ++ after) ∧
      slash.op? = some .divide ∧ d.position = slash.position ∧ Derives .power right e ∧
      Phrase.EndsBefore .power (Token.current (after ++ [next]))
  | .failedCall name _ =>
    ∃ before token arguments after e, tokens = before ++ (token :: arguments) ++ after ∧
      Derives .call (token :: arguments) e ∧ token.text = name ∧ d.position = token.position
  | _ => False

/-- A diagnostic about some tokens is about those around them as well. -/
theorem Diagnostic.Within.widen {d : Diagnostic} {tokens : List Token} {next next' : Token}
    (within : d.Within tokens next) (before after : List Token)
    (follows : Token.current (after ++ [next']) = next) :
    d.Within (before ++ tokens ++ after) next' := by
  unfold Within at within ⊢
  split at within
  · obtain ⟨token, member, rest⟩ := within
    exact ⟨token, by simp [member], rest⟩
  · obtain ⟨token, member, rest⟩ := within
    exact ⟨token, by simp [member], rest⟩
  · obtain ⟨before', slash, right, after', e, rfl, found, position, derives, ends⟩ := within
    refine ⟨before ++ before', slash, right, after' ++ after, e, by simp, found, position, derives,
      ?_⟩
    cases after' with
    | nil =>
      rw [List.nil_append, Token.current_cons, ← follows] at ends
      exact ends
    | cons token after' => exact ends
  · obtain ⟨before', token, arguments, after', e, rfl, rest⟩ := within
    exact ⟨before ++ before', token, arguments, after' ++ after, e, by simp, rest⟩
  · exact within.elim

/-! ## Diagnostics of trees -/

variable {σ : Type} {scope : Scope σ}

/-- Whatever diagnostic the value of the tree ends with is about the tokens. -/
def Expr.Located (scope : Scope σ) (tokens : List Token) (next : Token) (e : Expr) : Prop :=
  ∀ d, Fails (e.value scope) d → d.Within tokens next

/-- A division fails for want of a divisor, the other operators never. -/
theorem Op.apply_eq_error {op : Op} {position : Nat} {left right : Float} {d : Diagnostic}
    (failed : op.apply position left right = .error d) :
    op = .divide ∧ d = ⟨.divisionByZero, position⟩ := by
  cases op with
  | divide =>
    rw [Op.apply] at failed
    split at failed
    · cases failed
      exact ⟨rfl, rfl⟩
    · cases failed
  | _ => cases failed

/-- A call fails at its name. -/
theorem Scope.fails_call {name : String} {position : Nat} {values : List Float} {d : Diagnostic}
    (fails : Fails (scope.call name position values) d) :
    ∃ cause, d = ⟨.failedCall name cause, position⟩ := by
  obtain ⟨memory, memory', run⟩ := fails
  have failed : ((scope.functions.invoke name values).run.run memory).1.mapError
      (fun cause => ⟨.failedCall name cause, position⟩) = .error d := congrArg Prod.fst run
  cases called : ((scope.functions.invoke name values).run.run memory).1 with
  | ok v =>
    rw [called] at failed
    cases failed
  | error cause =>
    rw [called] at failed
    cases failed
    exact ⟨cause, rfl⟩

/-- The values of two lists of trees fail in one of them. -/
theorem Expr.fails_values_append {es fs : List Expr} {d : Diagnostic}
    (fails : Fails (Expr.values scope (es ++ fs)) d) :
    Fails (Expr.values scope es) d ∨ Fails (Expr.values scope fs) d := by
  rw [Expr.values_append] at fails
  rcases fails.of_bind with fails | ⟨vs, fails⟩
  · exact .inl fails
  · exact .inr fails.of_bind_pure

/-- The value of one tree fails where the tree does. -/
theorem Expr.fails_values_singleton {e : Expr} {d : Diagnostic}
    (fails : Fails (Expr.values scope [e]) d) : Fails (e.value scope) d := by
  rw [Expr.values] at fails
  rcases fails.of_bind with fails | ⟨v, fails⟩
  · exact fails
  · exact absurd fails.of_bind_pure (not_fails_pure _)

/-- The diagnostics of a chain are about its parts or about a division. -/
theorem Chain.located {level : Level} {tokens : List Token} {e : Expr} {next : Token}
    (parts : Chain level (fun tokens e => ∃ _ : Derives level.part tokens e,
      ∀ next, level.part.EndsBefore next → e.Located scope tokens next) tokens e)
    (ends : level.part.EndsBefore next) : e.Located scope tokens next := by
  induction parts generalizing next with
  | first part =>
    obtain ⟨_, located⟩ := part
    exact located next ends
  | @joined before token op after left right _ found same part ih =>
    obtain ⟨derives, located⟩ := part
    intro d fails
    rw [Expr.value] at fails
    rcases fails.of_bind with fails | ⟨x, fails⟩
    · have within := ih (Phrase.part_endsBefore found same) d fails
      exact within.widen [] (token :: after) rfl
    rcases fails.of_bind with fails | ⟨y, fails⟩
    · have within := located next ends d fails
      simpa using within.widen (before ++ [token]) [] rfl
    · obtain ⟨rfl, rfl⟩ := Op.apply_eq_error fails.of_ofExcept
      subst same
      exact ⟨before, token, after, [], right, by simp, found, rfl, derives, ends⟩

/-- The diagnostics of arguments are about one of them. -/
theorem Separated.located {tokens : List Token} {es : List Expr} {next : Token}
    (arguments : Separated (fun tokens e => ∃ _ : Derives .expression tokens e,
      ∀ next, Phrase.EndsBefore .expression next → e.Located scope tokens next) tokens es)
    (ends : Phrase.EndsBefore .expression next) {d : Diagnostic}
    (fails : Fails (Expr.values scope es) d) : d.Within tokens next := by
  induction arguments generalizing next with
  | one argument =>
    obtain ⟨_, located⟩ := argument
    exact located next ends d (Expr.fails_values_singleton fails)
  | @more before es comma tokens e _ kind argument ih =>
    obtain ⟨_, located⟩ := argument
    rcases Expr.fails_values_append fails with fails | fails
    · have endsComma : Phrase.EndsBefore .expression comma :=
        Phrase.endsBefore_of_kind (by simp [kind])
      have within := ih endsComma fails
      exact within.widen [] (comma :: tokens) rfl
    · have within := located next ends d (Expr.fails_values_singleton fails)
      simpa using within.widen (before ++ [comma]) [] rfl

/-- **The diagnostics of a phrase are about its tokens.** They speak of what is complete before the
token that comes next, if the last part of the phrase is. -/
theorem Derives.located {phrase : Phrase} {tokens : List Token} {e : Expr}
    (derives : Derives phrase tokens e) (next : Token) (ends : phrase.EndsBefore next) :
    e.Located scope tokens next := by
  induction derives using Derives.induct generalizing next with
  | chain derives parts =>
    clear derives
    exact Chain.located parts ends.part
  | @signed token sign tokens e found operand ih =>
    intro d fails
    rw [Expr.value] at fails
    have within := ih next (Phrase.operand_endsBefore next) d fails.of_bind_pure
    simpa using within.widen [token] [] rfl
  | unsigned _ ih => exact ih next fun _ _ => rfl
  | @number token kind =>
    intro d fails
    rw [Expr.value] at fails
    have failed := fails.of_ofExcept
    rw [Scope.literal] at failed
    split at failed
    · cases failed
    · cases failed
      exact ⟨token, by simp, kind, rfl⟩
  | @var token kind =>
    intro d fails
    rw [Expr.value] at fails
    have failed := fails.of_ofExcept
    rw [Scope.lookup] at failed
    split at failed
    · cases failed
    · cases failed
      exact ⟨token, by simp, kind, rfl, rfl⟩
  | call _ ih => exact ih next fun _ _ => rfl
  | @grouped opening tokens e closing opens inner closes ih =>
    intro d fails
    rw [Expr.value] at fails
    have within := ih closing (Phrase.endsBefore_of_kind (by simp [closes])) d fails
    simpa using within.widen [opening] [closing] rfl
  | @withoutArguments name opening closing function opens closes =>
    intro d fails
    rw [Expr.value] at fails
    rcases fails.of_bind with fails | ⟨vs, fails⟩
    · exact absurd fails (not_fails_pure _)
    · obtain ⟨cause, rfl⟩ := Scope.fails_call fails
      exact ⟨[], name, [opening, closing], [], _, rfl, .withoutArguments function opens closes, rfl,
        rfl⟩
  | @withArguments name opening tokens es closing function opens separated closes arguments =>
    intro d fails
    rw [Expr.value] at fails
    rcases fails.of_bind with fails | ⟨vs, fails⟩
    · have endsClosing : Phrase.EndsBefore .expression closing :=
        Phrase.endsBefore_of_kind (by simp [closes])
      have within := Separated.located arguments endsClosing fails
      simpa using within.widen [name, opening] [closing] rfl
    · obtain ⟨cause, rfl⟩ := Scope.fails_call fails
      exact ⟨[], name, opening :: (tokens ++ [closing]), [], _, by simp,
        .withArguments function opens separated closes, rfl, rfl⟩

end Reckoner
