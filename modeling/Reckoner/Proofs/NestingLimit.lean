import Reckoner.Proofs.DescentReading

/-! # The limit on nesting only cuts evaluations short

Two evaluations with different limits go through the same states until an operand is entered while
as many are open as the lower limit allows. So an evaluation that is not cut short by its limit is
the same with every higher limit, and it is cut short exactly where the evaluation without a limit
first opens one operand more (`evaluate_limit`). The counter can be relied on since it is the number
of operand frames at every moment, whether procedures are left with values or with failures
(`Move.counted`). How many operands an expression opens is its nesting. -/

namespace Reckoner.Descent

open Evaluation

variable {σ : Type} {limit limit' : ℕ∞} {scope : Scope σ} {s s' t : State σ}

/-! ## The counter -/

theorem opened_cons (frame : Frame) (frames : List Frame) :
    opened (frame :: frames) = frame.counted + opened frames := rfl

/-- The counter tells how many operands are open, and these are no more than the limit. -/
structure State.Counted (limit : ℕ∞) (s : State σ) : Prop where
  depth : s.depth = opened s.frames
  le : (s.depth : ℕ∞) ≤ limit

/-- Nothing is open at the start. -/
theorem counted_start (limit : ℕ∞) (tokens : List Token) (memory : σ) :
    (start tokens memory).Counted limit := ⟨rfl, zero_le⟩

/-- Every move keeps the count. -/
theorem Move.counted (move : Move limit s s') (counted : s.Counted limit) : s'.Counted limit := by
  obtain ⟨depth, le⟩ := counted
  cases move with
  | @descend _ _ _ depth' frame _ counts =>
    refine ⟨?_, ?_⟩
    · simp only at depth
      rw [opened_cons, ← depth, Nat.add_comm]
    · by_cases operand : frame = .operand
      · subst operand
        have less : (depth' : ℕ∞) < limit := lt_of_le_of_ne le (counts rfl)
        exact Order.add_one_le_of_lt less
      · have none : frame.counted = 0 := by
          unfold Frame.counted
          split
          · exact absurd rfl operand
          · rfl
        rwa [none]
  | finish => exact ⟨depth, le⟩
  | again frame next _ uncounted uncounted' =>
    refine ⟨?_, le⟩
    simp only [opened_cons, uncounted, uncounted', Nat.zero_add] at depth ⊢
    exact depth
  | leave frame =>
    refine ⟨?_, le_trans (Nat.cast_le.2 (Nat.sub_le _ _)) le⟩
    simp only [opened_cons] at depth
    rw [depth, Nat.add_sub_cancel_left]

/-- The count is kept throughout an evaluation. -/
theorem Runs.counted (runs : Runs limit scope s t) (counted : s.Counted limit) :
    t.Counted limit := by
  induction runs with
  | refl => exact counted
  | tail _ stepped ih => exact (move_of_step stepped).counted ih

/-! ## Operands past a limit -/

section Operand

variable {frames : List Frame} {rest : List Token} {depth : Nat} {memory : σ}

/-- At the limit no operand is opened. -/
theorem step_operand_of_eq (full : (depth : ℕ∞) = limit) :
    step limit scope ⟨.enter .operand, frames, rest, depth, memory⟩ =
      .inl ⟨.leave (.error ⟨.nestedTooDeeply, (Token.current rest).position⟩), frames, rest, depth,
        memory⟩ := by
  simp only [step, enter, if_pos full]
  rfl

/-- Before the limit an operand is opened. -/
theorem step_operand_of_ne (free : (depth : ℕ∞) ≠ limit) :
    step limit scope ⟨.enter .operand, frames, rest, depth, memory⟩ =
      .inl ⟨.enter .signed, .operand :: frames, rest, depth + 1, memory⟩ := by
  simp only [step, enter, if_neg free]
  rfl

end Operand

/-- The state enters an operand while the given number is open. -/
def State.OpensPast (levels : Nat) (s : State σ) : Prop :=
  s.mode = .enter .operand ∧ opened s.frames = levels

/-- The limit is looked at only when an operand is entered. -/
theorem step_congr (same : s.mode = .enter .operand →
      ((s.depth : ℕ∞) = limit ↔ (s.depth : ℕ∞) = limit')) :
    step limit scope s = step limit' scope s := by
  obtain ⟨mode, frames, rest, depth, memory⟩ := s
  cases mode with
  | leave result => cases frames <;> cases result <;> rfl
  | enter procedure =>
    cases procedure with
    | operand => simp only [step, enter, same rfl]
    | _ => rfl

/-- With a higher limit the step is the same, unless the limit is reached. -/
theorem step_eq_of_le (scope : Scope σ) {levels : Nat} (counted : s.Counted levels)
    (le : (levels : ℕ∞) ≤ limit) (free : ¬ s.OpensPast levels) :
    step levels scope s = step limit scope s := by
  refine step_congr fun entered => ?_
  have other : s.depth ≠ levels := fun same => free ⟨entered, counted.depth ▸ same⟩
  have less : (s.depth : ℕ∞) < levels := lt_of_le_of_ne counted.le (by exact_mod_cast other)
  exact iff_of_false (ne_of_lt less) (ne_of_lt (lt_of_lt_of_le less le))

/-- Where the limit is reached, the evaluation is cut short. -/
theorem run_of_opensPast {levels : Nat} (counted : s.Counted levels) (past : s.OpensPast levels) :
    run levels scope s =
      ⟨.error ⟨.nestedTooDeeply, (Token.current s.rest).position⟩, s.rest, s.memory⟩ := by
  obtain ⟨mode, frames, rest, depth, memory⟩ := s
  obtain ⟨rfl, opens⟩ := past
  have full : (depth : ℕ∞) = levels := by
    rw [show depth = _ from counted.depth]
    exact congrArg Nat.cast opens
  rw [run_of_step (step_operand_of_eq full), run_leave_error]

/-- Evaluations with two limits end with the same unless the lower one cuts short. -/
theorem isTooDeep_or_run_eq (scope : Scope σ) {levels : Nat} (le : (levels : ℕ∞) ≤ limit)
    (counted : s.Counted levels) :
    IsTooDeep (run levels scope s).result ∨ run levels scope s = run limit scope s := by
  induction s using WellFounded.induction (measure State.potential).wf with
  | _ s ih =>
    by_cases past : s.OpensPast levels
    · rw [run_of_opensPast counted past]
      exact .inl ⟨_, rfl⟩
    · have same := step_eq_of_le scope counted le past
      cases stepped : step levels scope s with
      | inl s' =>
        have move := move_of_step stepped
        rw [run_of_step stepped, run_of_step (same.symm.trans stepped)]
        exact ih s' move.potential_lt (move.counted counted)
      | inr outcome =>
        rw [run_of_end stepped, run_of_end (same.symm.trans stepped)]
        exact .inr rfl

/-! ## Where an evaluation is cut short -/

/-- Of all states of the evaluation without a limit, the state is the first one that enters an
operand while the given number is open. -/
structure IsFirstPast (scope : Scope σ) (levels : Nat) (s t : State σ) : Prop where
  reached : Runs ⊤ scope s t
  past : t.OpensPast levels
  first : ∀ u, Runs ⊤ scope s u → u.OpensPast levels → Runs ⊤ scope t u

/-- What is left is no failure of the depth. -/
def State.Shallow (s : State σ) : Prop := ∀ result, s.mode = .leave result → ¬ IsTooDeep result

/-- A failure of the depth comes up only where the limit is reached. -/
theorem Move.shallow {levels : Nat} (move : Move levels s s') (counted : s.Counted levels)
    (shallow : s.Shallow) (free : ¬ s.OpensPast levels) : s'.Shallow := by
  intro result left
  cases move with
  | descend => cases left
  | finish _ _ deep =>
    cases left
    intro failed
    obtain ⟨rfl, full⟩ := deep failed
    exact free ⟨rfl, counted.depth ▸ Nat.cast_inj.1 full⟩
  | again => cases left
  | leave _ _ _ deep =>
    cases left
    intro failed
    obtain rfl := deep failed
    exact shallow _ rfl failed

/-- Nothing comes before the state that a state steps to. -/
theorem Runs.of_step {u : State σ} (stepped : step limit scope s = .inl s')
    (runs : Runs limit scope s u) : u = s ∨ Runs limit scope s' u := by
  rcases Relation.ReflTransGen.cases_head runs with rfl | ⟨next, again, runs⟩
  · exact .inl rfl
  · rw [stepped] at again
    cases again
    exact .inr runs

/-- An evaluation with a limit is cut short where the one without a limit first opens one operand
more, or it is not cut short and the other one never does. -/
theorem exists_isFirstPast_or (scope : Scope σ) {levels : Nat} (counted : s.Counted levels)
    (shallow : s.Shallow) :
    (∃ t, IsFirstPast scope levels s t ∧ run levels scope s =
      ⟨.error ⟨.nestedTooDeeply, (Token.current t.rest).position⟩, t.rest, t.memory⟩) ∨
    ((∀ t, Runs ⊤ scope s t → t.Counted levels ∧ ¬ t.OpensPast levels) ∧
      ¬ IsTooDeep (run levels scope s).result) := by
  induction s using WellFounded.induction (measure State.potential).wf with
  | _ s ih =>
    by_cases past : s.OpensPast levels
    · exact .inl ⟨s, ⟨.refl, past, fun _ runs _ => runs⟩, run_of_opensPast counted past⟩
    · have same := step_eq_of_le scope counted (le_top : (levels : ℕ∞) ≤ ⊤) past
      cases stepped : step levels scope s with
      | inl s' =>
        have move := move_of_step stepped
        have above : step ⊤ scope s = .inl s' := same.symm.trans stepped
        rw [run_of_step stepped]
        rcases ih s' move.potential_lt (move.counted counted) (move.shallow counted shallow past)
          with ⟨t, ⟨reached, pastT, first⟩, ended⟩ | ⟨never, ended⟩
        · refine .inl ⟨t, ⟨.head above reached, pastT, fun u runs pastU => ?_⟩, ended⟩
          rcases Runs.of_step above runs with rfl | runs
          · exact absurd pastU past
          · exact first u runs pastU
        · refine .inr ⟨fun t runs => ?_, ended⟩
          rcases Runs.of_step above runs with rfl | runs
          · exact ⟨counted, past⟩
          · exact never t runs
      | inr outcome =>
        refine .inr ⟨fun t runs => ?_, ?_⟩
        · rcases Relation.ReflTransGen.cases_head runs with rfl | ⟨next, again, _⟩
          · exact ⟨counted, past⟩
          · rw [← same, stepped] at again
            cases again
        · rw [run_of_end stepped]
          obtain ⟨mode, frames, rest, depth, memory⟩ := s
          cases mode with
          | enter procedure => cases stepped
          | leave result =>
            cases frames with
            | nil =>
              cases result <;> cases stepped <;> exact shallow _ rfl
            | cons frame frames => cases result <;> cases stepped

/-- A later state of an evaluation has less left to use up. -/
theorem Runs.eq_or_potential_lt (runs : Runs limit scope s t) :
    s = t ∨ t.potential < s.potential := by
  induction runs with
  | refl => exact .inl rfl
  | tail _ stepped ih =>
    have lower := (move_of_step stepped).potential_lt
    rcases ih with rfl | ih
    · exact .inr lower
    · exact .inr (Nat.lt_trans lower ih)

/-- An evaluation does not come back to a state. -/
theorem Runs.antisymm (runs : Runs limit scope s t) (back : Runs limit scope t s) : s = t := by
  rcases Runs.eq_or_potential_lt runs with same | lower
  · exact same
  · rcases Runs.eq_or_potential_lt back with same | lower'
    · exact same.symm
    · exact absurd (Nat.lt_trans lower lower') (Nat.lt_irrefl _)

/-- There is one first state past a limit at most. -/
theorem IsFirstPast.unique {levels : Nat} {t' : State σ} (first : IsFirstPast scope levels s t)
    (first' : IsFirstPast scope levels s t') : t = t' :=
  Runs.antisymm (first.first t' first'.reached first'.past)
    (first'.first t first.reached first.past)

/-! ## Token sequences -/

section Tokens

variable {tokens : List Token} {memory memory' : σ} {levels position : Nat} {e : Expr} {v : Float}

/-- What is evaluated by descent is what the run from the start ends with. -/
theorem run_evaluate (limit : ℕ∞) (scope : Scope σ) (tokens : List Token) (memory : σ) :
    (evaluate limit scope tokens).run.run memory =
      (run limit scope (start tokens memory)).finish := rfl

/-- Tokens have the value that the run from the start ends with. -/
theorem run_evaluate_eq_finish (scope : Scope σ) (tokens : List Token) (memory : σ) :
    (Reckoner.evaluate scope tokens).run.run memory =
      (run maxLevels scope (start tokens memory)).finish := by
  rw [Reckoner.evaluate, ← evaluate_eq_evaluateWithin, run_evaluate]

/-- What comes after the expression leaves the memory alone. -/
theorem Outcome.finish_memory (outcome : Outcome σ) : outcome.finish.2 = outcome.memory := by
  obtain ⟨result, rest, memory⟩ := outcome
  cases result with
  | error d => rfl
  | ok v =>
    simp only [finish]
    split <;> rfl

/-- Too deep nesting is never what is wrong behind an expression. -/
theorem Outcome.finish_eq_nestedTooDeeply {outcome : Outcome σ} :
    outcome.finish = (.error ⟨.nestedTooDeeply, position⟩, memory') ↔
      outcome.result = .error ⟨.nestedTooDeeply, position⟩ ∧ outcome.memory = memory' := by
  obtain ⟨result, rest, memory⟩ := outcome
  cases result with
  | error d => simp [finish]
  | ok v =>
    rw [finish]
    by_cases ends : (Token.current rest).kind = .endOfInput <;> simp [ends]

/-- Every start is shallow, as nothing has been left. -/
theorem shallow_start (tokens : List Token) (memory : σ) : (start tokens memory).Shallow :=
  fun _ left => by cases left

/-- What does not end with too deep nesting ends in the same way with every higher limit. -/
theorem run_evaluate_of_le (le : (levels : ℕ∞) ≤ limit)
    (settled : ¬ IsTooDeep ((evaluate levels scope tokens).run.run memory).1) :
    (evaluate limit scope tokens).run.run memory =
      (evaluate levels scope tokens).run.run memory := by
  rw [run_evaluate, run_evaluate]
  rcases isTooDeep_or_run_eq scope le (counted_start levels tokens memory) with
    ⟨position, failed⟩ | same
  · refine absurd ⟨position, ?_⟩ settled
    rw [run_evaluate, Outcome.finish_eq_nestedTooDeeply.2 ⟨failed, rfl⟩]
  · rw [same]

/-- Too deep nesting is reported where the first operand past the limit is entered. -/
theorem run_evaluate_eq_nestedTooDeeply :
    (evaluate levels scope tokens).run.run memory =
        (.error ⟨.nestedTooDeeply, position⟩, memory') ↔
      ∃ t, IsFirstPast scope levels (start tokens memory) t ∧
        (Token.current t.rest).position = position ∧ t.memory = memory' := by
  have counted := counted_start levels tokens memory
  have shallow := shallow_start tokens memory
  rw [run_evaluate, Outcome.finish_eq_nestedTooDeeply]
  rcases exists_isFirstPast_or scope counted shallow with
    ⟨t, first, ended⟩ | ⟨never, ended⟩
  · rw [ended]
    constructor
    · rintro ⟨same, rfl⟩
      cases same
      exact ⟨t, first, rfl, rfl⟩
    · rintro ⟨t', first', rfl, rfl⟩
      obtain rfl := first.unique first'
      exact ⟨rfl, rfl⟩
  · refine iff_of_false (fun failed => ended ⟨position, failed.1⟩) ?_
    rintro ⟨t, first, _⟩
    exact (never t first.reached).2 first.past

/-- Within its own nesting an expression has the value of its tree. -/
theorem evaluate_eq_value (derives : Derives .expression (Token.beforeEnd tokens) e)
    (enough : e.nesting ≤ levels) : evaluate levels scope tokens = e.value scope := by
  rw [evaluate_eq_evaluateWithin, evaluateWithin_eq_valueWithin scope derives,
    Expr.valueWithin_eq_value scope enough]

/-- Within its own nesting an expression is never too deep. -/
theorem not_isTooDeep_of_derives (derives : Derives .expression (Token.beforeEnd tokens) e)
    (enough : e.nesting ≤ levels) :
    ¬ IsTooDeep ((evaluate levels scope tokens).run.run memory).1 := by
  rintro ⟨position, failed⟩
  rw [evaluate_eq_value derives enough] at failed
  have ends : Phrase.EndsBefore .expression (Token.finish 0) :=
    Phrase.endsBefore_of_op?_eq_none (Token.op?_finish 0)
  exact derives.located _ ends _ ⟨memory, _, Prod.ext failed rfl⟩

/-- Without a limit an expression has the value of its tree. -/
theorem run_evaluate_top (derives : Derives .expression (Token.beforeEnd tokens) e) :
    (evaluate ⊤ scope tokens).run.run memory = (e.value scope).run.run memory := by
  have settled := @not_isTooDeep_of_derives σ scope tokens memory e.nesting e derives
    (Nat.le_refl _)
  rw [run_evaluate_of_le le_top settled, evaluate_eq_value derives (Nat.le_refl _)]

/-- An expression has no more operands open at a time than it nests. -/
theorem opened_le_nesting (derives : Derives .expression (Token.beforeEnd tokens) e)
    (runs : Runs ⊤ scope (start tokens memory) t) : opened t.frames ≤ e.nesting := by
  have settled := @not_isTooDeep_of_derives σ scope tokens memory e.nesting e derives
    (Nat.le_refl _)
  rcases exists_isFirstPast_or scope (counted_start e.nesting tokens memory)
    (shallow_start tokens memory) with ⟨u, first, _⟩ | ⟨never, _⟩
  · have failed := run_evaluate_eq_nestedTooDeeply.2 ⟨u, first, rfl, rfl⟩
    rw [failed] at settled
    exact absurd ⟨_, rfl⟩ settled
  · obtain ⟨counted, _⟩ := never t runs
    rw [← counted.depth]
    exact Nat.cast_le.1 counted.le

/-- An expression with a value has as many operands open at some time as it nests. -/
theorem exists_opened_eq_nesting (derives : Derives .expression (Token.beforeEnd tokens) e)
    (valued : (e.value scope).run.run memory = (.ok v, memory')) :
    ∃ t, Runs ⊤ scope (start tokens memory) t ∧ opened t.frames = e.nesting := by
  obtain ⟨levels, nesting⟩ := Nat.exists_eq_add_one.2 e.nesting_pos
  rcases exists_isFirstPast_or scope (counted_start levels tokens memory)
    (shallow_start tokens memory) with ⟨u, first, _⟩ | ⟨_, settled⟩
  · -- the operand that is entered past one level less is opened at the next step
    obtain ⟨mode, frames, rest, depth, between⟩ := u
    obtain ⟨rfl, opens⟩ := first.past
    have free : (depth : ℕ∞) ≠ ⊤ := ENat.natCast_ne_top depth
    refine ⟨_, first.reached.tail (step_operand_of_ne free), ?_⟩
    rw [opened_cons, nesting, ← opens]
    exact Nat.add_comm _ _
  · -- one level less would be enough for the value
    have settled : ¬ IsTooDeep ((evaluate levels scope tokens).run.run memory).1 := by
      rintro ⟨position, failed⟩
      rw [run_evaluate] at failed
      exact settled ⟨position, (Outcome.finish_eq_nestedTooDeeply.1 (Prod.ext failed rfl)).1⟩
    rw [← run_evaluate_top derives, run_evaluate_of_le le_top settled,
      evaluate_eq_evaluateWithin] at valued
    obtain ⟨e', derives', shallow, _⟩ := (evaluateWithin_eq_ok scope).1 valued
    obtain rfl := derives.unique derives'
    omega

/-- **The limit on nesting only cuts evaluations short.** Evaluating tokens within so many levels is
descending with that limit. An evaluation that does not end with too deep nesting ends with the same
value or diagnostic under every higher limit, and without any. One that does is the evaluation
without a limit up to the first time that it opens an operand while as many are open as the limit
allows, and tells the position of the token there. An expression, which without a limit is evaluated
like its tree, opens no more operands at a time than it nests, and as many if it has a value:
operands side by side do not add up. -/
theorem evaluate_limit (scope : Scope σ) (tokens : List Token) (memory : σ) :
    (∀ levels : Nat, evaluate levels scope tokens = evaluateWithin levels scope tokens) ∧
    (∀ (levels : Nat) (limit : ℕ∞), levels ≤ limit →
      ¬ IsTooDeep ((evaluate levels scope tokens).run.run memory).1 →
      (evaluate limit scope tokens).run.run memory =
        (evaluate levels scope tokens).run.run memory) ∧
    (∀ (levels position : Nat) (memory' : σ),
      (evaluate levels scope tokens).run.run memory =
          (.error ⟨.nestedTooDeeply, position⟩, memory') ↔
        ∃ t, IsFirstPast scope levels (start tokens memory) t ∧
          (Token.current t.rest).position = position ∧ t.memory = memory') ∧
    (∀ e, Derives .expression (Token.beforeEnd tokens) e →
      (evaluate ⊤ scope tokens).run.run memory = (e.value scope).run.run memory ∧
      (∀ t, Runs ⊤ scope (start tokens memory) t → opened t.frames ≤ e.nesting) ∧
      ∀ v memory', (e.value scope).run.run memory = (.ok v, memory') →
        ∃ t, Runs ⊤ scope (start tokens memory) t ∧ opened t.frames = e.nesting) := by
  refine ⟨fun levels => evaluate_eq_evaluateWithin levels scope tokens,
    fun levels limit le settled => run_evaluate_of_le le settled,
    fun levels position memory' => run_evaluate_eq_nestedTooDeeply,
    fun e derives => ⟨run_evaluate_top derives, ?_, ?_⟩⟩
  · exact fun t runs => opened_le_nesting derives runs
  · exact fun v memory' valued => exists_opened_eq_nesting derives valued

end Tokens

end Reckoner.Descent
