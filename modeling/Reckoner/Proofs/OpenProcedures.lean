import Reckoner.Proofs.NestingLimit

/-! # How many procedures are open

However long the tokens and whatever is wrong with them, only a bounded number of procedures is open
at a time: between an operand and the next one inside it there are at most six others
(`height_inner`), and the operands are counted. So descending needs no more than a fixed budget of
procedures entered one inside the other, and it ends, since a procedure that is left with a value
has taken a token (`evaluate_bounded`). -/

namespace Reckoner.Descent

variable {σ : Type} {limit : ℕ∞} {scope : Scope σ} {s s' t : State σ}

/-! ## Procedures that are open -/

/-- The number of procedures that are open: those that wait, and one that has been entered. -/
def State.activations (s : State σ) : Nat :=
  s.frames.length + match s.mode with
    | .enter _ => 1
    | .leave _ => 0

/-- How many procedures are open inside the innermost operand when the procedure is entered, at
most. Outside of all operands there are only chains, and three procedures less. -/
def height : Procedure → Nat
  | .signed => 0
  | .unsigned => 1
  | .call => 2
  | .chain .sum => 3
  | .chain .product => 4
  | .chain .power => 5
  | .operand => 6

/-- The procedure that is entered stands one higher than the one that enters it, or it is counted
anew from an operand on. -/
theorem height_inner (frame : Frame) :
    height frame.procedure + 1 ≤ height frame.inner + 7 * frame.counted := by
  cases frame with
  | first level =>
    cases level <;> simp [height, Frame.procedure, Frame.inner, Frame.counted, Procedure.part]
  | next level =>
    cases level <;> simp [height, Frame.procedure, Frame.inner, Frame.counted, Procedure.part]
  | _ => simp [height, Frame.procedure, Frame.inner, Frame.counted]

/-- No procedure stands higher than an operand. -/
theorem height_le (procedure : Procedure) : height procedure ≤ 6 := by
  unfold height
  split <;> decide

/-- Seven procedures for every operand below the procedure are enough for those below it. -/
def Fits (frames : List Frame) (procedure : Procedure) : Prop :=
  frames.length + 3 ≤ 7 * opened frames + height procedure

/-- A procedure that waits makes room for the one that it enters. -/
theorem Fits.inner {frames : List Frame} {frame : Frame} (fits : Fits frames frame.procedure) :
    Fits (frame :: frames) frame.inner := by
  have higher := height_inner frame
  unfold Fits at fits ⊢
  rw [List.length_cons, opened_cons]
  omega

/-- Every procedure that waits fits over those below it. -/
def Stacked : List Frame → Prop
  | [] => True
  | frame :: frames => Fits frames frame.procedure ∧ Stacked frames

/-- Every procedure that is open fits over those below it. -/
structure State.Fitting (s : State σ) : Prop where
  stacked : Stacked s.frames
  entered : ∀ procedure, s.mode = .enter procedure → Fits s.frames procedure

/-- The first procedure fits. -/
theorem fitting_start (tokens : List Token) (memory : σ) : (start tokens memory).Fitting :=
  ⟨trivial, fun _ entered => by cases entered; exact Nat.le_refl _⟩

/-- Every move keeps the procedures fitting. -/
theorem Move.fitting (move : Move limit s s') (fitting : s.Fitting) : s'.Fitting := by
  obtain ⟨stacked, entered⟩ := fitting
  cases move with
  | descend frame =>
    have fits := entered frame.procedure rfl
    refine ⟨⟨fits, stacked⟩, fun _ entered => ?_⟩
    cases entered
    exact fits.inner
  | finish => exact ⟨stacked, fun _ entered => by cases entered⟩
  | again frame next same =>
    obtain ⟨fits, stacked⟩ := stacked
    rw [← same] at fits
    refine ⟨⟨fits, stacked⟩, fun _ entered => ?_⟩
    cases entered
    exact fits.inner
  | leave => exact ⟨stacked.2, fun _ entered => by cases entered⟩

/-- The procedures fit throughout an evaluation. -/
theorem Runs.fitting (runs : Runs limit scope s t) (fitting : s.Fitting) : t.Fitting := by
  induction runs with
  | refl => exact fitting
  | tail _ stepped ih => exact (move_of_step stepped).fitting ih

/-- Fitting procedures are no more than seven for every operand, and four. -/
theorem State.Fitting.activations_le (fitting : s.Fitting) :
    s.activations ≤ 7 * opened s.frames + 4 := by
  obtain ⟨mode, frames, rest, depth, memory⟩ := s
  obtain ⟨stacked, entered⟩ := fitting
  cases mode with
  | enter procedure =>
    have fits := entered procedure rfl
    have low := height_le procedure
    simp only [activations, Fits] at fits ⊢
    omega
  | leave result =>
    cases frames with
    | nil => exact Nat.zero_le _
    | cons frame frames =>
      have fits := stacked.1
      have low := height_le frame.procedure
      simp only [activations, Fits, List.length_cons, opened_cons] at fits ⊢
      omega

/-- Within a limit, no more procedures are open than seven for every operand allowed, and four. -/
theorem Runs.activations_le {levels : Nat} {tokens : List Token} {memory : σ}
    (runs : Runs levels scope (start tokens memory) s) :
    opened s.frames ≤ levels ∧ s.activations ≤ 7 * levels + 4 := by
  have counted := Runs.counted runs (counted_start _ tokens memory)
  have operands : opened s.frames ≤ levels := by
    rw [← counted.depth]
    exact Nat.cast_le.1 counted.le
  have open' := (Runs.fitting runs (fitting_start tokens memory)).activations_le
  exact ⟨operands, by omega⟩

/-! ## Evaluation within a budget -/

/-- What an evaluation ends with if no more procedures than the budget are open at a time. -/
def runWithin (budget : Nat) (limit : ℕ∞) (scope : Scope σ) (s : State σ) : Option (Outcome σ) :=
  if budget < s.activations then none
  else
    match _h : step limit scope s with
    | .inl s' => runWithin budget limit scope s'
    | .inr outcome => some outcome
termination_by s.potential
decreasing_by exact (move_of_step _h).potential_lt

/-- An evaluation whose states keep to the budget ends with the same as without one. -/
theorem runWithin_eq_run {budget : Nat}
    (enough : ∀ t, Runs limit scope s t → t.activations ≤ budget) :
    runWithin budget limit scope s = some (run limit scope s) := by
  induction s using WellFounded.induction (measure State.potential).wf with
  | _ s ih =>
    rw [runWithin, if_neg (Nat.not_lt.2 (enough s .refl))]
    split
    · rename_i s' stepped
      rw [run_of_step stepped]
      exact ih s' (move_of_step stepped).potential_lt fun t runs => enough t (.head stepped runs)
    · rename_i outcome ended
      rw [run_of_end ended]

/-! ## Tokens that are taken -/

/-- There are no more tokens than the given number, and fewer behind a value. -/
structure State.Takes (count : Nat) (s : State σ) : Prop where
  le : s.rest.length ≤ count
  lt : ∀ v, s.mode = .leave (.ok v) → s.rest.length < count

/-- No move gives tokens back, and a value comes from taking one. -/
theorem Move.takes {count : Nat} (move : Move limit s s') (takes : s.Takes count) :
    s'.Takes count := by
  obtain ⟨le, lt⟩ := takes
  cases move with
  | descend frame _ uses =>
    refine ⟨?_, fun _ left => by cases left⟩
    rcases uses with shorter | ⟨rfl, _⟩
    · exact Nat.le_trans (Nat.le_of_lt shorter) le
    · exact le
  | finish uses taken =>
    refine ⟨Nat.le_trans uses le, fun v left => ?_⟩
    cases left
    exact Nat.lt_of_lt_of_le (taken v rfl) le
  | again _ _ _ _ _ uses =>
    exact ⟨Nat.le_trans (Nat.le_of_lt uses) le, fun _ left => by cases left⟩
  | @leave _ _ _ _ _ result _ _ _ uses fails =>
    refine ⟨Nat.le_trans uses le, fun v left => ?_⟩
    cases left
    cases result with
    | ok w => exact Nat.lt_of_le_of_lt uses (lt w rfl)
    | error d => cases fails d rfl

/-- Where there is a value after a procedure was entered, a token has been taken since. -/
theorem Runs.length_lt {procedure : Procedure} {v : Float} (runs : Runs limit scope s t)
    (entered : s.mode = .enter procedure) (left : t.mode = .leave (.ok v)) :
    t.rest.length < s.rest.length := by
  have takes : t.Takes s.rest.length := by
    clear left
    induction runs with
    | refl => exact ⟨Nat.le_refl _, fun _ left => by rw [entered] at left; cases left⟩
    | tail _ stepped ih => exact (move_of_step stepped).takes ih
  exact takes.lt v left

/-! ## Token sequences -/

/-- **Descending is bounded.** Whatever the tokens are, at no moment are more operands open than the
limit allows, nor more procedures than seven for each of these and four; so a budget of that many
changes nothing. Evaluation comes to an end, with the value or diagnostic of the tokens, and
wherever a procedure that was entered has been left with a value, a token has been taken since. -/
theorem evaluate_bounded (scope : Scope σ) (tokens : List Token) (memory : σ) :
    (∀ s, Runs maxLevels scope (start tokens memory) s →
      opened s.frames ≤ maxLevels ∧ s.activations ≤ 7 * maxLevels + 4) ∧
    (runWithin (7 * maxLevels + 4) maxLevels scope (start tokens memory)).map Outcome.finish =
      some ((Reckoner.evaluate scope tokens).run.run memory) ∧
    (∃ last outcome, Runs maxLevels scope (start tokens memory) last ∧
      step maxLevels scope last = .inr outcome ∧
      outcome.finish = (Reckoner.evaluate scope tokens).run.run memory) ∧
    (∀ s t procedure v, Runs maxLevels scope (start tokens memory) s →
      Runs maxLevels scope s t → s.mode = .enter procedure → t.mode = .leave (.ok v) →
      t.rest.length < s.rest.length) := by
  have same : (run maxLevels scope (start tokens memory)).finish =
      (Reckoner.evaluate scope tokens).run.run memory := by
    rw [Reckoner.evaluate, ← evaluate_eq_evaluateWithin, run_evaluate]
  refine ⟨fun s runs => Runs.activations_le runs, ?_, ?_, ?_⟩
  · rw [runWithin_eq_run fun t runs => (Runs.activations_le runs).2, Option.map_some, same]
  · obtain ⟨last, runs, ended⟩ := exists_last maxLevels scope (start tokens memory)
    exact ⟨last, _, runs, ended, same⟩
  · exact fun s t procedure v _ runs entered left => Runs.length_lt runs entered left

end Reckoner.Descent
