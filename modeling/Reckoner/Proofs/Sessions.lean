import Reckoner.Dialogue
import Reckoner.Proofs.Consultations
import Reckoner.Proofs.InputLines

/-! # Dialogues one after the other

An input that leaves a dialogue waiting for an expression can be followed by another one: the
dialogue goes on as it would begin (`converse_append`). A line is heard as an expression or as an
answer, which depends on what came before it; but an expression is calculated with the bindings of
the dialogue and with the lines after it as answers, and what was answered is known for no other
(`hearAll_expression`). Between two expressions there is nothing but the memory of the functions. -/

namespace Reckoner

namespace Dialogue

variable {σ : Type}

/-! ## What is said -/

/-- Taking lines one after the other is taking the first ones and then the others. -/
theorem hearAll_append (calculator : Calculator σ) (bindings : Bindings)
    (first second : List String) (dialogue : Dialogue) :
    hearAll calculator bindings (first ++ second) dialogue = (do
      let (remarks, between) ← hearAll calculator bindings first dialogue
      let (more, last) ← hearAll calculator bindings second between
      return (remarks ++ more, last)) := by
  induction first generalizing dialogue with
  | nil => simp [hearAll]
  | cons line first ih =>
    simp only [List.cons_append, hearAll, ih, bind_assoc, pure_bind]
    refine bind_congr fun step => bind_congr fun between => bind_congr fun rest => ?_
    rw [List.append_assoc]

/-- What was said before stands in front of what comes of a consultation. -/
theorem follow_append (remarks more : List Remark) (consultation : Consultation σ) :
    follow (remarks ++ more, consultation) = (do
      let (answer, next) ← follow (more, consultation)
      return (remarks ++ answer, next)) := by
  cases consultation with
  | asking inquiry => simp [follow]
  | settled evaluation => simp [follow]

/-! ## Expressions -/

/-- A dialogue that goes on with a consultation takes lines as answers until it is settled, and the
lines after them as it takes the first ones. -/
theorem follow_hearAll (calculator : Calculator σ) (bindings : Bindings) (lines : List String)
    (step : List Remark × Consultation σ) :
    (do
      let (remarks, dialogue) ← follow step
      let (more, last) ← hearAll calculator bindings lines dialogue
      return (remarks ++ more, last)) =
    (do
      let (said, consultation, rest) := Consultation.answerAll calculator lines step.2
      let (remarks, dialogue) ← follow (step.1 ++ said, consultation)
      let (more, last) ← hearAll calculator bindings rest dialogue
      return (remarks ++ more, last)) := by
  induction lines generalizing step with
  | nil =>
    obtain ⟨remarks, evaluation | inquiry⟩ := step <;> simp [Consultation.answerAll]
  | cons line lines ih =>
    obtain ⟨remarks, evaluation | inquiry⟩ := step
    · simp
    · -- the line is the answer, and the lines after it go to what comes of it
      have heard : hearAll calculator bindings (line :: lines) (.asking inquiry) = _ :=
        ih (inquiry.answer calculator line)
      have asks : follow (remarks, .asking inquiry) =
          (return (remarks, .asking inquiry) : StateM σ (List Remark × Dialogue)) := rfl
      simp only [asks, Consultation.answerAll, pure_bind, heard, bind_assoc,
        follow_append remarks, List.append_assoc]

/-- **An expression is calculated from the bindings of the dialogue.** The values that it lacks are
answered by the lines after it, and the dialogue goes on with the lines that are left. -/
theorem hearAll_expression (calculator : Calculator σ) (bindings : Bindings) {line : String}
    (goesOn : isExit (Text.trim line) = false) (isExpression : Text.trim line ≠ "")
    (lines : List String) :
    hearAll calculator bindings (line :: lines) .ready = (do
      let (said, consultation, rest) :=
        Consultation.consult calculator bindings (Text.trim line) lines
      let (remarks, dialogue) ← follow (said, consultation)
      let (more, last) ← hearAll calculator bindings rest dialogue
      return (remarks ++ more, last)) := by
  have heard : hear calculator bindings line .ready =
      follow (Consultation.start calculator bindings (Text.trim line)) := by
    simp [hear, goesOn, isExpression]
  rw [hearAll, heard]
  exact follow_hearAll calculator bindings lines _

/-! ## Waiting for an expression -/

variable {calculator : Calculator σ} {bindings : Bindings} {memory between : σ}
  {remarks : List Remark}

/-- When a dialogue waits for an expression after a consultation, the mark was said last. -/
theorem follow_ready {step : List Remark × Consultation σ}
    (run : (follow step).run memory = ((remarks, .ready), between)) :
    ∃ before, remarks = before ++ [.mark] := by
  obtain ⟨said, evaluation | inquiry⟩ := step
  · have same : said ++ [.report (evaluation.run.run memory).1, .blank, .mark] = remarks :=
      congrArg (·.1.1) run
    exact ⟨said ++ [.report (evaluation.run.run memory).1, .blank], by simp [← same]⟩
  · cases run

/-- When a dialogue waits for an expression after a line, the mark was said last. -/
theorem hear_ready {dialogue : Dialogue} {line : String}
    (run : (dialogue.hear calculator bindings line).run memory = ((remarks, .ready), between)) :
    ∃ before, remarks = before ++ [.mark] := by
  cases dialogue with
  | ready =>
    rw [hear] at run
    split at run
    · cases run
    split at run
    · cases run
      exact ⟨[], rfl⟩
    · exact follow_ready run
  | asking inquiry =>
    rw [hear] at run
    exact follow_ready run
  | _ => cases run

/-- What two parts of the lines are answered with. -/
theorem run_hearAll_append {first : List String} {dialogue next : Dialogue} (second : List String)
    (run : (hearAll calculator bindings first dialogue).run memory = ((remarks, next), between)) :
    (hearAll calculator bindings (first ++ second) dialogue).run memory =
      let ((more, last), after) := (hearAll calculator bindings second next).run between
      ((remarks ++ more, last), after) := by
  rw [hearAll_append, StateT.run_bind, run]
  rfl

/-- Whenever a dialogue waits for an expression, the mark was said last. -/
theorem hearAll_ready {lines : List String}
    (run : (hearAll calculator bindings lines .ready).run memory = ((remarks, .ready), between)) :
    ∃ before, .mark :: remarks = before ++ [.mark] := by
  rcases lines.eq_nil_or_concat with rfl | ⟨first, line, rfl⟩
  · cases run
    exact ⟨[], rfl⟩
  -- the last line decides
  · rcases heard : (hearAll calculator bindings first .ready).run memory with
      ⟨⟨said, dialogue⟩, later⟩
    rw [List.concat_eq_append, run_hearAll_append [line] heard, hearAll, StateT.run_bind] at run
    rcases last : (dialogue.hear calculator bindings line).run later with ⟨⟨answer, next⟩, after⟩
    rw [last] at run
    cases run
    obtain ⟨before, rfl⟩ := hear_ready last
    exact ⟨.mark :: (said ++ before), by simp⟩

/-! ## Inputs one after the other -/

/-- What is said in a whole dialogue. -/
theorem run_converse {input : ByteArray} {last : Dialogue}
    (run : (hearAll calculator bindings (Text.read input).lines .ready).run memory =
      ((remarks, last), between)) :
    (converse calculator bindings input).run memory =
      ((banner calculator ++ [.mark] ++ remarks ++ (last.close (Text.read input).stop).1,
        (last.close (Text.read input).stop).2), between) := by
  rw [converse, StateT.run_bind, run]
  rfl

/-- What is written up to the last mark, when a dialogue waits for an expression. -/
theorem texts_ready {before : List Remark} (marked : .mark :: remarks = before ++ [.mark])
    (final : List Remark) :
    Remark.texts (banner calculator ++ [.mark] ++ remarks ++ final) =
      Remark.texts (banner calculator) ++ Remark.texts before ++ Remark.texts (.mark :: final) := by
  rw [List.append_assoc (banner calculator), List.singleton_append, marked]
  simp [String.append_assoc]

/-- **A dialogue goes on as another one begins.** Let the first input be whole lines after which the
dialogue waits for an expression, and let all of them be texts. What is written for both inputs is
what is written for the first, without the last mark and the last words, and for the second after
the banner; it ends as the second dialogue ends, which begins with the memory that the first one
left. Of the first nothing else lasts: the next expression is calculated from the bindings of the
dialogue, with the lines after it as the answers. -/
theorem converse_append {first : ByteArray}
    (ends : first = .empty ∨ ∃ begun, first = begun ++ "\n".toUTF8)
    (fine : (Text.read first).stop = .finished)
    (exhausted : (hearAll calculator bindings (Text.read first).lines .ready).run memory =
      ((remarks, .ready), between)) (second : ByteArray) :
    let greeting := Remark.texts (banner calculator)
    let alone := (converse calculator bindings first).run memory
    let after := (converse calculator bindings second).run between
    let whole := (converse calculator bindings (first ++ second)).run memory
    (∃ x, Remark.texts alone.1.1 = greeting ++ x ++ "> Goodbye.\n") ∧
    (∃ y, Remark.texts after.1.1 = greeting ++ y) ∧
    (∀ x y, Remark.texts alone.1.1 = greeting ++ x ++ "> Goodbye.\n" →
      Remark.texts after.1.1 = greeting ++ y →
      Remark.texts whole.1.1 = greeting ++ x ++ y) ∧
    whole.1.2 = after.1.2 ∧ whole.2 = after.2 ∧
    ∀ line lines, isExit (Text.trim line) = false → Text.trim line ≠ "" →
      (hearAll calculator bindings ((Text.read first).lines ++ line :: lines) .ready).run memory =
        (do
          let (said, consultation, rest) :=
            Consultation.consult calculator bindings (Text.trim line) lines
          let (answer, dialogue) ← follow (said, consultation)
          let (more, last) ← hearAll calculator bindings rest dialogue
          return (remarks ++ (answer ++ more), last)).run between := by
  obtain ⟨before, marked⟩ := hearAll_ready exhausted
  rcases heard : (hearAll calculator bindings (Text.read second).lines .ready).run between with
    ⟨⟨more, last⟩, final⟩
  have split := Text.read_append ends fine second
  have both : (hearAll calculator bindings (Text.read (first ++ second)).lines .ready).run memory =
      ((remarks ++ more, last), final) := by
    rw [split, run_hearAll_append _ exhausted, heard]
  rw [run_converse exhausted, run_converse heard, run_converse both, split, fine]
  intro greeting alone after whole
  have writtenFirst : Remark.texts alone.1.1 =
      greeting ++ Remark.texts before ++ "> Goodbye.\n" := texts_ready marked [.farewell]
  have writtenAfter : Remark.texts after.1.1 =
      greeting ++ Remark.texts (.mark :: (more ++ (last.close (Text.read second).stop).1)) := by
    simp [after, greeting]
  refine ⟨⟨_, writtenFirst⟩, ⟨_, writtenAfter⟩, fun x y isFirst isAfter => ?_, rfl, rfl,
    fun line lines goesOn isExpression => ?_⟩
  · obtain rfl : Remark.texts before = x := by simpa [writtenFirst] using isFirst
    obtain rfl : Remark.texts (.mark :: (more ++ (last.close (Text.read second).stop).1)) = y := by
      simpa [writtenAfter] using isAfter
    show Remark.texts (banner calculator ++ [.mark] ++ (remarks ++ more) ++
      (last.close (Text.read second).stop).1) = _
    rw [← List.append_assoc _ remarks, List.append_assoc _ more]
    exact texts_ready marked (more ++ (last.close (Text.read second).stop).1)
  · rw [run_hearAll_append (line :: lines) exhausted,
      hearAll_expression calculator bindings goesOn isExpression]
    rfl

set_option maxRecDepth 2000 in
/-- A value answered for one expression is asked for again in the next. -/
theorem converse_append_asks_again :
    ((hearAll (⟨.empty⟩ : Calculator Unit) ∅ (Text.lines "x\n1\n") .ready).run ()).1.2 = .ready ∧
      ((converse (⟨.empty⟩ : Calculator Unit) ∅ ("x\n1\n".toUTF8 ++ "x\n".toUTF8)).run ()).1.2 =
        some (.unanswered "x") := by
  have waits : ((hearAll (⟨.empty⟩ : Calculator Unit) ∅ (Text.lines "x\n1\n") .ready).run ()).1.2 =
      .ready := by with_unfolding_all rfl
  have asks : (hearAll (⟨.empty⟩ : Calculator Unit) ∅ (Text.lines "x\n") .ready).run () =
      (([.missing ["x"], .question "x"], .asking ⟨"x", "x", [], ∅⟩), ()) := by
    with_unfolding_all rfl
  have unanswered : ((converse (⟨.empty⟩ : Calculator Unit) ∅ "x\n".toUTF8).run ()).1.2 =
      some (.unanswered "x") := by
    rw [← Text.lines_read_toUTF8] at asks
    rw [run_converse asks, Text.stop_read_toUTF8]
    rfl
  have ends : "x\n1\n".toUTF8 = .empty ∨ ∃ begun, "x\n1\n".toUTF8 = begun ++ "\n".toUTF8 :=
    .inr ⟨"x\n1".toUTF8, by decide⟩
  have exhausted : (hearAll (⟨.empty⟩ : Calculator Unit) ∅ (Text.lines "x\n1\n") .ready).run () =
      ((_, .ready), ()) := Prod.ext (Prod.ext rfl waits) rfl
  rw [← Text.lines_read_toUTF8] at exhausted
  obtain ⟨_, _, _, same, _⟩ :=
    converse_append ends (Text.stop_read_toUTF8 _) exhausted "x\n".toUTF8
  exact ⟨waits, same.trans unanswered⟩

end Dialogue

end Reckoner
