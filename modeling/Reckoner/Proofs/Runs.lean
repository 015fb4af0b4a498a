import Reckoner.Program
import Reckoner.Proofs.Consultations

/-! # What a run comes to

A run takes one line after the other and does not know how many there are. Seen from its end, it is
one consultation with the lines as answers where the command line gives an expression
(`perform_expression`), and one dialogue over them where it gives none (`perform_dialogue`). -/

namespace Reckoner.Program

variable {σ : Type}

/-- A run that has ended reads no lines and writes nothing more. -/
theorem hearAll_ended (calculator : Calculator σ) (stop : Text.Stop) (lines : List String)
    (status : UInt8) :
    hearAll calculator stop lines (.ended status) = return (⟨"", ""⟩, status) := by
  induction lines with
  | nil => rfl
  | cons line lines ih => simp [hearAll, hear, ih]

/-! ## One expression -/

/-- All that is written for one expression, and the status, when no more answers can be read. -/
def conclude (stop : Text.Stop) : List Remark × Consultation σ → StateM σ (Output × UInt8)
  | (remarks, .asking inquiry) =>
    return (⟨Remark.texts remarks, complaint (inquiry.interruption stop).message⟩, usageFault)
  | (remarks, .settled evaluation) => do
    match ← evaluation.run with
    | .ok value =>
      return (⟨Remark.texts (remarks ++ [.report (.ok value)]), ""⟩, success)
    | .error diagnostic =>
      return (⟨Remark.texts remarks, complaint diagnostic.message⟩, expressionFault)

/-- What was said before stands in front of what is written in the end. -/
theorem conclude_append (stop : Text.Stop) (remarks more : List Remark)
    (consultation : Consultation σ) :
    conclude stop (remarks ++ more, consultation) = (do
      let (output, status) ← conclude stop (more, consultation)
      return (⟨Remark.texts remarks, ""⟩ ++ output, status)) := by
  cases consultation with
  | asking inquiry => simp [conclude]
  | settled evaluation =>
    simp only [conclude, bind_assoc]
    refine bind_congr fun outcome => ?_
    cases outcome <;> simp

/-- Where a consultation is settled, the run ends whatever lines follow. -/
theorem follow_hearAll_settled (calculator : Calculator σ) (stop : Text.Stop)
    (lines : List String) (remarks : List Remark) (evaluation : Evaluation σ Float) :
    (do
      let (output, program) ← follow (remarks, .settled evaluation)
      let (more, status) ← hearAll calculator stop lines program
      return (output ++ more, status)) = conclude stop (remarks, .settled evaluation) := by
  simp only [follow, conclude, bind_assoc]
  refine bind_congr fun outcome => ?_
  cases outcome <;> simp [hearAll_ended]

/-- A run for one expression takes lines as answers until the consultation is settled. -/
theorem follow_hearAll (calculator : Calculator σ) (stop : Text.Stop) (lines : List String)
    (step : List Remark × Consultation σ) :
    (do
      let (output, program) ← follow step
      let (more, status) ← hearAll calculator stop lines program
      return (output ++ more, status)) =
    conclude stop (step.1 ++ (Consultation.answerAll calculator lines step.2).1,
      (Consultation.answerAll calculator lines step.2).2.1) := by
  induction lines generalizing step with
  | nil =>
    obtain ⟨remarks, evaluation | inquiry⟩ := step
    · simpa using follow_hearAll_settled calculator stop [] remarks evaluation
    · simp [follow, hearAll, close, Consultation.answerAll, conclude]
  | cons line lines ih =>
    obtain ⟨remarks, evaluation | inquiry⟩ := step
    · simpa using follow_hearAll_settled calculator stop (line :: lines) remarks evaluation
    · -- the line is the answer, and the lines after it go to what comes of it
      have heard : hearAll calculator stop (line :: lines) (.single inquiry) = _ :=
        ih (inquiry.answer calculator line)
      simp only [follow, Consultation.answerAll, pure_bind, heard]
      rw [conclude_append stop remarks]

/-- A run for one expression is the consultation about it. -/
theorem perform_expression (calculator : Calculator σ) {arguments : List String}
    {expression : String} {bindings : Bindings}
    (asked : CommandLine.read arguments = .ok (.calculate (some expression) bindings))
    (input : ByteArray) :
    perform calculator arguments input =
      let (remarks, consultation, _) :=
        Consultation.consult calculator bindings expression (Text.read input).lines
      conclude (Text.read input).stop (remarks, consultation) := by
  rw [perform, start, asked]
  exact follow_hearAll ..

/-! ## Dialogues -/

/-- What was said before stands in front of what is written in the end. -/
theorem finish_append (remarks more : List Remark) (interruption : Option Interruption) :
    finish (remarks ++ more, interruption) =
      (⟨Remark.texts remarks, ""⟩ ++ (finish (more, interruption)).1,
        (finish (more, interruption)).2) := by
  cases interruption <;> simp [finish]

/-- A run with a dialogue says what the dialogue says. -/
theorem hearAll_proceed (calculator : Calculator σ) (bindings : Bindings) (stop : Text.Stop)
    (lines : List String) (stage : Dialogue) :
    hearAll calculator stop lines (proceed bindings stage) = (do
      let (remarks, last) ← stage.hearAll calculator bindings lines
      return finish (remarks ++ (last.close stop).1, (last.close stop).2)) := by
  induction lines generalizing stage with
  | nil => cases stage <;> rfl
  | cons line lines ih =>
    by_cases isOver : stage = .over
    · subst isOver
      rw [Dialogue.hearAll_over]
      exact hearAll_ended calculator stop (line :: lines) success
    · have heard : proceed bindings stage = .dialogue bindings stage := by
        cases stage <;> first | rfl | exact absurd rfl isOver
      simp only [heard, hearAll, hear, Dialogue.hearAll, ih, bind_assoc, pure_bind]
      refine bind_congr fun first => bind_congr fun rest => ?_
      rw [List.append_assoc, finish_append first.1]

/-- A run without an expression is the dialogue over its input. -/
theorem perform_dialogue (calculator : Calculator σ) {arguments : List String}
    {bindings : Bindings}
    (asked : CommandLine.read arguments = .ok (.calculate none bindings)) (input : ByteArray) :
    perform calculator arguments input =
      finish <$> Dialogue.converse calculator bindings input := by
  have heard : hearAll calculator (Text.read input).stop (Text.read input).lines
      (.dialogue bindings .ready) = _ := hearAll_proceed calculator bindings _ _ .ready
  simp only [perform, start, asked, Dialogue.converse, heard, pure_bind, bind_assoc, map_bind,
    map_pure]
  refine bind_congr fun answers => ?_
  rw [← finish_append, ← List.append_assoc]

end Reckoner.Program
