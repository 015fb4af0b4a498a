import Reckoner.Proofs.LineBreaks

/-! # Unknown variables

Nothing that the program writes reports an unknown variable: no remark of a dialogue, and neither
output of a run for one expression (`never_reports_unknownVariable`). The reports of expressions are
the only remarks that could, and consultations have no such outcome. Where functions fail with
messages of one line, the same is true of the lines that are written. -/

namespace Reckoner

open Text (Unbroken IsLine)

/-! ## Reports -/

/-- The text begins like the report of a variable without a value. -/
def ReportsUnknown (text : String) : Prop := "Error: unknown variable".toList <+: text.toList

/-- A complaint about a diagnostic reports an unknown variable just if the diagnostic is one. -/
theorem reportsUnknown_complaint {diagnostic : Diagnostic} :
    ReportsUnknown (Program.complaint diagnostic.message) ↔
      ∃ name, diagnostic.problem = .unknownVariable name := by
  obtain ⟨problem, position⟩ := diagnostic
  cases problem <;> simp [ReportsUnknown, Program.complaint, Diagnostic.message, toString]

/-- Of all remarks, only the report of such a diagnostic reports an unknown variable. -/
theorem reportsUnknown_text {remark : Remark} :
    ReportsUnknown remark.text ↔
      ∃ name position, remark = .report (.error ⟨.unknownVariable name, position⟩) := by
  cases remark with
  | report outcome =>
    cases outcome with
    | ok value => simp [ReportsUnknown, Remark.text, Remark.reported, toString]
    | error diagnostic =>
      show ReportsUnknown (Program.complaint diagnostic.message) ↔ _
      rw [reportsUnknown_complaint]
      obtain ⟨problem, position⟩ := diagnostic
      simp
  | question name =>
    show "Error: unknown variable".toList <+: ("Enter value for " ++ name ++ ": ").toList ↔ _
    simp
  | functions names => simp [ReportsUnknown, Remark.text, Remark.listed]
  | missing names => simp [ReportsUnknown, Remark.text, Remark.listed]
  | _ => simp [ReportsUnknown, Remark.text]

/-- An interruption is no report of an unknown variable, though it can name a variable. -/
theorem not_reportsUnknown_interruption (interruption : Interruption) :
    ¬ ReportsUnknown (Program.complaint interruption.message) := by
  cases interruption with
  | undecodable =>
    show ¬ "Error: unknown variable".toList <+: "Error: stream did not contain valid UTF-8\n".toList
    decide
  | unanswered name =>
    show ¬ "Error: unknown variable".toList <+:
      ("Error: " ++ ("input ended before a value for '" ++ name ++ "' was given") ++ "\n").toList
    simp

/-- None of the remarks reports an unknown variable. -/
def Unreported (remarks : List Remark) : Prop := ∀ remark ∈ remarks, ¬ ReportsUnknown remark.text

/-- The remarks of a consultation report no unknown variable, though they name variables. -/
theorem Unreported.of_isAsking {remarks : List Remark}
    (asks : ∀ remark ∈ remarks, remark.IsAsking) : Unreported remarks := by
  intro remark member reports
  obtain ⟨name, position, rfl⟩ := reportsUnknown_text.1 reports
  exact asks _ member

/-- Where nothing is said, nothing is reported. -/
theorem Unreported.nil : Unreported [] := fun _ none => (List.not_mem_nil none).elim

/-- Remarks one after the other report no unknown variable if neither part does. -/
theorem Unreported.append {first second : List Remark} (left : Unreported first)
    (right : Unreported second) : Unreported (first ++ second) :=
  List.forall_mem_append.2 ⟨left, right⟩

variable {σ : Type} {calculator : Calculator σ} {bindings : Bindings} {expression : String}

/-! ## Dialogues -/

namespace Dialogue

/-- What a dialogue asks for is asked for an expression. -/
def Pursues (calculator : Calculator σ) (bindings : Bindings) : Dialogue → Prop
  | .asking inquiry =>
    ∃ expression, (Consultation.asking inquiry).Pursues calculator bindings expression
  | _ => True

/-- After a proper consultation the dialogue reports no unknown variable. -/
theorem follow_proper {step : List Remark × Consultation σ}
    (proper : Consultation.Proper calculator bindings expression step) (memory : σ) :
    Unreported ((follow step).run memory).1.1 ∧
      ((follow step).run memory).1.2.Pursues calculator bindings := by
  obtain ⟨remarks, consultation⟩ := step
  obtain ⟨asks, pursues⟩ := proper
  cases consultation with
  | asking inquiry => exact ⟨.of_isAsking asks, expression, pursues⟩
  | settled evaluation =>
    refine ⟨.append (.of_isAsking asks) ?_, trivial⟩
    -- of the remarks after it, only the report of the outcome could be one
    intro remark member reports
    obtain ⟨name, position, rfl⟩ := reportsUnknown_text.1 reports
    rcases List.mem_cons.1 member with same | member
    · exact pursues.ne_unknownVariable memory name position (Remark.report.inj same).symm
    · simp at member

/-- What one line is answered with reports no unknown variable. -/
theorem hear_proper {dialogue : Dialogue} (pursues : dialogue.Pursues calculator bindings)
    (line : String) (memory : σ) :
    Unreported ((dialogue.hear calculator bindings line).run memory).1.1 ∧
      ((dialogue.hear calculator bindings line).run memory).1.2.Pursues calculator bindings := by
  cases dialogue with
  | ready =>
    rw [hear]
    split
    · show Unreported [.farewell] ∧ True
      simp [Unreported, reportsUnknown_text]
    split
    · show Unreported [.mark] ∧ True
      simp [Unreported, reportsUnknown_text]
    · exact follow_proper (Consultation.start_proper ..) memory
  | asking inquiry =>
    obtain ⟨expression, pursues⟩ := pursues
    rw [hear]
    exact follow_proper (Consultation.answer_proper pursues line) memory
  | _ => exact ⟨.nil, trivial⟩

/-- What lines are answered with reports no unknown variable. -/
theorem hearAll_proper {dialogue : Dialogue} (pursues : dialogue.Pursues calculator bindings)
    (lines : List String) (memory : σ) :
    let ((remarks, last), _) := (hearAll calculator bindings lines dialogue).run memory
    Unreported remarks ∧ last.Pursues calculator bindings := by
  induction lines generalizing dialogue memory with
  | nil => exact ⟨.nil, pursues⟩
  | cons line lines ih =>
    obtain ⟨first, next⟩ := hear_proper pursues line memory
    obtain ⟨more, last⟩ := ih next ((dialogue.hear calculator bindings line).run memory).2
    exact ⟨first.append more, last⟩

/-- The last words report no unknown variable. -/
theorem close_unreported (stop : Text.Stop) (dialogue : Dialogue) :
    Unreported (dialogue.close stop).1 := by
  cases dialogue <;> cases stop <;> simp [close, Unreported, reportsUnknown_text]

/-- A whole dialogue reports no unknown variable. -/
theorem converse_unreported (calculator : Calculator σ) (bindings : Bindings) (input : ByteArray)
    (memory : σ) : Unreported ((converse calculator bindings input).run memory).1.1 := by
  have welcome : Unreported (banner calculator ++ [.mark]) := by
    simp [banner, Unreported, reportsUnknown_text]
  have start : Dialogue.ready.Pursues calculator bindings := trivial
  obtain ⟨answers, _⟩ := hearAll_proper start (Text.read input).lines memory
  exact (welcome.append answers).append (close_unreported _ _)

end Dialogue

/-! ## One expression -/

/-- What is written when a consultation is concluded are its remarks, the result if there is one,
and a complaint that is not about an unknown variable. -/
theorem Program.conclude_unreported {remarks : List Remark} {consultation : Consultation σ}
    (pursues : consultation.Pursues calculator bindings expression) (stop : Text.Stop)
    (memory : σ) :
    let output := ((conclude stop (remarks, consultation)).run memory).1.1
    (output.standard = Remark.texts remarks ∨
      ∃ value, output.standard = Remark.texts (remarks ++ [.report (.ok value)])) ∧
    ¬ ReportsUnknown output.error := by
  cases consultation with
  | asking inquiry => exact ⟨.inl rfl, not_reportsUnknown_interruption _⟩
  | settled evaluation =>
    have known := pursues.ne_unknownVariable memory
    simp only [conclude, StateT.run_bind]
    rcases run : evaluation.run.run memory with ⟨diagnostic | value, after⟩
    · refine ⟨.inl rfl, fun reports => ?_⟩
      obtain ⟨name, unknown⟩ := reportsUnknown_complaint.1 reports
      rw [run] at known
      exact known name diagnostic.position (by rw [← unknown])
    · refine ⟨.inr ⟨value, rfl⟩, ?_⟩
      show ¬ ReportsUnknown ""
      simp [ReportsUnknown]

/-- A run for one expression writes what is said about it and the result if there is one, and
reports no unknown variable. -/
theorem Program.perform_unreported {arguments : List String}
    (asked : CommandLine.read arguments = .ok (.calculate (some expression) bindings))
    (input : ByteArray) (memory : σ) :
    let output := ((perform calculator arguments input).run memory).1.1
    let remarks := (Consultation.consult calculator bindings expression (Text.read input).lines).1
    (output.standard = Remark.texts remarks ∨
      ∃ value, output.standard = Remark.texts (remarks ++ [.report (.ok value)])) ∧
    Unreported remarks ∧ ¬ ReportsUnknown output.error := by
  obtain ⟨asks, pursues⟩ :=
    Consultation.consult_proper calculator bindings expression (Text.read input).lines
  rw [perform_expression calculator asked]
  obtain ⟨standard, error⟩ := conclude_unreported pursues (Text.read input).stop memory
  exact ⟨standard, .of_isAsking asks, error⟩

/-! ## Lines -/

/-- Whatever line the remarks write, it does not begin like the report of an unknown variable, and it
is written by consecutive remarks of which none does. -/
def UnreportedLines (remarks : List Remark) : Prop :=
  ∀ line ∈ Text.lines (Remark.texts remarks), ¬ ReportsUnknown line ∧
    ∃ said, said <:+: remarks ∧ Remark.WriteLine said line ∧ Unreported said

/-- What waits within a line is the mark or a question. -/
theorem Remark.eq_of_unbroken {remark : Remark} (waits : Unbroken remark.text) :
    remark = .mark ∨ ∃ name, remark = .question name := by
  have unended := Text.lineFeed_notMem waits
  cases remark with
  | mark => exact .inl rfl
  | question name => exact .inr ⟨name, rfl⟩
  | report outcome => cases outcome <;> simp [text, reported, toString] at unended
  | functions names => simp [text, listed] at unended
  | missing names => simp [text, listed] at unended
  | _ => simp [text] at unended

/-- Where no remark reports an unknown variable, no line that they write does. -/
theorem Unreported.not_reportsUnknown {said : List Remark} (unreported : Unreported said)
    {line : String} (writes : Remark.WriteLine said line) : ¬ ReportsUnknown line := by
  intro reports
  obtain ⟨waits, written⟩ := writes
  have begins : ReportsUnknown (Remark.texts said) := by
    rcases written with same | ended
    · rwa [same]
    · rw [ended, ReportsUnknown, String.toList_append]
      exact reports.trans (List.prefix_append ..)
  rcases said with _ | ⟨first, _ | ⟨second, others⟩⟩
  · simp [ReportsUnknown] at begins
  · rw [Remark.texts_cons, Remark.texts_nil, String.append_empty] at begins
    exact unreported first (List.mem_singleton_self first) begins
  -- the first of several remarks waits, and neither the mark nor a question begins like a report
  · rw [Remark.texts_cons] at begins
    rcases Remark.eq_of_unbroken (waits first (List.mem_cons_self ..)) with rfl | ⟨name, rfl⟩
    · simp [ReportsUnknown, Remark.text] at begins
    · have question : (Remark.question name).text = "Enter value for " ++ name ++ ": " := rfl
      simp [ReportsUnknown, question] at begins

/-- The lines of plain remarks report no unknown variable if the remarks do not. -/
theorem Unreported.lines {remarks : List Remark} (unreported : Unreported remarks)
    (plain : ∀ remark ∈ remarks, remark.IsPlain) : UnreportedLines remarks := by
  intro line member
  obtain ⟨said, inside, writes⟩ := Remark.exists_of_mem_lines plain member
  have silent : Unreported said := fun remark spoken => unreported remark (inside.subset spoken)
  exact ⟨silent.not_reportsUnknown writes, said, inside, writes, silent⟩

/-- What is said about an expression is plain. -/
theorem Consultation.isPlain_of_mem_consult (calculator : Calculator σ) (bindings : Bindings)
    (expression : String) (lines : List String) :
    ∀ remark ∈ (consult calculator bindings expression lines).1, remark.IsPlain := by
  have named : ∀ name ∈ calculator.missing bindings expression, Unbroken name :=
    Calculator.unbroken_of_mem_missing
  rcases Answer.exists_split (calculator.missing bindings expression) lines with
    ⟨answers, rest, answered, rfl⟩ | ⟨answers, asked, others, refused, unanswered, wrong, rfl⟩
  · rw [consult_answered answered]
    rw [answered] at named
    exact List.forall_mem_append.2
      ⟨Remark.isPlain_of_mem_heading named, Remark.isPlain_of_mem_remarks named⟩
  · rw [consult_unanswered unanswered wrong]
    rw [unanswered] at named
    exact Remark.isPlain_of_mem_unanswered named refused

/-- No line of a dialogue reports an unknown variable. -/
theorem Dialogue.converse_unreportedLines (functions : calculator.functions.FailsPlainly)
    (named : ∀ name ∈ calculator.functions.names, Unbroken name) (bindings : Bindings)
    (input : ByteArray) (memory : σ) :
    UnreportedLines ((converse calculator bindings input).run memory).1.1 := by
  obtain ⟨course⟩ := Course.exists_course calculator bindings (Text.read input).lines
  exact (converse_unreported calculator bindings input memory).lines
    (isPlain_of_mem_converse functions named course memory)

/-- No line that a run for one expression writes on its standard output reports an unknown variable.
-/
theorem Program.perform_unreportedLines {arguments : List String}
    (asked : CommandLine.read arguments = .ok (.calculate (some expression) bindings))
    (input : ByteArray) (memory : σ) :
    ∃ remarks, ((perform calculator arguments input).run memory).1.1.standard =
      Remark.texts remarks ∧ UnreportedLines remarks := by
  have plain := Consultation.isPlain_of_mem_consult calculator bindings expression
    (Text.read input).lines
  obtain ⟨standard | ⟨value, standard⟩, silent, _⟩ := perform_unreported asked input memory
  · exact ⟨_, standard, silent.lines plain⟩
  · have result : Unreported [.report (.ok value)] := by simp [Unreported, reportsUnknown_text]
    have plainResult : (Remark.report (.ok value)).IsPlain := Decimal.unbroken_writeFloat value
    exact ⟨_, standard, (silent.append result).lines
      (List.forall_mem_append.2 ⟨plain, List.forall_mem_singleton.2 plainResult⟩)⟩

/-- What is wrong with one expression is told in one line. -/
theorem Program.isLine_error (functions : calculator.functions.FailsPlainly)
    {arguments : List String}
    (asked : CommandLine.read arguments = .ok (.calculate (some expression) bindings))
    (input : ByteArray) (memory : σ) :
    let output := ((perform calculator arguments input).run memory).1.1
    output.error = "" ∨ IsLine output.error := by
  have complains {message : String} (plain : Unbroken message) : IsLine (complaint message) :=
    ⟨"Error: " ++ message, Text.unbroken_append.2 ⟨by decide, plain⟩, rfl⟩
  rw [perform_expression calculator asked]
  rcases Answer.exists_split (calculator.missing bindings expression) (Text.read input).lines with
    ⟨answers, rest, answered, split⟩ | ⟨answers, name, others, refused, unanswered, wrong, split⟩
  · rw [split, Consultation.consult_answered answered]
    simp only [conclude, StateT.run_bind]
    rcases run : (calculator.calculate expression
      (bindings.insertMany (answers.map Answer.entry))).run.run memory with ⟨diagnostic | value, _⟩
    · have plain := Calculator.isPlain_of_calculate functions run
      exact .inr (complains (Diagnostic.unbroken_message plain))
    · exact .inl rfl
  · have named : name ∈ calculator.missing bindings expression := by
      rw [unanswered]
      simp
    rw [split, Consultation.consult_unanswered unanswered wrong]
    exact .inr (complains (Interruption.unbroken_atQuestion
      (Calculator.unbroken_of_mem_missing name named) _))

/-- **No variable is reported as unknown.** The calculation of an expression does not end in an
unknown variable when the missing values are asked for, whatever the answers are. So no remark of a
dialogue reports one, and a run for one expression reports none on either output. Where functions
have names and messages without line breaks, as the standard ones do, no line of either output
reports one: it is written by consecutive remarks that do not, and a complaint is one line. -/
theorem never_reports_unknownVariable (calculator : Calculator σ) (bindings : Bindings)
    (memory : σ) :
    (∀ expression lines remarks evaluation rest,
      Consultation.consult calculator bindings expression lines =
        (remarks, .settled evaluation, rest) →
      ∀ name position, (evaluation.run.run memory).1 ≠ .error ⟨.unknownVariable name, position⟩) ∧
    (∀ input, ∀ remark ∈ ((Dialogue.converse calculator bindings input).run memory).1.1,
      ¬ ReportsUnknown remark.text) ∧
    (∀ arguments input expression bindings,
      CommandLine.read arguments = .ok (.calculate (some expression) bindings) →
      let output := ((Program.perform calculator arguments input).run memory).1.1
      let remarks :=
        (Consultation.consult calculator bindings expression (Text.read input).lines).1
      (output.standard = Remark.texts remarks ∨
        ∃ value, output.standard = Remark.texts (remarks ++ [.report (.ok value)])) ∧
      (∀ remark ∈ remarks, ¬ ReportsUnknown remark.text) ∧ ¬ ReportsUnknown output.error) ∧
    (calculator.functions.FailsPlainly → (∀ name ∈ calculator.functions.names, Unbroken name) →
      (∀ input, UnreportedLines ((Dialogue.converse calculator bindings input).run memory).1.1) ∧
      ∀ arguments input expression bindings,
        CommandLine.read arguments = .ok (.calculate (some expression) bindings) →
        let output := ((Program.perform calculator arguments input).run memory).1.1
        (∃ remarks, output.standard = Remark.texts remarks ∧ UnreportedLines remarks) ∧
        (output.error = "" ∨ IsLine output.error)) := by
  refine ⟨fun expression lines remarks evaluation rest consulted name position => ?_,
    fun input => Dialogue.converse_unreported calculator bindings input memory,
    fun arguments input expression bindings asked => Program.perform_unreported asked input memory,
    fun functions named =>
      ⟨fun input => Dialogue.converse_unreportedLines functions named bindings input memory,
        fun arguments input expression bindings asked =>
          ⟨Program.perform_unreportedLines asked input memory,
            Program.isLine_error functions asked input memory⟩⟩⟩
  have proper := Consultation.consult_proper calculator bindings expression lines
  rw [consulted] at proper
  exact proper.2.ne_unknownVariable memory name position

end Reckoner
