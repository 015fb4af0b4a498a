import Reckoner.Proofs.Interviews

/-! # The turns of a dialogue

A whole dialogue as a list of turns and an ending (`Course`): a turn is a blank line, or an
expression with the answers to its questions, and the dialogue ends where no line is left, at a line
that asks to end it, or at a question that no line answers. Every list of lines has a course
(`Course.exists_course`), by recursion on the number of lines that are left; `hearAll_turn` is what
one turn says, and `session_course`, by induction on the turns, what the whole course says. Where no
line is left, the input has ended or goes on with a line that is no text, and the endings say what
is said in either case. -/

namespace Reckoner

variable {σ : Type} {calculator : Calculator σ} {bindings : Bindings}

/-- The line has an expression: it is not blank and does not ask to end the dialogue. -/
def Dialogue.IsExpression (line : String) : Prop :=
  isExit (Text.trim line) = false ∧ Text.trim line ≠ ""

/-! ## Turns -/

/-- What a dialogue takes before it waits for an expression again. -/
inductive Turn
  /-- A blank line. -/
  | blank (line : String)
  /-- A line with an expression, and the answers to all questions about it. -/
  | expression (line : String) (answers : List Answer)

namespace Turn

/-- The lines that are read in a turn. -/
def lines : Turn → List String
  | .blank line => [line]
  | .expression line answers => line :: answers.flatMap Answer.lines

/-- The line is what the turn takes it for, and the answers are for what is missing. -/
def Fits (calculator : Calculator σ) (bindings : Bindings) : Turn → Prop
  | .blank line => Text.trim line = ""
  | .expression line answers =>
    Dialogue.IsExpression line ∧
      calculator.missing bindings (Text.trim line) = answers.map Answer.name

/-- What is said before an expression is evaluated. -/
def prompts (answers : List Answer) : List Remark :=
  Remark.heading (answers.map Answer.name) ++ answers.flatMap Answer.remarks

/-- What is said in a turn. -/
def remarks (calculator : Calculator σ) (bindings : Bindings) : Turn → StateM σ (List Remark)
  | .blank _ => return [.mark]
  | .expression line answers => do
    let outcome ← (calculator.calculate (Text.trim line)
      (bindings.insertMany (answers.map Answer.entry))).run
    return prompts answers ++ [.report outcome, .blank, .mark]

/-- The number of outcomes that a turn has. -/
def outcomes : Turn → Nat
  | .blank _ => 0
  | .expression _ _ => 1

end Turn

/-! ## Endings -/

/-- How a dialogue that waits for an expression comes to its end. -/
inductive Ending
  /-- No line is left. -/
  | exhausted
  /-- A line asks to end the dialogue. The lines after it are not read. -/
  | exit (line : String) (unread : List String)
  /-- A line has an expression. Of the variables that are missing the first are answered, and all
  lines that are left are refused for the one that is asked for. -/
  | unanswered (line : String) (answers : List Answer) (asked : String)
      (others refused : List String)

namespace Ending

/-- The lines from the ending on. -/
def lines : Ending → List String
  | .exhausted => []
  | .exit line unread => line :: unread
  | .unanswered line answers _ _ refused => line :: (answers.flatMap Answer.lines ++ refused)

/-- The lines are what the ending takes them for. -/
def Fits (calculator : Calculator σ) (bindings : Bindings) : Ending → Prop
  | .exhausted => True
  | .exit line _ => Dialogue.isExit (Text.trim line) = true
  | .unanswered line answers asked others refused =>
    Dialogue.IsExpression line ∧
      calculator.missing bindings (Text.trim line) =
        answers.map Answer.name ++ asked :: others ∧
      ∀ line ∈ refused, Decimal.readFloat? (Text.trim line) = none

/-- What is said at the end, by how reading stops. -/
def remarks (stop : Text.Stop) : Ending → List Remark
  | .exhausted =>
    match stop with
    | .finished => [.farewell]
    | .undecodable => []
  | .exit _ _ => [.farewell]
  | .unanswered _ answers asked others refused =>
    Remark.heading (answers.map Answer.name ++ asked :: others) ++
      (answers.flatMap Answer.remarks ++ Remark.attempts asked refused)

/-- The interruption if the end is one, by how reading stops. -/
def interruption (stop : Text.Stop) : Ending → Option Interruption
  | .exhausted =>
    match stop with
    | .finished => none
    | .undecodable => some .undecodable
  | .exit _ _ => none
  | .unanswered _ _ asked _ _ => some (.atQuestion asked stop)

end Ending

/-! ## Courses -/

/-- A course of a dialogue: the lines are those of its turns and of its ending, one after the other.
-/
structure Course (calculator : Calculator σ) (bindings : Bindings) (lines : List String) where
  turns : List Turn
  ending : Ending
  fits : ∀ turn ∈ turns, turn.Fits calculator bindings
  ending_fits : ending.Fits calculator bindings
  lines_eq : lines = turns.flatMap Turn.lines ++ ending.lines

namespace Course

/-- The course that an ending is by itself. -/
def ofEnding (ending : Ending) (fits : ending.Fits calculator bindings) :
    Course calculator bindings ending.lines :=
  ⟨[], ending, List.forall_mem_nil _, fits, rfl⟩

/-- A turn before a course. -/
def cons {lines : List String} (turn : Turn) (fits : turn.Fits calculator bindings)
    (course : Course calculator bindings lines) :
    Course calculator bindings (turn.lines ++ lines) where
  turns := turn :: course.turns
  ending := course.ending
  fits := List.forall_mem_cons.2 ⟨fits, course.fits⟩
  ending_fits := course.ending_fits
  lines_eq := by
    have together := congrArg (turn.lines ++ ·) course.lines_eq
    rw [List.flatMap_cons, List.append_assoc]
    exact together

/-- **All lines have a course.** Each turn takes at least one line from those that are left. -/
theorem exists_course (calculator : Calculator σ) (bindings : Bindings) :
    ∀ lines : List String, Nonempty (Course calculator bindings lines)
  | [] => ⟨ofEnding .exhausted trivial⟩
  | line :: lines => by
    cases exits : Dialogue.isExit (Text.trim line) with
    | true => exact ⟨ofEnding (.exit line lines) exits⟩
    | false =>
      by_cases empty : Text.trim line = ""
      · obtain ⟨course⟩ := exists_course calculator bindings lines
        exact ⟨course.cons (.blank line) empty⟩
      -- whether the lines answer all questions decides between a turn and the end
      rcases Answer.exists_split (calculator.missing bindings (Text.trim line)) lines with
        ⟨answers, rest, answered, split⟩ |
          ⟨answers, asked, others, refused, unanswered, wrong, rfl⟩
      · have shorter : rest.length < (line :: lines).length := by
          rw [split, List.length_cons, List.length_append]
          omega
        obtain ⟨course⟩ := exists_course calculator bindings rest
        subst split
        exact ⟨course.cons (.expression line answers) ⟨⟨exits, empty⟩, answered⟩⟩
      · exact ⟨ofEnding (.unanswered line answers asked others refused)
          ⟨⟨exits, empty⟩, unanswered, wrong⟩⟩
termination_by lines => lines.length
decreasing_by
  · exact Nat.lt_succ_self _
  · exact shorter

end Course

/-! ## What is said in a course -/

namespace Dialogue

/-- What a turn says does not depend on the lines after it, and after it the dialogue waits for an
expression. -/
theorem hearAll_turn {turn : Turn} (fits : turn.Fits calculator bindings) (lines : List String) :
    hearAll calculator bindings (turn.lines ++ lines) .ready = (do
      let response ← turn.remarks calculator bindings
      let (more, last) ← hearAll calculator bindings lines .ready
      return (response ++ more, last)) := by
  cases turn with
  | blank line =>
    have empty : Text.trim line = "" := fits
    have goesOn : isExit "" = false := by decide +kernel
    have heard : hear calculator bindings line .ready = return ([.mark], .ready) := by
      simp [hear, empty, goesOn]
    simp only [Turn.lines, List.singleton_append, hearAll, heard, Turn.remarks, pure_bind]
  | expression line answers =>
    obtain ⟨⟨goesOn, isExpression⟩, answered⟩ := fits
    -- the answers settle the consultation, so the lines after them are left
    simp only [Turn.lines, List.cons_append,
      hearAll_expression calculator bindings goesOn isExpression,
      Consultation.consult_answered answered, follow, Turn.remarks, Turn.prompts, bind_assoc,
      pure_bind]

/-- What turns say, one after the other. -/
theorem hearAll_turns {turns : List Turn} (fits : ∀ turn ∈ turns, turn.Fits calculator bindings)
    (lines : List String) :
    hearAll calculator bindings (turns.flatMap Turn.lines ++ lines) .ready = (do
      let responses ← turns.mapM (Turn.remarks calculator bindings)
      let (more, last) ← hearAll calculator bindings lines .ready
      return (responses.flatten ++ more, last)) := by
  induction turns with
  | nil => simp
  | cons turn turns ih =>
    obtain ⟨first, others⟩ := List.forall_mem_cons.1 fits
    -- the first turn leaves the dialogue ready, which is where `ih` begins
    rw [List.flatMap_cons, List.append_assoc, hearAll_turn first, ih others]
    simp [List.mapM_cons]

/-- What is said at the end. -/
theorem session_ending {ending : Ending} (fits : ending.Fits calculator bindings)
    (stop : Text.Stop) :
    session calculator bindings stop ending.lines =
      return (ending.remarks stop, ending.interruption stop) := by
  cases ending with
  | exhausted => cases stop <;> rfl
  | exit line unread =>
    have exits : isExit (Text.trim line) = true := fits
    have heard : hear calculator bindings line .ready = return ([.farewell], .over) := by
      simp [hear, exits]
    simp [session, Ending.lines, hearAll, heard, hearAll_over, close, Ending.remarks,
      Ending.interruption]
  | unanswered line answers asked others refused =>
    obtain ⟨⟨goesOn, isExpression⟩, unanswered, wrong⟩ := fits
    rw [Ending.lines, session_expression calculator bindings goesOn isExpression,
      Calculator.interview_unanswered unanswered wrong]
    rfl

variable {lines : List String}

/-- **What is said in a whole course.** -/
theorem session_course (course : Course calculator bindings lines) (stop : Text.Stop) :
    session calculator bindings stop lines = (do
      let responses ← course.turns.mapM (Turn.remarks calculator bindings)
      return (responses.flatten ++ course.ending.remarks stop,
        course.ending.interruption stop)) := by
  have taken := hearAll_turns course.fits course.ending.lines
  rw [← course.lines_eq] at taken
  simp only [session, taken, bind_assoc, pure_bind]
  refine bind_congr fun responses => ?_
  -- what the turns said stands in front of what the ending says
  have ends := congrArg (Functor.map fun said => (responses.flatten ++ said.1, said.2))
    (session_ending course.ending_fits stop)
  simpa only [session, map_bind, map_pure, List.append_assoc] using ends

/-- A dialogue is the banner, the first mark and what it says to the lines. -/
theorem converse_eq_session (calculator : Calculator σ) (bindings : Bindings)
    (input : ByteArray) :
    converse calculator bindings input = (do
      let (remarks, interruption) ←
        session calculator bindings (Text.read input).stop (Text.read input).lines
      return (banner calculator ++ [.mark] ++ remarks, interruption)) := by
  simp only [converse, session, bind_assoc, pure_bind, List.append_assoc]

/-- After turns, the dialogue waits for an expression. -/
theorem run_hearAll_turns {turns : List Turn}
    (fits : ∀ turn ∈ turns, turn.Fits calculator bindings) (memory : σ) :
    ((hearAll calculator bindings (turns.flatMap Turn.lines) .ready).run memory).1.2 = .ready := by
  have taken := hearAll_turns fits []
  rw [List.append_nil] at taken
  rw [taken]
  rfl

/-- After turns and a line that asks for it, the dialogue is over. -/
theorem run_hearAll_exit {turns : List Turn}
    (fits : ∀ turn ∈ turns, turn.Fits calculator bindings) {line : String}
    (exits : isExit (Text.trim line) = true) (memory : σ) :
    ((hearAll calculator bindings (turns.flatMap Turn.lines ++ [line]) .ready).run memory).1.2 =
      .over := by
  have heard : hearAll calculator bindings [line] .ready = return ([.farewell], .over) := by
    simp [hearAll, hear, exits]
  rw [hearAll_turns fits, heard]
  rfl

end Dialogue

/-! ## Remarks of each kind -/

namespace Remark

/-- The remark is an outcome. -/
def isReport : Remark → Bool
  | .report _ => true
  | _ => false

/-- What is said before the first question belongs to the questions. -/
theorem isAsking_of_mem_heading {missing : List String} {remark : Remark}
    (member : remark ∈ heading missing) : remark.IsAsking := by
  rw [eq_of_mem_heading member]
  trivial

/-- What is said for a question belongs to it. -/
theorem isAsking_of_mem_attempts {name : String} {refused : List String} {remark : Remark}
    (member : remark ∈ attempts name refused) : remark.IsAsking := by
  rcases eq_of_mem_attempts member with rfl | rfl <;> trivial

/-- What is said for answers belongs to their questions. -/
theorem isAsking_of_mem_remarks {answers : List Answer} {remark : Remark}
    (member : remark ∈ answers.flatMap Answer.remarks) : remark.IsAsking := by
  rcases Answer.eq_of_mem_remarks member with ⟨name, _, rfl⟩ | rfl <;> trivial

/-- What is written ends as its last part ends. -/
theorem exists_texts_append (first : List Remark) {more : List Remark} {last : String}
    (ends : ∃ before, texts more = before ++ last) :
    ∃ before, texts (first ++ more) = before ++ last := by
  obtain ⟨before, ends⟩ := ends
  exact ⟨texts first ++ before, by rw [texts_append, ends, String.append_assoc]⟩

/-- What is written for a question without an answer ends with the question. -/
theorem exists_texts_attempts (name : String) (refused : List String) :
    ∃ before, texts (attempts name refused) = before ++ asked name := by
  rcases refused.eq_nil_or_concat with rfl | ⟨first, last, rfl⟩
  · exact ⟨"", by simp [attempts, text]⟩
  · refine ⟨texts (.question name :: (first.flatMap fun _ => [.refusal, .question name])) ++
      "Error: enter a valid number\n", ?_⟩
    simp [attempts, text, String.append_assoc]

end Remark

namespace Turn

/-- What is said before an expression is evaluated belongs to the questions. -/
theorem isAsking_of_mem_prompts {answers : List Answer} {remark : Remark}
    (member : remark ∈ prompts answers) : remark.IsAsking := by
  rcases List.mem_append.1 member with headed | asked
  · exact Remark.isAsking_of_mem_heading headed
  · exact Remark.isAsking_of_mem_remarks asked

/-- What is said in a turn with an expression. -/
theorem run_remarks_expression (calculator : Calculator σ) (bindings : Bindings) (line : String)
    (answers : List Answer) (memory : σ) :
    (((expression line answers).remarks calculator bindings).run memory).1 =
      prompts answers ++ [.report ((calculator.calculate (Text.trim line)
        (bindings.insertMany (answers.map Answer.entry))).run.run memory).1, .blank, .mark] := rfl

/-- A turn with an expression has one outcome, and the questions have none. -/
theorem countP_remarks (turn : Turn) (memory : σ) :
    ((turn.remarks calculator bindings).run memory).1.countP Remark.isReport = turn.outcomes := by
  cases turn with
  | blank line => rfl
  | expression line answers =>
    have asking : (prompts answers).countP Remark.isReport = 0 := by
      refine List.countP_eq_zero.2 fun remark member report => ?_
      have asks := isAsking_of_mem_prompts member
      cases remark with
      | report outcome => exact asks
      | _ => cases report
    rw [run_remarks_expression, List.countP_append, asking, Nat.zero_add]
    rfl

/-- The last words are not said in a turn. -/
theorem farewell_notMem_remarks (turn : Turn) (memory : σ) :
    .farewell ∉ ((turn.remarks calculator bindings).run memory).1 := by
  cases turn with
  | blank line => exact fun member => nomatch List.mem_singleton.1 member
  | expression line answers =>
    rw [run_remarks_expression, List.mem_append, not_or]
    exact ⟨fun member => isAsking_of_mem_prompts member, by simp⟩

/-- What is true of what each turn says is true of what they say one after the other. -/
theorem forall₂_run_mapM {turns : List Turn} {R : Turn → List Remark → Prop}
    (each : ∀ turn ∈ turns, ∀ memory, R turn ((turn.remarks calculator bindings).run memory).1)
    (memory : σ) :
    List.Forall₂ R turns ((turns.mapM (remarks calculator bindings)).run memory).1 := by
  induction turns generalizing memory with
  | nil => exact .nil
  | cons turn turns ih =>
    obtain ⟨first, others⟩ := List.forall_mem_cons.1 each
    rw [List.mapM_cons]
    exact .cons (first memory) (ih others _)

/-- What holds of each remark of the turns holds of all that they say. -/
theorem forall_mem_flatten {turns : List Turn} {P : Remark → Prop}
    (each : ∀ turn ∈ turns, ∀ memory,
      ∀ remark ∈ ((turn.remarks calculator bindings).run memory).1, P remark) (memory : σ) :
    ∀ remark ∈ ((turns.mapM (remarks calculator bindings)).run memory).1.flatten, P remark := by
  have every := forall₂_run_mapM (R := fun _ response => ∀ remark ∈ response, P remark) each memory
  -- the induction is on the responses, which are not those of one memory any more
  generalize ((turns.mapM (remarks calculator bindings)).run memory).1 = responses at every ⊢
  clear each
  induction every with
  | nil => exact List.forall_mem_nil _
  | cons first _ ih =>
    rw [List.flatten_cons]
    exact List.forall_mem_append.2 ⟨first, ih⟩

end Turn

namespace Ending

/-- The ending is a question that no line answers. -/
def IsUnanswered : Ending → Prop
  | .unanswered .. => True
  | _ => False

/-- The ending is a line that asks to end the dialogue. -/
def IsExit : Ending → Prop
  | .exit .. => True
  | _ => False

variable {stop : Text.Stop}

/-- Where a dialogue is interrupted, what is said at the end belongs to the questions. -/
theorem isAsking_of_mem_remarks {ending : Ending} (interrupted : ending.interruption stop ≠ none)
    {remark : Remark} (member : remark ∈ ending.remarks stop) : remark.IsAsking := by
  cases ending with
  | unanswered line answers asked others refused =>
    rcases List.mem_append.1 member with headed | questions
    · exact Remark.isAsking_of_mem_heading headed
    rcases List.mem_append.1 questions with earlier | last
    · exact Remark.isAsking_of_mem_remarks earlier
    · exact Remark.isAsking_of_mem_attempts last
  | exit line unread => exact absurd rfl interrupted
  | exhausted =>
    cases stop with
    | finished => exact absurd rfl interrupted
    | undecodable => cases member

/-- What is written at the end ends with the last words, unless the dialogue is interrupted; with
the question if it is interrupted where the input ends. -/
theorem exists_texts_remarks (ending : Ending) (stop : Text.Stop) :
    (ending.interruption stop = none ∧
        ∃ before, Remark.texts (ending.remarks stop) = before ++ "Goodbye.\n") ∨
      (∃ name : String, ending.interruption stop = some (.unanswered name) ∧
        ∃ before, Remark.texts (ending.remarks stop) = before ++ Remark.asked name) ∨
      ending.interruption stop = some .undecodable := by
  cases ending with
  | unanswered line answers asked others refused =>
    cases stop with
    | undecodable => exact .inr (.inr rfl)
    | finished =>
      refine .inr (.inl ⟨asked, rfl, ?_⟩)
      exact Remark.exists_texts_append _
        (Remark.exists_texts_append _ (Remark.exists_texts_attempts asked refused))
  | exit line unread => exact .inl ⟨rfl, "", by simp [remarks, Remark.text]⟩
  | exhausted =>
    cases stop with
    | undecodable => exact .inr (.inr rfl)
    | finished => exact .inl ⟨rfl, "", by simp [remarks, Remark.text]⟩

/-- The answer to a question is missing exactly where the input ends at one. -/
theorem interruption_eq_unanswered_iff {ending : Ending} :
    (∃ name, ending.interruption stop = some (.unanswered name)) ↔
      stop = .finished ∧ ending.IsUnanswered := by
  cases ending <;> cases stop <;> simp [interruption, IsUnanswered, Interruption.atQuestion]

/-- A line that is no text interrupts a dialogue exactly where nobody has asked to end it. -/
theorem interruption_eq_undecodable_iff {ending : Ending} :
    ending.interruption stop = some .undecodable ↔ stop = .undecodable ∧ ¬ ending.IsExit := by
  cases ending <;> cases stop <;> simp [interruption, IsExit, Interruption.atQuestion]

end Ending

namespace Course

variable {input : ByteArray}

/-- What is said in the turns of a course. -/
def responses {lines : List String} (course : Course calculator bindings lines) (memory : σ) :
    List (List Remark) :=
  ((course.turns.mapM (Turn.remarks calculator bindings)).run memory).1

/-- What is said in a whole dialogue, and the interruption if there is one. -/
theorem run_converse (course : Course calculator bindings (Text.read input).lines) (memory : σ) :
    ((Dialogue.converse calculator bindings input).run memory).1 =
      (Dialogue.banner calculator ++ [.mark] ++
        ((course.responses memory).flatten ++ course.ending.remarks (Text.read input).stop),
        course.ending.interruption (Text.read input).stop) := by
  rw [Dialogue.converse_eq_session, Dialogue.session_course course]
  simp only [bind_assoc, pure_bind]
  rfl

/-- Where a dialogue is interrupted, the last words are not said. -/
theorem farewell_notMem_converse (course : Course calculator bindings (Text.read input).lines)
    (memory : σ)
    (interrupted : ((Dialogue.converse calculator bindings input).run memory).1.2 ≠ none) :
    .farewell ∉ ((Dialogue.converse calculator bindings input).run memory).1.1 := by
  have silent : ∀ remark ∈ (course.responses memory).flatten, remark ≠ .farewell := by
    refine Turn.forall_mem_flatten (fun turn _ memory remark member => ?_) memory
    rintro rfl
    exact turn.farewell_notMem_remarks memory member
  rw [course.run_converse] at interrupted ⊢
  intro member
  rcases List.mem_append.1 member with first | later
  · simp [Dialogue.banner] at first
  rcases List.mem_append.1 later with said | asked
  · exact silent _ said rfl
  · exact Ending.isAsking_of_mem_remarks interrupted asked

end Course

/-- **A dialogue ends with the last words or is interrupted.** What is written ends with the last
words; or with a question and without them; or a line that is no text interrupts the dialogue,
without them either. The question is left exactly if the input is a text that ends while a variable
of an expression has neither a value nor a line that is a number. A line that is no text interrupts
the dialogue exactly if there is one and nobody asks to end before it. Every input has a course: the
lines before such a line, which are all lines of a text, are those of the turns and of the ending,
one after the other, and the dialogue waits for an expression between any two turns. Each turn with
an expression has one outcome, whatever it is; and where a line in the place of an expression asks
to end the dialogue, it is over. -/
theorem Dialogue.converse_ends (calculator : Calculator σ) (bindings : Bindings)
    (input : ByteArray) (memory : σ) :
    let lines := (Text.read input).lines
    let isText := ∃ text : String, input = text.toUTF8
    let run := ((converse calculator bindings input).run memory).1
    ((run.2 = none ∧ ∃ before, Remark.texts run.1 = before ++ "Goodbye.\n") ∨
      (∃ name : String, run.2 = some (.unanswered name) ∧
        (∃ before, Remark.texts run.1 = before ++ s!"Enter value for {name}: ") ∧
        .farewell ∉ run.1) ∨
      run.2 = some .undecodable ∧ ¬ isText ∧ .farewell ∉ run.1) ∧
    ((∃ name, run.2 = some (.unanswered name)) ↔
      isText ∧ ∃ course : Course calculator bindings lines, course.ending.IsUnanswered) ∧
    (run.2 = some .undecodable ↔
      ¬ isText ∧ ∃ course : Course calculator bindings lines, ¬ course.ending.IsExit) ∧
    (∀ text : String, input = text.toUTF8 → lines = Text.lines text) ∧
    Nonempty (Course calculator bindings lines) ∧
    ∀ course : Course calculator bindings lines,
      (∃ responses : List (List Remark),
        run.1 = banner calculator ++ [.mark] ++
          (responses.flatten ++ course.ending.remarks (Text.read input).stop) ∧
        List.Forall₂ (fun turn response => response.countP Remark.isReport = turn.outcomes)
          course.turns responses) ∧
      (∀ begun, begun <+: course.turns →
        ((hearAll calculator bindings (begun.flatMap Turn.lines) .ready).run memory).1.2 =
          .ready) ∧
      ∀ line unread, course.ending = .exit line unread →
        ((hearAll calculator bindings (course.turns.flatMap Turn.lines ++ [line])
          .ready).run memory).1.2 = .over := by
  intro lines isText run
  -- any course says what the run is, so one is enough for the ways to end
  obtain ⟨course⟩ := Course.exists_course calculator bindings lines
  have said (course : Course calculator bindings lines) : run = _ := course.run_converse memory
  have silent : run.2 ≠ none → .farewell ∉ run.1 := course.farewell_notMem_converse memory
  have finished : (Text.read input).stop = .finished ↔ isText := Text.read_stop_eq_finished_iff
  have undecodable : (Text.read input).stop = .undecodable ↔ ¬ isText := by
    rw [← finished]
    cases (Text.read input).stop <;> simp
  have unanswered (course : Course calculator bindings lines) :
      (∃ name, run.2 = some (.unanswered name)) ↔ isText ∧ course.ending.IsUnanswered := by
    rw [said course, ← finished]
    exact Ending.interruption_eq_unanswered_iff
  have interrupted (course : Course calculator bindings lines) :
      run.2 = some .undecodable ↔ ¬ isText ∧ ¬ course.ending.IsExit := by
    rw [said course, ← undecodable]
    exact Ending.interruption_eq_undecodable_iff
  refine ⟨?_, ⟨fun missing => ?_, ?_⟩, ⟨fun failed => ?_, ?_⟩, ?_, ⟨course⟩, fun course =>
    ⟨⟨course.responses memory, ?_, ?_⟩, fun begun first => ?_, fun line unread ends => ?_⟩⟩
  · rcases course.ending.exists_texts_remarks (Text.read input).stop with
      ⟨fine, ends⟩ | ⟨name, wrong, ends⟩ | wrong
    · refine .inl ⟨?_, ?_⟩ <;> rw [said course]
      · exact fine
      · exact Remark.exists_texts_append _ (Remark.exists_texts_append _ ends)
    · have missing : run.2 = some (.unanswered name) := by rw [said course, wrong]
      refine .inr (.inl ⟨name, missing, ?_, silent (by simp [missing])⟩)
      rw [said course]
      exact Remark.exists_texts_append _ (Remark.exists_texts_append _ ends)
    · have failed : run.2 = some .undecodable := by rw [said course, wrong]
      exact .inr (.inr ⟨failed, ((interrupted course).1 failed).1, silent (by simp [failed])⟩)
  · obtain ⟨text, left⟩ := (unanswered course).1 missing
    exact ⟨text, course, left⟩
  · rintro ⟨text, course, left⟩
    exact (unanswered course).2 ⟨text, left⟩
  · obtain ⟨noText, goesOn⟩ := (interrupted course).1 failed
    exact ⟨noText, course, goesOn⟩
  · rintro ⟨noText, course, goesOn⟩
    exact (interrupted course).2 ⟨noText, goesOn⟩
  · rintro text rfl
    exact Text.lines_read_toUTF8 text
  · rw [said course]
  · exact Turn.forall₂_run_mapM (fun turn _ memory => turn.countP_remarks memory) memory
  · exact run_hearAll_turns (fun turn member => course.fits turn (first.subset member)) memory
  · have exits := course.ending_fits
    rw [ends] at exits
    exact run_hearAll_exit course.fits exits memory

set_option maxRecDepth 2000 in
/-- In the place of an answer `exit` is refused; in the place of an expression it ends the dialogue.
-/
theorem Dialogue.converse_ends_exit :
    let calculator : Calculator Unit := ⟨.empty⟩
    (∃ name, ((converse calculator ∅ "x\nexit".toUTF8).run ()).1.2 = some (.unanswered name)) ∧
      ((hearAll calculator ∅ ["", " Exit "] .ready).run ()).1.2 = .over := by
  intro calculator
  have missing : calculator.missing ∅ (Text.trim "x") = ["x"] := by with_unfolding_all rfl
  have refused : Decimal.readFloat? (Text.trim "exit") = none := by with_unfolding_all rfl
  let asks : Course calculator ∅ (Text.read "x\nexit".toUTF8).lines :=
    { turns := []
      ending := .unanswered "x" [] "x" [] ["exit"]
      fits := List.forall_mem_nil _
      ending_fits := ⟨⟨by decide +kernel, by decide +kernel⟩, missing,
        List.forall_mem_singleton.2 refused⟩
      lines_eq := (Text.lines_read_toUTF8 _).trans (by decide +kernel) }
  let exits : Course calculator ∅ (Text.read "\n Exit \n1".toUTF8).lines :=
    { turns := [.blank ""]
      ending := .exit " Exit " ["1"]
      fits := List.forall_mem_singleton.2 (by decide +kernel : Text.trim "" = "")
      ending_fits := (by decide +kernel : isExit (Text.trim " Exit ") = true)
      lines_eq := (Text.lines_read_toUTF8 _).trans (by decide +kernel) }
  obtain ⟨_, unanswered, _⟩ := converse_ends calculator ∅ "x\nexit".toUTF8 ()
  obtain ⟨_, _, _, _, _, courses⟩ := converse_ends calculator ∅ "\n Exit \n1".toUTF8 ()
  exact ⟨unanswered.2 ⟨⟨_, rfl⟩, asks, trivial⟩, (courses exits).2.2 " Exit " ["1"] rfl⟩

/-- A byte that encodes nothing ends a dialogue neither with the last words nor at a question. -/
theorem Dialogue.converse_ends_undecodable :
    let input : ByteArray := ⟨#[0xFF, 0x0A]⟩
    let run := ((converse (.standard : Calculator Unit) ∅ input).run ()).1
    Program.finish run =
        (⟨Remark.texts (banner (.standard : Calculator Unit)) ++ "> ",
          "Error: stream did not contain valid UTF-8\n"⟩, Program.usageFault) ∧
      ¬ ((run.2 = none ∧ ∃ before, Remark.texts run.1 = before ++ "Goodbye.\n") ∨
        ∃ name : String, run.2 = some (.unanswered name) ∧
          (∃ before, Remark.texts run.1 = before ++ s!"Enter value for {name}: ") ∧
          .farewell ∉ run.1) := by
  intro input run
  have failed : run = (banner (.standard : Calculator Unit) ++ [.mark], some .undecodable) := by
    with_unfolding_all rfl
  rw [failed]
  refine ⟨by decide +kernel, ?_⟩
  rintro (⟨fine, _⟩ | ⟨name, missing, _⟩)
  · cases fine
  · cases missing

end Reckoner
