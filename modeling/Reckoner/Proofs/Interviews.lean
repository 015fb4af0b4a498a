import Reckoner.Proofs.Modes

/-! # Interviews

The calculation of an expression told by its questions and answers (`Calculator.interview`), where
the consultation takes one line after the other. A question takes the lines up to the first one that
is a number: these are an `Answer`. Whatever the lines are, either the first of them answer all
questions, or they answer the first questions and none is left for the next one
(`Answer.exists_split`). In the one case the expression is evaluated with what was answered and the
other lines are left (`consult_answered`), in the other it is not evaluated
(`consult_unanswered`). -/

namespace Reckoner

/-! ## Answers -/

namespace Remark

/-- The remark is a question. -/
def isQuestion : Remark → Bool
  | .question _ => true
  | _ => false

/-- What is said to lines of which none is a number: the question before the first of them, and
after each of them. -/
def attempts (name : String) (refused : List String) : List Remark :=
  .question name :: refused.flatMap fun _ => [.refusal, .question name]

/-- Lines that are refused and the end of the lines were asked for once each. -/
theorem countP_attempts (name : String) (refused : List String) :
    (attempts name refused).countP isQuestion = refused.length + 1 := by
  rw [attempts, List.countP_cons_of_pos rfl]
  induction refused with
  | nil => rfl
  | cons line refused ih =>
    have each : [refusal, question name].countP isQuestion = 1 := rfl
    rw [List.flatMap_cons, List.countP_append, List.length_cons, each]
    omega

/-- For a question it is asked or a line refused. -/
theorem eq_of_mem_attempts {name : String} {refused : List String} {remark : Remark}
    (member : remark ∈ attempts name refused) : remark = .question name ∨ remark = .refusal := by
  rcases List.mem_cons.1 member with first | repeated
  · exact .inl first
  · obtain ⟨line, _, said⟩ := List.mem_flatMap.1 repeated
    rcases List.mem_cons.1 said with refusal | again
    · exact .inr refusal
    · exact .inl (List.mem_singleton.1 again)

/-- Only the one variable is asked for. -/
theorem eq_of_question_mem_attempts {name other : String} {refused : List String}
    (member : question other ∈ attempts name refused) : other = name := by
  rcases eq_of_mem_attempts member with same | refusal
  · exact question.inj same
  · cases refusal

end Remark

/-- The answer to the question for a variable: lines that were refused, and the line after them that
is a number. -/
structure Answer where
  name : String
  refused : List String
  accepted : String
  value : Float
  refused_eq_none : ∀ line ∈ refused, Decimal.readFloat? (Text.trim line) = none
  accepted_eq_some : Decimal.readFloat? (Text.trim accepted) = some value

namespace Answer

/-- The lines that were read. -/
def lines (answer : Answer) : List String := answer.refused ++ [answer.accepted]

/-- What is known by the answer. -/
def entry (answer : Answer) : String × Float := (answer.name, answer.value)

/-- What is said before each of the lines. -/
def remarks (answer : Answer) : List Remark := Remark.attempts answer.name answer.refused

@[simp] theorem map_fst_entry (answers : List Answer) :
    (answers.map entry).map Prod.fst = answers.map name := by
  rw [List.map_map]
  rfl

/-- For answers there are as many questions as lines. -/
theorem countP_remarks (answers : List Answer) :
    (answers.flatMap remarks).countP Remark.isQuestion = (answers.flatMap lines).length := by
  induction answers with
  | nil => rfl
  | cons answer answers ih =>
    rw [List.flatMap_cons, List.flatMap_cons, List.countP_append, List.length_append, ih, remarks,
      Remark.countP_attempts, lines, List.length_append]
    rfl

/-- For answers a variable with an answer is asked for or a line refused. -/
theorem eq_of_mem_remarks {answers : List Answer} {remark : Remark}
    (member : remark ∈ answers.flatMap remarks) :
    (∃ name ∈ answers.map Answer.name, remark = .question name) ∨ remark = .refusal := by
  obtain ⟨answer, inside, said⟩ := List.mem_flatMap.1 member
  rcases Remark.eq_of_mem_attempts said with question | refusal
  · exact .inl ⟨answer.name, List.mem_map_of_mem inside, question⟩
  · exact .inr refusal

/-- Only variables with an answer were asked for. -/
theorem mem_of_question_mem {answers : List Answer} {name : String}
    (member : Remark.question name ∈ answers.flatMap remarks) : name ∈ answers.map Answer.name := by
  rcases eq_of_mem_remarks member with ⟨other, inside, same⟩ | refusal
  · rwa [Remark.question.inj same]
  · cases refusal

/-- Variables without an answer keep their values. -/
theorem getElem?_insertMany_entry {answers : List Answer} {name : String}
    (free : name ∉ answers.map Answer.name) (bindings : Bindings) :
    (bindings.insertMany (answers.map entry))[name]? = bindings[name]? := by
  refine Std.TreeMap.getElem?_insertMany_list_of_contains_eq_false ?_
  rw [map_fst_entry]
  simpa using free

/-- Lines begin with an answer, unless none of them is a number. -/
theorem exists_first (name : String) (lines : List String) :
    (∃ (answer : Answer) (rest : List String), answer.name = name ∧ lines = answer.lines ++ rest) ∨
      ∀ line ∈ lines, Decimal.readFloat? (Text.trim line) = none := by
  induction lines with
  | nil => exact .inr (List.forall_mem_nil _)
  | cons line lines ih =>
    cases spelled : Decimal.readFloat? (Text.trim line) with
    | some value =>
      exact .inl ⟨⟨name, [], line, value, List.forall_mem_nil _, spelled⟩, lines, rfl, rfl⟩
    | none =>
      rcases ih with ⟨answer, rest, named, rfl⟩ | refused
      -- the line is one more that the first answer leaves behind
      · refine .inl ⟨⟨name, line :: answer.refused, answer.accepted, answer.value,
          List.forall_mem_cons.2 ⟨spelled, answer.refused_eq_none⟩, answer.accepted_eq_some⟩,
          rest, rfl, rfl⟩
      · exact .inr (List.forall_mem_cons.2 ⟨spelled, refused⟩)

/-- Lines answer all questions and some are left, or they answer the first of the questions and the
others are refused at the next. -/
theorem exists_split (missing lines : List String) :
    (∃ (answers : List Answer) (rest : List String),
      missing = answers.map name ∧ lines = answers.flatMap Answer.lines ++ rest) ∨
    ∃ (answers : List Answer) (asked : String) (others refused : List String),
      missing = answers.map name ++ asked :: others ∧
      (∀ line ∈ refused, Decimal.readFloat? (Text.trim line) = none) ∧
      lines = answers.flatMap Answer.lines ++ refused := by
  induction missing generalizing lines with
  | nil => exact .inl ⟨[], lines, rfl, rfl⟩
  | cons asked others ih =>
    rcases exists_first asked lines with ⟨first, rest, rfl, rfl⟩ | refused
    -- the lines after the first answer are those of the other questions
    · rcases ih rest with ⟨answers, left, rfl, rfl⟩ | ⟨answers, next, after, refused, rfl, wrong, rfl⟩
      · exact .inl ⟨first :: answers, left, rfl, by simp⟩
      · exact .inr ⟨first :: answers, next, after, refused, rfl, wrong, by simp⟩
    · exact .inr ⟨[], asked, others, lines, rfl, refused, rfl⟩

end Answer

variable {σ : Type} {calculator : Calculator σ} {bindings known : Bindings} {expression : String}

/-! ## Questions one after the other -/

namespace Consultation

/-- Asks for the missing values, with lines as the answers. -/
def pursue (calculator : Calculator σ) (expression : String) (known : Bindings)
    (missing lines : List String) : List Remark × Consultation σ × List String :=
  let step := proceed calculator expression known missing
  (answerAll calculator lines step.2).map (step.1 ++ ·) id

/-- When nothing is missing, no line is read. -/
theorem pursue_nil (calculator : Calculator σ) (expression : String) (known : Bindings)
    (lines : List String) :
    pursue calculator expression known [] lines =
      ([], .settled (calculator.calculate expression known), lines) := by
  simp [pursue, proceed]

/-- A line is answered before the lines after it. -/
theorem answerAll_cons (inquiry : Inquiry) (line : String) (lines : List String) :
    answerAll calculator (line :: lines) (.asking inquiry) =
      (answerAll calculator lines (inquiry.answer calculator line).2).map
        ((inquiry.answer calculator line).1 ++ ·) id := by
  rw [answerAll]
  simp only [Prod.map, id_eq]

/-- Each line that is no number is refused, and the question asked again. -/
theorem answerAll_refused (calculator : Calculator σ) (inquiry : Inquiry) {refused : List String}
    (wrong : ∀ line ∈ refused, Decimal.readFloat? (Text.trim line) = none) (lines : List String) :
    answerAll calculator (refused ++ lines) (.asking inquiry) =
      (answerAll calculator lines (.asking inquiry)).map
        ((refused.flatMap fun _ => [.refusal, .question inquiry.name]) ++ ·) id := by
  induction refused with
  | nil => rfl
  | cons line refused ih =>
    obtain ⟨spelled, others⟩ := List.forall_mem_cons.1 wrong
    -- a refused line leaves the inquiry as it was
    have answered : inquiry.answer calculator line =
        ([.refusal, .question inquiry.name], .asking inquiry) := by rw [Inquiry.answer, spelled]
    rw [List.cons_append, answerAll_cons, answered, ih others]
    rfl

/-- What is answered is known for the next question. -/
theorem pursue_answer (calculator : Calculator σ) (expression : String) (known : Bindings)
    (answer : Answer) (others lines : List String) :
    pursue calculator expression known (answer.name :: others) (answer.lines ++ lines) =
      (pursue calculator expression (known.insert answer.name answer.value) others lines).map
        (answer.remarks ++ ·) id := by
  have accepted : (⟨expression, answer.name, others, known⟩ : Inquiry).answer calculator
      answer.accepted =
      proceed calculator expression (known.insert answer.name answer.value) others := by
    rw [Inquiry.answer, answer.accepted_eq_some]
  have begun : proceed calculator expression known (answer.name :: others) =
      ([.question answer.name], .asking ⟨expression, answer.name, others, known⟩) := rfl
  simp only [pursue, begun, Answer.lines, List.append_assoc,
    answerAll_refused _ _ answer.refused_eq_none, answerAll_cons, accepted, Prod.map, id_eq,
    Answer.remarks, Remark.attempts, List.cons_append, List.nil_append]

/-- What is answered is known after the last of the questions that are answered. -/
theorem pursue_answers (calculator : Calculator σ) (expression : String) (known : Bindings)
    (answers : List Answer) (others lines : List String) :
    pursue calculator expression known (answers.map Answer.name ++ others)
        (answers.flatMap Answer.lines ++ lines) =
      (pursue calculator expression (known.insertMany (answers.map Answer.entry)) others
        lines).map (answers.flatMap Answer.remarks ++ ·) id := by
  induction answers generalizing known with
  | nil =>
    have same : known.insertMany ([] : List (String × Float)) = known :=
      Std.TreeMap.insertMany_nil
    rw [List.map_nil, List.map_nil, same]
    rfl
  | cons answer answers ih =>
    -- the first answer is known when the second question is asked, so `ih` begins with it
    rw [List.map_cons, List.cons_append, List.flatMap_cons, List.append_assoc, pursue_answer, ih,
      List.map_cons, Answer.entry, Std.TreeMap.insertMany_cons, Prod.map_map, List.flatMap_cons]
    refine congrFun (congrArg₂ Prod.map (funext fun remarks => ?_) rfl) _
    exact (List.append_assoc ..).symm

/-- A question without an answer is left. -/
theorem pursue_refused {refused : List String}
    (wrong : ∀ line ∈ refused, Decimal.readFloat? (Text.trim line) = none)
    (calculator : Calculator σ) (expression : String) (known : Bindings) (name : String)
    (others : List String) :
    pursue calculator expression known (name :: others) refused =
      (Remark.attempts name refused, .asking ⟨expression, name, others, known⟩, []) := by
  have asked := answerAll_refused calculator ⟨expression, name, others, known⟩ wrong []
  rw [List.append_nil] at asked
  simp [pursue, proceed, asked, answerAll, Remark.attempts]

end Consultation

/-! ## What is missing -/

/-- The variables of an expression without a value. There are none if the expression cannot be split
into tokens. -/
def Calculator.missing (calculator : Calculator σ) (bindings : Bindings) (expression : String) :
    List String :=
  match calculator.variableNames expression with
  | .error _ => []
  | .ok names => names.filter fun name => !bindings.contains name

/-- The line that names what is missing, if anything is. -/
def Remark.heading (missing : List String) : List Remark :=
  if missing = [] then [] else [.missing missing]

/-- The line names what is missing. -/
theorem Remark.eq_of_mem_heading {missing : List String} {remark : Remark}
    (member : remark ∈ heading missing) : remark = .missing missing := by
  unfold heading at member
  split at member
  · cases member
  · exact List.mem_singleton.1 member

/-- What is asked for is asked for after the line. -/
theorem Remark.question_mem_of_heading {name : String} {missing : List String}
    {remarks : List Remark} (member : .question name ∈ heading missing ++ remarks) :
    .question name ∈ remarks := by
  rcases List.mem_append.1 member with headed | asked
  · cases eq_of_mem_heading headed
  · exact asked

/-- The line is no question. -/
theorem Remark.countP_heading (missing : List String) :
    (heading missing).countP isQuestion = 0 := by
  unfold heading
  split <;> rfl

namespace Calculator

/-- What is missing has no value. -/
theorem notMem_of_mem_missing {name : String}
    (member : name ∈ calculator.missing bindings expression) : name ∉ bindings := by
  rw [missing] at member
  split at member
  · cases member
  · have free := (List.mem_filter.1 member).2
    simpa [← Std.TreeMap.contains_iff_mem] using free

/-- What is missing is in strictly ascending order. -/
theorem missing_ascending (calculator : Calculator σ) (bindings : Bindings) (expression : String) :
    (calculator.missing bindings expression).Pairwise fun low high => compare low high = .lt := by
  rw [missing, variableNames]
  cases calculator.tokens expression with
  | error d => exact .nil
  | ok tokens => exact (variablesOf_ascending tokens).filter _

end Calculator

namespace Consultation

/-- A consultation names what is missing and asks for it. -/
theorem consult_eq_pursue (calculator : Calculator σ) (bindings : Bindings) (expression : String)
    (lines : List String) :
    let missing := calculator.missing bindings expression
    consult calculator bindings expression lines =
      (pursue calculator expression bindings missing lines).map (Remark.heading missing ++ ·) id := by
  intro missing
  rw [consult, start]
  cases listed : calculator.variableNames expression with
  | error d =>
    have none : missing = [] := by simp only [missing, Calculator.missing, listed]
    have failed := Calculator.tokens_of_variableNames_error listed
    -- an expression that cannot be split fails as soon as it is evaluated
    rw [none, pursue_nil, Calculator.calculate_of_error failed]
    simp only [answerAll_settled]
    rfl
  | ok names =>
    have same : missing = names.filter fun name => !bindings.contains name := by
      simp only [missing, Calculator.missing, listed]
    rw [same, pursue]
    simp only [Prod.map, List.append_assoc, Remark.heading, id_eq]

variable {answers : List Answer}

/-- Where all questions are answered, the expression is evaluated with what is known then. -/
theorem consult_answered
    (answered : calculator.missing bindings expression = answers.map Answer.name)
    (rest : List String) :
    consult calculator bindings expression (answers.flatMap Answer.lines ++ rest) =
      (Remark.heading (answers.map Answer.name) ++ answers.flatMap Answer.remarks,
        .settled (calculator.calculate expression
          (bindings.insertMany (answers.map Answer.entry))), rest) := by
  have pursued := pursue_answers calculator expression bindings answers [] rest
  rw [List.append_nil] at pursued
  rw [consult_eq_pursue, answered, pursued, pursue_nil]
  simp

/-- Where a question is not answered, it is left when no line is. -/
theorem consult_unanswered {name : String} {others refused : List String}
    (asked : calculator.missing bindings expression = answers.map Answer.name ++ name :: others)
    (wrong : ∀ line ∈ refused, Decimal.readFloat? (Text.trim line) = none) :
    consult calculator bindings expression (answers.flatMap Answer.lines ++ refused) =
      (Remark.heading (answers.map Answer.name ++ name :: others) ++
          (answers.flatMap Answer.remarks ++ Remark.attempts name refused),
        .asking ⟨expression, name, others, bindings.insertMany (answers.map Answer.entry)⟩, []) := by
  rw [consult_eq_pursue, asked, pursue_answers, pursue_refused wrong]
  rfl

end Consultation

/-! ## Interviews -/

/-- The calculation of an expression, with lines to answer what is missing: what is said; the
outcome of the expression, or the interruption where no answer could be read; and the lines that are
left. -/
def Calculator.interview (calculator : Calculator σ) (bindings : Bindings) (expression : String)
    (stop : Text.Stop) (lines : List String) :
    StateM σ (List Remark × Except Interruption (Except Diagnostic Float) × List String) :=
  match Consultation.consult calculator bindings expression lines with
  | (remarks, .settled evaluation, rest) => do
    let outcome ← evaluation.run
    return (remarks, .ok outcome, rest)
  | (remarks, .asking inquiry, rest) => return (remarks, .error (inquiry.interruption stop), rest)

namespace Calculator

variable {answers : List Answer}

/-- Where all questions are answered, the outcome is that of the expression with what is known then.
-/
theorem interview_answered
    (answered : calculator.missing bindings expression = answers.map Answer.name)
    (stop : Text.Stop) (rest : List String) :
    calculator.interview bindings expression stop (answers.flatMap Answer.lines ++ rest) = (do
      let outcome ←
        (calculator.calculate expression (bindings.insertMany (answers.map Answer.entry))).run
      return (Remark.heading (answers.map Answer.name) ++ answers.flatMap Answer.remarks,
        .ok outcome, rest)) := by
  rw [interview, Consultation.consult_answered answered]

/-- Where a question is not answered, nothing is evaluated. -/
theorem interview_unanswered {name : String} {others refused : List String}
    (asked : calculator.missing bindings expression = answers.map Answer.name ++ name :: others)
    (wrong : ∀ line ∈ refused, Decimal.readFloat? (Text.trim line) = none) (stop : Text.Stop) :
    calculator.interview bindings expression stop (answers.flatMap Answer.lines ++ refused) =
      return (Remark.heading (answers.map Answer.name ++ name :: others) ++
          (answers.flatMap Answer.remarks ++ Remark.attempts name refused),
        .error (.atQuestion name stop), []) := by
  rw [interview, Consultation.consult_unanswered asked wrong]
  rfl

end Calculator

/-- What a run for one expression writes and its status when no more is said. -/
def Program.summary (said : List Remark) :
    Except Interruption (Except Diagnostic Float) → Output × UInt8
  | .ok (.ok value) => (⟨Remark.texts (said ++ [.report (.ok value)]), ""⟩, success)
  | .ok (.error diagnostic) =>
    (⟨Remark.texts said, complaint diagnostic.message⟩, expressionFault)
  | .error interruption => (⟨Remark.texts said, complaint interruption.message⟩, usageFault)

/-- A run for one expression is the interview about it. -/
theorem Program.performOne_eq_interview (calculator : Calculator σ) (bindings : Bindings)
    (expression : String) (input : ByteArray) :
    performOne calculator bindings expression input = (do
      let (said, outcome, _) ←
        calculator.interview bindings expression (Text.read input).stop (Text.read input).lines
      return summary said outcome) := by
  rcases consulted : Consultation.consult calculator bindings expression (Text.read input).lines
    with ⟨said, evaluation | inquiry, rest⟩
  · rw [performOne_eq_conclude consulted, Calculator.interview, consulted]
    simp only [conclude, bind_assoc, pure_bind]
    refine bind_congr fun outcome => ?_
    cases outcome <;> rfl
  · rw [performOne_eq_conclude consulted, Calculator.interview, consulted]
    rfl

namespace Dialogue

/-- What a dialogue that waits for an expression says to all lines that are left and where no more
can be read, and the interruption if there is one. -/
def session (calculator : Calculator σ) (bindings : Bindings) (stop : Text.Stop)
    (lines : List String) : StateM σ (List Remark × Option Interruption) := do
  let (remarks, last) ← hearAll calculator bindings lines .ready
  let (final, interruption) := last.close stop
  return (remarks ++ final, interruption)

/-- A line with an expression begins an interview with the lines after it. If all is answered, the
outcome is reported, and the dialogue goes on with the lines that are left. -/
theorem session_expression (calculator : Calculator σ) (bindings : Bindings) {line : String}
    (goesOn : isExit (Text.trim line) = false) (isExpression : Text.trim line ≠ "")
    (stop : Text.Stop) (lines : List String) :
    session calculator bindings stop (line :: lines) = (do
      let (said, outcome, rest) ← calculator.interview bindings (Text.trim line) stop lines
      match outcome with
      | .error interruption => return (said, some interruption)
      | .ok outcome =>
        let (more, fault) ← session calculator bindings stop rest
        return (said ++ [.report outcome, .blank, .mark] ++ more, fault)) := by
  rcases consulted : Consultation.consult calculator bindings (Text.trim line) lines with
    ⟨said, evaluation | inquiry, rest⟩
  · rw [session, hearAll_expression calculator bindings goesOn isExpression,
      Calculator.interview, consulted]
    simp only [follow, session, bind_assoc, pure_bind, List.append_assoc]
  · obtain rfl := Consultation.consult_asking consulted
    rw [session, hearAll_expression calculator bindings goesOn isExpression,
      Calculator.interview, consulted]
    simp [follow, hearAll, close]

end Dialogue

/-- **A calculation asks for exactly what is missing, and then evaluates.** What is missing are the
variables of the expression that have no value, in ascending order. If the expression cannot be
split into tokens, nothing is said or read. Otherwise what is missing is named, and each variable
asked for until a line is a number. If all are answered, the outcome is that of the expression with
the answers beside the bindings; if no answer can be read at a question, the expression is not
evaluated, and where the input has ended the interruption names the variable. For each question but
the last of these a line is read, and no bound variable is asked for or gets another value. This is
what a run for one expression writes, and what a dialogue says to a line before it goes on with the
same bindings. -/
theorem Calculator.interview_asks_missing (calculator : Calculator σ) (bindings : Bindings)
    (expression : String) (stop : Text.Stop) (lines : List String) :
    let missing := calculator.missing bindings expression
    (∀ d, calculator.variableNames expression = .error d →
      calculator.interview bindings expression stop lines = return ([], .ok (.error d), lines)) ∧
    (∀ names, calculator.variableNames expression = .ok names →
      missing = names.filter fun name => !bindings.contains name) ∧
    missing.Pairwise (fun low high => compare low high = .lt) ∧
    ((∃ (answers : List Answer) (rest : List String),
        missing = answers.map Answer.name ∧ lines = answers.flatMap Answer.lines ++ rest ∧
        let said := Remark.heading missing ++ answers.flatMap Answer.remarks
        let known := bindings.insertMany (answers.map Answer.entry)
        (∀ name ∈ bindings, known[name]? = bindings[name]? ∧ .question name ∉ said) ∧
        said.countP Remark.isQuestion + rest.length = lines.length ∧
        calculator.interview bindings expression stop lines = (do
          let outcome ← (calculator.calculate expression known).run
          return (said, .ok outcome, rest))) ∨
      ∃ (answers : List Answer) (asked : String) (others refused : List String),
        missing = answers.map Answer.name ++ asked :: others ∧
        (∀ line ∈ refused, Decimal.readFloat? (Text.trim line) = none) ∧
        lines = answers.flatMap Answer.lines ++ refused ∧
        let said := Remark.heading missing ++
          (answers.flatMap Answer.remarks ++ Remark.attempts asked refused)
        (∀ name ∈ bindings, .question name ∉ said) ∧
        said.countP Remark.isQuestion = lines.length + 1 ∧
        (stop = .finished → (Interruption.atQuestion asked stop).message =
          s!"input ended before a value for '{asked}' was given") ∧
        calculator.interview bindings expression stop lines =
          return (said, .error (.atQuestion asked stop), [])) ∧
    (∀ input, Text.read input = ⟨lines, stop⟩ →
      Program.performOne calculator bindings expression input = (do
        let (said, outcome, _) ← calculator.interview bindings expression stop lines
        return Program.summary said outcome)) ∧
    ∀ line, expression = Text.trim line → Dialogue.isExit expression = false → expression ≠ "" →
      Dialogue.session calculator bindings stop (line :: lines) = (do
        let (said, outcome, rest) ← calculator.interview bindings expression stop lines
        match outcome with
        | .error interruption => return (said, some interruption)
        | .ok outcome =>
          let (more, fault) ← Dialogue.session calculator bindings stop rest
          return (said ++ [.report outcome, .blank, .mark] ++ more, fault)) := by
  intro missing
  refine ⟨fun d failed => ?_, fun names listed => ?_,
    calculator.missing_ascending bindings expression, ?_,
    fun input same => ?_, fun line same goesOn isExpression => ?_⟩
  · rw [interview, Consultation.consult, Consultation.start, failed]
    simp only [Consultation.answerAll_settled]
    rfl
  · simp only [missing, Calculator.missing, listed]
  · have free {name : String} (bound : name ∈ bindings) : name ∉ missing :=
      fun member => notMem_of_mem_missing member bound
    -- the lines answer all questions, or they end at one of them
    rcases Answer.exists_split missing lines with
      ⟨answers, rest, answered, rfl⟩ | ⟨answers, asked, others, refused, unanswered, wrong, rfl⟩
    · rw [answered] at free
      refine .inl ⟨answers, rest, answered, rfl, fun name bound => ⟨?_, fun member => ?_⟩, ?_, ?_⟩
      · exact Answer.getElem?_insertMany_entry (free bound) bindings
      · exact free bound (Answer.mem_of_question_mem (Remark.question_mem_of_heading member))
      · rw [List.countP_append, Remark.countP_heading, Answer.countP_remarks, List.length_append,
          Nat.zero_add]
      · rw [interview_answered answered, answered]
    · rw [unanswered] at free
      refine .inr ⟨answers, asked, others, refused, unanswered, wrong, rfl,
        fun name bound member => free bound ?_, ?_, ?_, ?_⟩
      · rcases List.mem_append.1 (Remark.question_mem_of_heading member) with earlier | last
        · exact List.mem_append_left _ (Answer.mem_of_question_mem earlier)
        · rw [Remark.eq_of_question_mem_attempts last]
          exact List.mem_append_right _ (List.mem_cons_self ..)
      · rw [List.countP_append, List.countP_append, Remark.countP_heading, Answer.countP_remarks,
          Remark.countP_attempts, List.length_append]
        omega
      · rintro rfl
        rfl
      · rw [interview_unanswered unanswered wrong, unanswered]
  · rw [Program.performOne_eq_interview, same]
  · subst same
    exact Dialogue.session_expression calculator bindings goesOn isExpression stop lines

set_option maxRecDepth 2000 in
/-- Nothing is asked for what cannot be split into tokens; for `x` the line that is no number is
refused. -/
theorem Calculator.interview_asks_missing_refusing :
    let calculator : Calculator Unit := ⟨.empty⟩
    (calculator.interview ∅ "#" .finished ["1"] =
      return ([], .ok (.error ⟨.unknownCharacter '#', 0⟩), ["1"])) ∧
    (Program.performOne calculator ∅ "#" "1".toUTF8 =
      return (⟨"", Program.complaint "unknown character '#' at position 0"⟩,
        Program.expressionFault)) ∧
    Dialogue.session calculator ∅ .finished [" x ", "one"] =
      return ([.missing ["x"], .question "x", .refusal, .question "x"],
        some (.unanswered "x")) := by
  intro calculator
  have failed : calculator.variableNames "#" = .error ⟨.unknownCharacter '#', 0⟩ := by
    with_unfolding_all rfl
  have reading : Text.read "1".toUTF8 = ⟨["1"], .finished⟩ :=
    (Text.read_toUTF8 _).trans (by decide +kernel)
  obtain ⟨refused, _, _, _, alone, _⟩ := calculator.interview_asks_missing ∅ "#" .finished ["1"]
  obtain ⟨_, _, _, _, _, dialogue⟩ := calculator.interview_asks_missing ∅ "x" .finished ["one"]
  have asks := dialogue " x " (by decide +kernel) (by decide +kernel) (by decide)
  refine ⟨refused _ failed, ?_, ?_⟩
  · rw [alone _ reading, refused _ failed]
    with_unfolding_all rfl
  · rw [asks]
    with_unfolding_all rfl

end Reckoner
