import Reckoner.Proofs.Runs
import Reckoner.Proofs.Sessions

/-! # One expression or a dialogue

The program calculates the expression of its command line or, in a dialogue, those of its input. The
expression of the command line is taken as it is, that of a line without the blanks around it, and
this makes no difference: blanks are no part of any token (`Text.withoutBlanks_trim`), so the same
values are asked for and the same is calculated (`Consultation.consult_about`). Therefore a run for
one expression says what a dialogue says about it in its first line, and reads as many of the lines
that follow (`Program.performOne_agrees_converse`). -/

namespace Reckoner

/-! ## An expression in a line -/

namespace Text

/-- What is not dropped at the beginning is kept. -/
theorem filter_dropWhile (p : Char → Bool) (cs : List Char) :
    (cs.dropWhile p).filter (fun c => !p c) = cs.filter fun c => !p c := by
  induction cs with
  | nil => rfl
  | cons c cs ih =>
    by_cases drops : p c = true
    · rw [List.dropWhile_cons_of_pos drops, ih, List.filter_cons_of_neg (by simp [drops])]
    · rw [List.dropWhile_cons_of_neg drops]

/-- Without the blanks around it a text has the same other characters. -/
theorem withoutBlanks_trim (text : String) : withoutBlanks (trim text) = withoutBlanks text := by
  rw [withoutBlanks, withoutBlanks, trim_toList, trimmed, List.filter_reverse, filter_dropWhile,
    List.filter_reverse, filter_dropWhile, List.reverse_reverse]

end Text

variable {σ : Type} {calculator : Calculator σ} {bindings known : Bindings}
  {expression other : String} {missing : List String}

/-- Blanks around an expression do not change its tokens. -/
theorem Calculator.tokens_trim (calculator : Calculator σ) (expression : String) :
    calculator.tokens (Text.trim expression) = calculator.tokens expression := by
  rw [tokens, tokens, Token.scan, Token.scan, Text.withoutBlanks_trim]

/-! ## Inquiries about the same tokens -/

/-- The same inquiry about another expression. -/
def Inquiry.about (expression : String) (inquiry : Inquiry) : Inquiry := { inquiry with expression }

namespace Consultation

/-- The same consultation about another expression. -/
def about (expression : String) : Consultation σ → Consultation σ
  | .settled evaluation => .settled evaluation
  | .asking inquiry => .asking (inquiry.about expression)

/-- The question is about the expression. -/
theorem Pursues.expression_eq {inquiry : Inquiry}
    (pursues : (Consultation.asking inquiry).Pursues calculator bindings expression) :
    inquiry.expression = expression := by
  cases pursues
  rfl

section SameTokens

variable (same : calculator.tokens other = calculator.tokens expression)

include same

/-- An expression with the same tokens is gone on with alike. -/
theorem proceed_about (known : Bindings) (missing : List String) :
    proceed calculator other known missing =
      (proceed calculator expression known missing).map id (about other) := by
  cases missing with
  | nil =>
    have calculates : calculator.calculate other known = calculator.calculate expression known := by
      rw [Calculator.calculate, Calculator.calculate, same]
    rw [proceed, proceed, calculates]
    rfl
  | cons name others => rfl

/-- An expression with the same tokens is begun with alike. -/
theorem start_about (bindings : Bindings) :
    start calculator bindings other =
      (start calculator bindings expression).map id (about other) := by
  rw [start, start, Calculator.variableNames, Calculator.variableNames, same]
  cases calculator.tokens expression with
  | error d => rfl
  | ok tokens =>
    simp only [Except.map, proceed_about same]
    rfl

/-- An answer is taken alike for an expression with the same tokens. -/
theorem answer_about {inquiry : Inquiry} (asks : inquiry.expression = expression) (line : String) :
    (inquiry.about other).answer calculator line =
      (inquiry.answer calculator line).map id (about other) := by
  subst asks
  simp only [Inquiry.answer, Inquiry.about]
  cases Decimal.readFloat? (Text.trim line) with
  | some value => exact proceed_about same _ _
  | none => rfl

/-- Answers are taken alike for an expression with the same tokens. -/
theorem answerAll_about {consultation : Consultation σ}
    (pursues : consultation.Pursues calculator bindings expression) (lines : List String) :
    answerAll calculator lines (consultation.about other) =
      (answerAll calculator lines consultation).map id (Prod.map (about other) id) := by
  induction lines generalizing consultation with
  | nil => cases consultation <;> rfl
  | cons line lines ih =>
    cases consultation with
    | settled evaluation => rfl
    | asking inquiry =>
      have next := (answer_proper pursues line).2
      have asks : (asking inquiry : Consultation σ).about other = .asking (inquiry.about other) :=
        rfl
      simp only [asks, answerAll, answer_about same pursues.expression_eq line, Prod.map_fst,
        Prod.map_snd, ih next]
      rfl

/-- **Expressions with the same tokens are consulted about alike**: the remarks are the same, so is
what is evaluated, and the same lines are left. -/
theorem consult_about (bindings : Bindings) (lines : List String) :
    consult calculator bindings other lines =
      (consult calculator bindings expression lines).map id (Prod.map (about other) id) := by
  have pursues := (start_proper calculator bindings expression).2
  simp only [consult, start_about same, Prod.map_fst, Prod.map_snd, answerAll_about same pursues]
  rfl

end SameTokens

/-- Where a question is left there are no lines. -/
theorem answerAll_asking {consultation : Consultation σ} {lines rest : List String}
    {remarks : List Remark} {inquiry : Inquiry}
    (asks : answerAll calculator lines consultation = (remarks, .asking inquiry, rest)) :
    rest = [] := by
  induction lines generalizing consultation remarks with
  | nil =>
    cases consultation with
    | settled evaluation => cases asks
    | asking inquiry => cases asks; rfl
  | cons line lines ih =>
    cases consultation with
    | settled evaluation => cases asks
    | asking inquiry =>
      rw [answerAll] at asks
      obtain ⟨_, last⟩ := Prod.mk.inj asks
      exact ih (Prod.ext rfl last)

/-- Where a question about an expression is left there are no lines. -/
theorem consult_asking {lines rest : List String} {remarks : List Remark} {inquiry : Inquiry}
    (asks : consult calculator bindings expression lines = (remarks, .asking inquiry, rest)) :
    rest = [] := by
  rcases started : start calculator bindings expression with ⟨first, consultation⟩
  rcases answered : answerAll calculator lines consultation with ⟨more, last, rest'⟩
  rw [consult, started] at asks
  simp only [answered] at asks
  cases asks
  exact answerAll_asking answered

/-- Evaluates what is left to be evaluated. -/
def settle : Consultation σ → StateM σ Unit
  | .settled evaluation => do
    let _ ← evaluation.run
  | .asking _ => return ()

/-- The expression that a question is about does not matter to what is evaluated. -/
@[simp] theorem settle_about (consultation : Consultation σ) :
    (consultation.about expression).settle = consultation.settle := by
  cases consultation <;> rfl

end Consultation

/-! ## The lines that are read -/

/-- The lines that a run for one expression leaves when it asks for no value any more. -/
def Program.unread (calculator : Calculator σ) : List String → Program → StateM σ (List String)
  | line :: lines, .single inquiry => do
    let (_, next) ← hear calculator line (.single inquiry)
    unread calculator lines next
  | lines, _ => return lines

/-- The lines that a dialogue leaves when it asks for no value any more. -/
def Dialogue.unread (calculator : Calculator σ) (bindings : Bindings) :
    List String → Dialogue → StateM σ (List String)
  | line :: lines, .asking inquiry => do
    let (_, next) ← hear calculator bindings line (.asking inquiry)
    unread calculator bindings lines next
  | lines, _ => return lines

/-- A run for one expression leaves the lines that the consultation leaves. -/
theorem Program.follow_unread (calculator : Calculator σ) (lines : List String)
    (step : List Remark × Consultation σ) :
    (do
      let (_, program) ← follow step
      unread calculator lines program) =
    (do
      (Consultation.answerAll calculator lines step.2).2.1.settle
      return (Consultation.answerAll calculator lines step.2).2.2) := by
  induction lines generalizing step with
  | nil =>
    obtain ⟨remarks, evaluation | inquiry⟩ := step
    · simp only [follow, Consultation.answerAll, Consultation.settle, bind_assoc]
      refine bind_congr fun outcome => ?_
      cases outcome <;> rfl
    · rfl
  | cons line lines ih =>
    obtain ⟨remarks, evaluation | inquiry⟩ := step
    · simp only [follow, Consultation.answerAll, Consultation.settle, bind_assoc]
      refine bind_congr fun outcome => ?_
      cases outcome <;> rfl
    · -- the line is the answer, and what comes of it leaves the others
      have heard : unread calculator (line :: lines) (.single inquiry) = _ :=
        ih (inquiry.answer calculator line)
      simp only [follow, Consultation.answerAll, pure_bind, heard]

/-- A dialogue leaves the lines that the consultation leaves. -/
theorem Dialogue.follow_unread (calculator : Calculator σ) (bindings : Bindings)
    (lines : List String) (step : List Remark × Consultation σ) :
    (do
      let (_, dialogue) ← follow step
      unread calculator bindings lines dialogue) =
    (do
      (Consultation.answerAll calculator lines step.2).2.1.settle
      return (Consultation.answerAll calculator lines step.2).2.2) := by
  induction lines generalizing step with
  | nil =>
    obtain ⟨remarks, evaluation | inquiry⟩ := step <;> rfl
  | cons line lines ih =>
    obtain ⟨remarks, evaluation | inquiry⟩ := step
    · rfl
    · have heard : unread calculator bindings (line :: lines) (.asking inquiry) = _ :=
        ih (inquiry.answer calculator line)
      simp only [follow, Consultation.answerAll, pure_bind, heard]

/-! ## The two modes -/

/-- A whole run for one expression: all that is written, and the status. -/
def Program.performOne (calculator : Calculator σ) (bindings : Bindings)
    (expression : String) (input : ByteArray) : StateM σ (Output × UInt8) := do
  let (output, program) ← follow (Consultation.start calculator bindings expression)
  let reading := Text.read input
  let (more, status) ← hearAll calculator reading.stop reading.lines program
  return (output ++ more, status)

/-- The lines of the input that a run for one expression does not read. -/
def Program.leaves (calculator : Calculator σ) (bindings : Bindings) (expression : String)
    (input : ByteArray) : StateM σ (List String) := do
  let (_, program) ← follow (Consultation.start calculator bindings expression)
  unread calculator (Text.read input).lines program

/-- The lines of the input that a dialogue does not read for the expression in the line before. -/
def Dialogue.leaves (calculator : Calculator σ) (bindings : Bindings) (line : String)
    (input : ByteArray) : StateM σ (List String) := do
  let (_, dialogue) ← hear calculator bindings line .ready
  unread calculator bindings (Text.read input).lines dialogue

/-- What a dialogue that has finished an expression writes from there on, and the status: the mark,
and what it says to the lines that are left and where no more can be read. -/
def Dialogue.afterwards (calculator : Calculator σ) (bindings : Bindings) (stop : Text.Stop)
    (lines : List String) : StateM σ (Output × UInt8) := do
  let (remarks, last) ← hearAll calculator bindings lines .ready
  let (final, interruption) := last.close stop
  return Program.finish (.mark :: (remarks ++ final), interruption)

/-- A run whose command line gives an expression is the run for it. -/
theorem Program.perform_eq_performOne {arguments : List String}
    (asked : CommandLine.read arguments = .ok (.calculate (some expression) bindings))
    (input : ByteArray) :
    perform calculator arguments input = performOne calculator bindings expression input := by
  rw [perform, start, asked]
  rfl

section FirstLine

variable {input : ByteArray} {said : List Remark} {consultation : Consultation σ}
  {rest : List String} {memory : σ}
  (consulted : Consultation.consult calculator bindings expression (Text.read input).lines =
    (said, consultation, rest))

include consulted

/-- A run for one expression writes what its consultation comes to. -/
theorem Program.performOne_eq_conclude :
    performOne calculator bindings expression input =
      conclude (Text.read input).stop (said, consultation) := by
  have whole : performOne calculator bindings expression input =
      conclude (Text.read input).stop
        ((Consultation.consult calculator bindings expression (Text.read input).lines).1,
          (Consultation.consult calculator bindings expression (Text.read input).lines).2.1) :=
    follow_hearAll ..
  rw [whole, consulted]

/-- A run for one expression leaves the lines that its consultation leaves. -/
theorem Program.leaves_eq_settle :
    leaves calculator bindings expression input = (do
      consultation.settle
      return rest) := by
  have whole : leaves calculator bindings expression input = (do
      (Consultation.consult calculator bindings expression (Text.read input).lines).2.1.settle
      return (Consultation.consult calculator bindings expression (Text.read input).lines).2.2) :=
    follow_unread ..
  rw [whole, consulted]

/-- The dialogue is about the expression without the blanks around it, and as far. -/
theorem Consultation.consult_trim :
    consult calculator bindings (Text.trim expression) (Text.read input).lines =
      (said, consultation.about (Text.trim expression), rest) := by
  rw [consult_about (calculator.tokens_trim expression), consulted]
  rfl

variable (goesOn : Dialogue.isExit (Text.trim expression) = false)
  (isExpression : Text.trim expression ≠ "")

include goesOn isExpression

/-- A dialogue leaves the lines that the consultation leaves. -/
theorem Dialogue.leaves_eq_settle :
    leaves calculator bindings expression input = (do
      consultation.settle
      return rest) := by
  have heard : hear calculator bindings expression .ready =
      follow (Consultation.start calculator bindings (Text.trim expression)) := by
    simp [hear, goesOn, isExpression]
  have whole : leaves calculator bindings expression input = (do
      (Consultation.consult calculator bindings (Text.trim expression)
        (Text.read input).lines).2.1.settle
      return (Consultation.consult calculator bindings (Text.trim expression)
        (Text.read input).lines).2.2) := by
    rw [leaves, heard]
    exact follow_unread ..
  rw [whole, Consultation.consult_trim consulted]
  simp

/-- A dialogue whose first line is an expression goes on with what the consultation comes to. -/
theorem Dialogue.hearAll_first_line :
    hearAll calculator bindings (expression :: (Text.read input).lines) .ready = (do
      let (remarks, dialogue) ← follow (said, consultation.about (Text.trim expression))
      let (more, last) ← hearAll calculator bindings rest dialogue
      return (remarks ++ more, last)) := by
  rw [hearAll_expression calculator bindings goesOn isExpression,
    Consultation.consult_trim consulted]

end FirstLine

/-- Where a consultation is settled, a dialogue reports the outcome and waits for an expression. -/
theorem Dialogue.run_follow_settled {evaluation : Evaluation σ Float} {memory memory' : σ}
    {outcome : Except Diagnostic Float} (ran : evaluation.run.run memory = (outcome, memory'))
    (said : List Remark) :
    (follow (said, .settled evaluation)).run memory =
      ((said ++ [.report outcome, .blank, .mark], .ready), memory') := by
  rw [follow, StateT.run_bind, ran]
  rfl

/-- What a dialogue says whose first line is a text. -/
theorem Dialogue.run_converse_line {line : String} (unbroken : '\n' ∉ line.toList)
    {input : ByteArray} {remarks : List Remark} {last : Dialogue} {memory between : σ}
    (run : (hearAll calculator bindings (line :: (Text.read input).lines) .ready).run memory =
      ((remarks, last), between)) :
    (converse calculator bindings ((line ++ "\n").toUTF8 ++ input)).run memory =
      ((banner calculator ++ [.mark] ++ remarks ++ (last.close (Text.read input).stop).1,
        (last.close (Text.read input).stop).2), between) := by
  have reading := Text.read_line unbroken input
  have heard : (hearAll calculator bindings (Text.read ((line ++ "\n").toUTF8 ++ input)).lines
      .ready).run memory = ((remarks, last), between) := by
    rw [reading]
    exact run
  rw [run_converse heard, reading]
  rfl

/-- Where the consultation about the first line is settled, the dialogue reports the outcome and
goes on with the lines that are left. -/
theorem Dialogue.converse_settled {input : ByteArray} {said : List Remark}
    {evaluation : Evaluation σ Float} {rest : List String} {memory memory' : σ}
    {outcome : Except Diagnostic Float}
    (consulted : Consultation.consult calculator bindings expression (Text.read input).lines =
      (said, .settled evaluation, rest))
    (goesOn : isExit (Text.trim expression) = false) (isExpression : Text.trim expression ≠ "")
    (unbroken : '\n' ∉ expression.toList)
    (ran : evaluation.run.run memory = (outcome, memory')) :
    let later := ((afterwards calculator bindings (Text.read input).stop rest).run memory').1
    Program.finish
        ((converse calculator bindings ((expression ++ "\n").toUTF8 ++ input)).run memory).1 =
      (⟨Remark.texts (banner calculator) ++ "> " ++ Remark.texts said ++ Remark.reported outcome ++
        "\n", ""⟩ ++ later.1, later.2) := by
  rcases further : (hearAll calculator bindings rest .ready).run memory' with
    ⟨⟨more, last⟩, memory''⟩
  have heard : (hearAll calculator bindings (expression :: (Text.read input).lines)
      .ready).run memory =
      ((said ++ [.report outcome, .blank, .mark] ++ more, last), memory'') := by
    rw [hearAll_first_line consulted goesOn isExpression, Consultation.about,
      StateT.run_bind, run_follow_settled ran]
    show (do
      let (remarks, last) ← hearAll calculator bindings rest .ready
      return (said ++ [.report outcome, .blank, .mark] ++ remarks, last) :
        StateM σ (List Remark × Dialogue)).run memory' = _
    rw [StateT.run_bind, further]
    rfl
  intro later
  have later_eq : later = Program.finish (.mark :: (more ++ (last.close (Text.read input).stop).1),
      (last.close (Text.read input).stop).2) := by
    show ((afterwards calculator bindings (Text.read input).stop rest).run memory').1 = _
    rw [afterwards, StateT.run_bind, further]
    rfl
  -- the mark is written before the lines that are left are heard
  have marked : banner calculator ++ [.mark] ++
        (said ++ [.report outcome, .blank, .mark] ++ more) ++
        (last.close (Text.read input).stop).1 =
      (banner calculator ++ [.mark] ++ said ++ [.report outcome, .blank]) ++
        .mark :: (more ++ (last.close (Text.read input).stop).1) := by simp
  rw [run_converse_line unbroken heard, marked, Program.finish_append, later_eq]
  simp [Remark.text, String.append_assoc]

/-- Where a question about the first line is left, the dialogue ends at it. -/
theorem Dialogue.converse_asking {input : ByteArray} {said : List Remark} {inquiry : Inquiry}
    {rest : List String} (memory : σ)
    (consulted : Consultation.consult calculator bindings expression (Text.read input).lines =
      (said, .asking inquiry, rest))
    (goesOn : isExit (Text.trim expression) = false) (isExpression : Text.trim expression ≠ "")
    (unbroken : '\n' ∉ expression.toList) :
    ((converse calculator bindings ((expression ++ "\n").toUTF8 ++ input)).run memory).1 =
      (banner calculator ++ [.mark] ++ said,
        some (inquiry.interruption (Text.read input).stop)) := by
  obtain rfl := Consultation.consult_asking consulted
  have heard : (hearAll calculator bindings (expression :: (Text.read input).lines)
      .ready).run memory = ((said, .asking (inquiry.about (Text.trim expression))), memory) := by
    rw [hearAll_first_line consulted goesOn isExpression, Consultation.about]
    simp [follow, hearAll]
    rfl
  rw [run_converse_line unbroken heard]
  -- the interruption is that of the variable, and it is the same for both expressions
  show (banner calculator ++ [.mark] ++ said ++ [], _) = _
  rw [List.append_nil]
  rfl

namespace Program

/-- **One expression and a dialogue agree.** Let an expression be no blank line, no request to end
and without a line feed. A run for it and a dialogue with the expression in its first line ask the
same questions and read the same of the lines that follow. Where the run succeeds, the dialogue
reports the same value; where it fails for the expression, the same diagnostic; then an empty line
follows, and the dialogue goes on with the lines that are left. Where no answer can be read at a
question, the dialogue ends there as the run does. -/
theorem performOne_agrees_converse {expression : String} (unbroken : '\n' ∉ expression.toList)
    (goesOn : Dialogue.isExit (Text.trim expression) = false)
    (isExpression : Text.trim expression ≠ "") (calculator : Calculator σ) (bindings : Bindings)
    (input : ByteArray) (memory : σ) :
    let alone := performOne calculator bindings expression input
    let dialogue := finish <$>
      Dialogue.converse calculator bindings ((expression ++ "\n").toUTF8 ++ input)
    let left := (leaves calculator bindings expression input).run memory
    let later := ((Dialogue.afterwards calculator bindings (Text.read input).stop left.1).run
      left.2).1
    let greeting := Remark.texts (Dialogue.banner calculator) ++ "> "
    (∀ arguments, CommandLine.read arguments = .ok (.calculate (some expression) bindings) →
      perform calculator arguments input = alone) ∧
    (∀ arguments, CommandLine.read arguments = .ok (.calculate none bindings) →
      perform calculator arguments ((expression ++ "\n").toUTF8 ++ input) = dialogue) ∧
    (Dialogue.leaves calculator bindings expression input).run memory = left ∧
    ∃ asked : String,
      (∃ v, (alone.run memory).1 = (⟨asked ++ Remark.reported (.ok v), ""⟩, success) ∧
        (dialogue.run memory).1 =
          (⟨greeting ++ asked ++ Remark.reported (.ok v) ++ "\n", ""⟩ ++ later.1, later.2)) ∨
      (∃ d, (alone.run memory).1 = (⟨asked, Remark.reported (.error d)⟩, expressionFault) ∧
        (dialogue.run memory).1 =
          (⟨greeting ++ asked ++ Remark.reported (.error d) ++ "\n", ""⟩ ++ later.1, later.2)) ∨
      ∃ interruption : Interruption,
        (alone.run memory).1 = (⟨asked, complaint interruption.message⟩, usageFault) ∧
        (dialogue.run memory).1 =
          (⟨greeting ++ asked, complaint interruption.message⟩, usageFault) := by
  intro alone dialogue left later greeting
  rcases consulted : Consultation.consult calculator bindings expression (Text.read input).lines
    with ⟨said, consultation, rest⟩
  have wrote : (dialogue.run memory).1 = finish ((Dialogue.converse calculator bindings
      ((expression ++ "\n").toUTF8 ++ input)).run memory).1 := rfl
  refine ⟨fun arguments asked => perform_eq_performOne asked input,
    fun arguments asked => perform_dialogue calculator asked _, ?_, Remark.texts said, ?_⟩
  · rw [Dialogue.leaves_eq_settle consulted goesOn isExpression]
    exact congrArg (·.run memory) (leaves_eq_settle consulted).symm
  · have concluded : (alone.run memory).1 =
        ((conclude (Text.read input).stop (said, consultation)).run memory).1 :=
      congrArg (fun run => (run.run memory).1) (performOne_eq_conclude consulted)
    cases consultation with
    | asking inquiry =>
      have asks := Dialogue.converse_asking memory consulted goesOn isExpression unbroken
      refine .inr (.inr ⟨inquiry.interruption (Text.read input).stop, concluded, ?_⟩)
      rw [wrote, asks, finish]
      simp [greeting, Remark.text, String.append_assoc]
    | settled evaluation =>
      rcases ran : evaluation.run.run memory with ⟨outcome, memory'⟩
      have left_eq : left = (rest, memory') := by
        show (leaves calculator bindings expression input).run memory = _
        rw [leaves_eq_settle consulted, Consultation.settle, StateT.run_bind, StateT.run_bind, ran]
        rfl
      have settled := Dialogue.converse_settled consulted goesOn isExpression unbroken ran
      have later_eq : later = ((Dialogue.afterwards calculator bindings (Text.read input).stop
          rest).run memory').1 := by
        show ((Dialogue.afterwards calculator bindings (Text.read input).stop left.1).run
          left.2).1 = _
        rw [left_eq]
      rw [conclude, StateT.run_bind, ran] at concluded
      cases outcome with
      | ok v =>
        refine .inl ⟨v, ?_, ?_⟩
        · rw [concluded]
          simp [Remark.text]
          rfl
        · rw [wrote, settled, later_eq]
      | error d =>
        refine .inr (.inl ⟨d, concluded, ?_⟩)
        rw [wrote, settled, later_eq]

/-- Of three lines the first is refused and the second taken as the answer; the third is left, and
the dialogue goes on with it. -/
theorem performOne_agrees_converse_refusing :
    let calculator : Calculator Unit := ⟨.empty⟩
    let input := "one\n2\n3\n".toUTF8
    let asked := "Variables found: x\nEnter value for x: Error: enter a valid number\n" ++
      "Enter value for x: "
    '\n' ∉ " x / 4 ".toList ∧ Dialogue.isExit (Text.trim " x / 4 ") = false ∧
      Text.trim " x / 4 " ≠ "" ∧
      ((performOne calculator ∅ " x / 4 " input).run ()).1 =
        (⟨asked ++ "Result: 0.5\n", ""⟩, success) ∧
      ((Dialogue.leaves calculator ∅ " x / 4 " input).run ()).1 = ["3"] ∧
      ((finish <$> Dialogue.converse calculator ∅ ((" x / 4 " ++ "\n").toUTF8 ++ input)).run
        ()).1 = (⟨Remark.texts (Dialogue.banner calculator) ++ "> " ++ asked ++
          "Result: 0.5\n\n> Result: 3\n\n> Goodbye.\n", ""⟩, success) := by
  intro calculator input asked
  have unbroken : '\n' ∉ " x / 4 ".toList := by decide
  have goesOn : Dialogue.isExit (Text.trim " x / 4 ") = false := by decide +kernel
  have isExpression : Text.trim " x / 4 " ≠ "" := by decide +kernel
  have reading : Text.read input = ⟨["one", "2", "3"], .finished⟩ :=
    (Text.read_toUTF8 _).trans (by decide +kernel)
  have writes : ((performOne calculator ∅ " x / 4 " input).run ()).1 =
      (⟨asked ++ "Result: 0.5\n", ""⟩, success) := by
    rw [performOne, reading]
    decide +kernel
  have left : ((leaves calculator ∅ " x / 4 " input).run ()).1 = ["3"] := by
    rw [leaves, reading]
    decide +kernel
  have later : ((Dialogue.afterwards calculator ∅ (Text.read input).stop ["3"]).run ()).1 =
      (⟨"> Result: 3\n\n> Goodbye.\n", ""⟩, success) := by
    rw [reading]
    decide +kernel
  obtain ⟨_, _, same, said, agree⟩ :=
    performOne_agrees_converse unbroken goesOn isExpression calculator ∅ input ()
  rw [writes, left, later] at agree
  refine ⟨unbroken, goesOn, isExpression, writes, (congrArg Prod.fst same).trans left, ?_⟩
  rcases agree with ⟨v, alone, dialogue⟩ | ⟨d, alone, _⟩ | ⟨interruption, alone, _⟩
  · obtain ⟨written, _⟩ := Prod.mk.inj alone
    have standard : asked ++ "Result: 0.5\n" = said ++ Remark.reported (.ok v) :=
      congrArg Output.standard written
    rw [dialogue, @String.append_assoc _ said, ← standard]
    simp [String.append_assoc]
  · cases congrArg Prod.snd alone
  · cases congrArg Prod.snd alone

end Program

end Reckoner
