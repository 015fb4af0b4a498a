import Reckoner.Inquiry
import Reckoner.Proofs.Atoms

/-! # Consultations

The calculation of an expression with all its answers at hand (`consult`): it asks for exactly the
variables that its evaluation will look up. `Supplies` is the invariant of the questions: what is
known are the bindings and the answers up to now, and of the variables without a value the rest is
missing. So a consultation that is settled has all it needs, and its outcome is never that a
variable is unknown (`Pursues.ne_unknownVariable`). -/

namespace Reckoner

variable {σ : Type} {calculator : Calculator σ} {bindings known : Bindings} {expression : String}
  {missing : List String}

/-! ## All answers at hand -/

namespace Consultation

/-- Takes lines as answers as long as there is a question. The lines after the last answer are not
read. -/
def answerAll (calculator : Calculator σ) :
    List String → Consultation σ → List Remark × Consultation σ × List String
  | line :: lines, .asking inquiry =>
    let (remarks, next) := inquiry.answer calculator line
    let (more, last, rest) := answerAll calculator lines next
    (remarks ++ more, last, rest)
  | lines, consultation => ([], consultation, lines)

/-- Once a consultation is settled, no line is read. -/
@[simp] theorem answerAll_settled (calculator : Calculator σ) (lines : List String)
    (evaluation : Evaluation σ Float) :
    answerAll calculator lines (.settled evaluation) = ([], .settled evaluation, lines) := by
  cases lines <;> rfl

/-- The calculation of an expression with lines as the answers to its questions. A question that is
left has got no answer. -/
def consult (calculator : Calculator σ) (bindings : Bindings) (expression : String)
    (lines : List String) : List Remark × Consultation σ × List String :=
  let (remarks, first) := start calculator bindings expression
  let (more, last, rest) := answerAll calculator lines first
  (remarks ++ more, last, rest)

end Consultation

/-! ## What is known and what is missing -/

/-- What is known are the bindings and answers for the first of those variables of the expression
that have no value; the others of them are missing. -/
def Supplies (calculator : Calculator σ) (bindings : Bindings) (expression : String)
    (known : Bindings) (missing : List String) : Prop :=
  ∃ names, ∃ answers : List (String × Float), calculator.variableNames expression = .ok names ∧
    names.filter (fun name => !bindings.contains name) = answers.map Prod.fst ++ missing ∧
    known = bindings.insertMany answers

namespace Supplies

/-- Before the first answer all variables without a value are missing. -/
theorem start {names : List String} (listed : calculator.variableNames expression = .ok names) :
    Supplies calculator bindings expression bindings
      (names.filter fun name => !bindings.contains name) :=
  ⟨names, [], listed, rfl, Std.TreeMap.insertMany_nil.symm⟩

/-- An answer is known, and its variable no longer missing. -/
theorem answer {name : String} {others : List String}
    (supplies : Supplies calculator bindings expression known (name :: others)) (value : Float) :
    Supplies calculator bindings expression (known.insert name value) others := by
  obtain ⟨names, answers, listed, missing, rfl⟩ := supplies
  refine ⟨names, answers ++ [(name, value)], listed, ?_, ?_⟩
  · simpa using missing
  · rw [Std.TreeMap.insertMany_append, Std.TreeMap.insertMany_list_singleton]

/-- When nothing is missing, all variables of the expression are known. -/
theorem mem_known (supplies : Supplies calculator bindings expression known []) :
    ∃ names, calculator.variableNames expression = .ok names ∧ ∀ name ∈ names, name ∈ known := by
  obtain ⟨names, answers, listed, missing, rfl⟩ := supplies
  refine ⟨names, listed, fun name member => ?_⟩
  rw [Std.TreeMap.mem_insertMany_list]
  -- either the bindings have a value or the question was answered
  by_cases bound : name ∈ bindings
  · exact .inl bound
  · refine .inr (List.contains_iff_mem.2 ?_)
    rw [← List.append_nil (answers.map Prod.fst), ← missing]
    exact List.mem_filter.2 ⟨member, by simpa [← Std.TreeMap.contains_iff_mem] using bound⟩

end Supplies

/-! ## What a consultation comes to -/

/-- The remark tells what is missing, asks for it or refuses an answer. -/
def Remark.IsAsking : Remark → Prop
  | .missing _ | .question _ | .refusal => True
  | _ => False

namespace Consultation

/-- What the calculation of an expression can have come to. -/
inductive Pursues (calculator : Calculator σ) (bindings : Bindings) (expression : String) :
    Consultation σ → Prop
  /-- The expression cannot be split into tokens. -/
  | refused {diagnostic : Diagnostic} : calculator.variableNames expression = .error diagnostic →
      Pursues calculator bindings expression (.settled (throw diagnostic))
  /-- The expression is evaluated, and nothing is missing. -/
  | evaluated {known : Bindings} : Supplies calculator bindings expression known [] →
      Pursues calculator bindings expression (.settled (calculator.calculate expression known))
  /-- The first of the missing values is asked for. -/
  | asking {name : String} {others : List String} {known : Bindings} :
      Supplies calculator bindings expression known (name :: others) →
      Pursues calculator bindings expression (.asking ⟨expression, name, others, known⟩)

/-- The remarks are about questions, and the consultation goes on with the expression. -/
def Proper (calculator : Calculator σ) (bindings : Bindings) (expression : String)
    (step : List Remark × Consultation σ) : Prop :=
  (∀ remark ∈ step.1, remark.IsAsking) ∧ step.2.Pursues calculator bindings expression

/-- The outcome of a consultation is no unknown variable. -/
theorem Pursues.ne_unknownVariable {evaluation : Evaluation σ Float}
    (pursues : (Consultation.settled evaluation).Pursues calculator bindings expression)
    (memory : σ) (name : String) (position : Nat) :
    (evaluation.run.run memory).1 ≠ .error ⟨.unknownVariable name, position⟩ := by
  intro unknown
  cases pursues with
  | @refused diagnostic failed =>
    have same : diagnostic = ⟨.unknownVariable name, position⟩ := Except.error.inj unknown
    have scanned := Calculator.tokens_of_variableNames_error failed
    rw [same] at scanned
    -- splitting fails at a character or a point only
    rcases Token.scan_eq_error scanned with ⟨_, problem, _⟩ | ⟨problem, _⟩ <;> cases problem
  | evaluated supplies =>
    obtain ⟨_, names, _, listed, member, _, _, _, _, _, _, _, unbound, _⟩ :=
      Calculator.isFirstUnbound_of_unknownVariable (Prod.ext unknown rfl)
    obtain ⟨names', listed', bound⟩ := supplies.mem_known
    obtain rfl : names = names' := Except.ok.inj (listed.symm.trans listed')
    exact unbound (bound name member)

/-- Going on asks for what is missing, or evaluates if nothing is. -/
theorem proceed_proper (supplies : Supplies calculator bindings expression known missing) :
    Proper calculator bindings expression (proceed calculator expression known missing) := by
  cases missing with
  | nil => exact ⟨List.forall_mem_nil _, .evaluated supplies⟩
  | cons name others => exact ⟨List.forall_mem_singleton.2 trivial, .asking supplies⟩

/-- A consultation begins properly. -/
theorem start_proper (calculator : Calculator σ) (bindings : Bindings) (expression : String) :
    Proper calculator bindings expression (start calculator bindings expression) := by
  rw [start]
  cases listed : calculator.variableNames expression with
  | error diagnostic => exact ⟨List.forall_mem_nil _, .refused listed⟩
  | ok names =>
    obtain ⟨asks, pursues⟩ := proceed_proper (.start listed)
    refine ⟨List.forall_mem_append.2 ⟨?_, asks⟩, pursues⟩
    split
    · exact List.forall_mem_nil _
    · exact List.forall_mem_singleton.2 trivial

/-- An answer is taken properly, whether it is a number or not. -/
theorem answer_proper {inquiry : Inquiry}
    (pursues : (Consultation.asking inquiry).Pursues calculator bindings expression)
    (line : String) :
    Proper calculator bindings expression (inquiry.answer calculator line) := by
  obtain ⟨supplies, about⟩ : Supplies calculator bindings expression inquiry.known
      (inquiry.name :: inquiry.others) ∧ inquiry.expression = expression := by
    cases pursues with
    | asking supplies => exact ⟨supplies, rfl⟩
  rw [Inquiry.answer]
  split
  · rw [about]
    exact proceed_proper (supplies.answer _)
  -- what is no number leaves the question open
  · exact ⟨List.forall_mem_cons.2 ⟨trivial, List.forall_mem_singleton.2 trivial⟩, pursues⟩

/-- Answers are taken properly one after the other. -/
theorem answerAll_proper {consultation : Consultation σ}
    (pursues : consultation.Pursues calculator bindings expression) (lines : List String) :
    (∀ remark ∈ (answerAll calculator lines consultation).1, remark.IsAsking) ∧
      (answerAll calculator lines consultation).2.1.Pursues calculator bindings expression := by
  induction lines generalizing consultation with
  | nil => exact ⟨List.forall_mem_nil _, pursues⟩
  | cons line lines ih =>
    cases consultation with
    | settled evaluation => exact ⟨List.forall_mem_nil _, pursues⟩
    | asking inquiry =>
      obtain ⟨first, next⟩ := answer_proper pursues line
      obtain ⟨more, last⟩ := ih next
      rw [answerAll]
      exact ⟨List.forall_mem_append.2 ⟨first, more⟩, last⟩

/-- A consultation is proper to its end, whatever the lines are. -/
theorem consult_proper (calculator : Calculator σ) (bindings : Bindings) (expression : String)
    (lines : List String) :
    let (remarks, last, _) := consult calculator bindings expression lines
    (∀ remark ∈ remarks, remark.IsAsking) ∧ last.Pursues calculator bindings expression := by
  obtain ⟨first, next⟩ := start_proper calculator bindings expression
  obtain ⟨more, last⟩ := answerAll_proper next lines
  exact ⟨List.forall_mem_append.2 ⟨first, more⟩, last⟩

end Consultation

end Reckoner
