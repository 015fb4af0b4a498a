import Reckoner.Calculator
import Reckoner.Remark
import Reckoner.Text.Input

/-! # Inquiries

Before an expression is evaluated, the values of those of its variables that have none are asked
for, one by one in ascending order. An inquiry waits for the answer to a question. An answer that is
no number is refused and the question asked again. Where no line can be read, nothing more is asked,
and the interruption says why. -/

namespace Reckoner

variable {σ : Type}

/-- Why expressions are no longer calculated though nobody has asked to end. -/
inductive Interruption
  /-- The input ended at the question for the value of a variable. -/
  | unanswered (name : String)
  /-- A line of the input is no text. -/
  | undecodable
  deriving DecidableEq, Repr

namespace Interruption

/-- The words for an interruption. -/
def message : Interruption → String
  | .unanswered name => s!"input ended before a value for '{name}' was given"
  | .undecodable => "stream did not contain valid UTF-8"

/-- The interruption where no line can be read as the answer to a question. -/
def atQuestion (name : String) : Text.Stop → Interruption
  | .finished => .unanswered name
  | .undecodable => .undecodable

end Interruption

/-- A question that waits for an answer. -/
structure Inquiry where
  expression : String
  /-- The variable whose value was asked for. -/
  name : String
  /-- The variables to ask for after it. -/
  others : List String
  /-- The values known by now. -/
  known : Bindings

/-- What the calculation of an expression has come to: the evaluation that is left when all has been
asked, or a question. -/
inductive Consultation (σ : Type)
  | settled (evaluation : Evaluation σ Float)
  | asking (inquiry : Inquiry)

namespace Consultation

/-- Asks for the first of the missing values, or evaluates the expression if none is missing. -/
def proceed (calculator : Calculator σ) (expression : String) (known : Bindings) :
    (missing : List String) → List Remark × Consultation σ
  | [] => ([], .settled (calculator.calculate expression known))
  | name :: others => ([.question name], .asking ⟨expression, name, others, known⟩)

/-- Names the variables without a value and begins to ask for them. -/
def start (calculator : Calculator σ) (bindings : Bindings) (expression : String) :
    List Remark × Consultation σ :=
  match calculator.variableNames expression with
  | .error diagnostic => ([], .settled (throw diagnostic))
  | .ok names =>
    let missing := names.filter fun name => !bindings.contains name
    let heading := if missing = [] then [] else [.missing missing]
    let (remarks, consultation) := proceed calculator expression bindings missing
    (heading ++ remarks, consultation)

end Consultation

namespace Inquiry

/-- Takes a line as the answer. -/
def answer (calculator : Calculator σ) (line : String) (inquiry : Inquiry) :
    List Remark × Consultation σ :=
  match Decimal.readFloat? (Text.trim line) with
  | some value =>
    Consultation.proceed calculator inquiry.expression (inquiry.known.insert inquiry.name value)
      inquiry.others
  | none => ([.refusal, .question inquiry.name], .asking inquiry)

/-- The interruption when no answer can be read. -/
def interruption (stop : Text.Stop) (inquiry : Inquiry) : Interruption :=
  .atQuestion inquiry.name stop

end Inquiry

end Reckoner
