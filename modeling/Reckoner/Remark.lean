import Reckoner.Decimal.Printer
import Reckoner.Diagnostic

/-! # Remarks

What a dialogue writes, piece by piece. -/

namespace Reckoner

/-- A piece of what is written at a time. -/
inductive Remark
  /-- The name of the program. -/
  | title
  /-- The operators that an expression can have. -/
  | operators
  /-- The functions that an expression can call. -/
  | functions (names : List String)
  /-- How to end the dialogue. -/
  | hint
  /-- The mark that asks for an expression. -/
  | mark
  /-- The variables without a value. -/
  | missing (names : List String)
  /-- The question for the value of a variable. -/
  | question (name : String)
  /-- That an answer is no number. -/
  | refusal
  /-- What came of an expression. -/
  | report (outcome : Except Diagnostic Float)
  /-- An empty line. -/
  | blank
  /-- The last words. -/
  | farewell

namespace Remark

/-- A line that lists names after a heading. -/
def listed (heading : String) (names : List String) : String :=
  heading ++ ": " ++ ", ".intercalate names ++ "\n"

/-- The question for the value of a variable. -/
def asked (name : String) : String := s!"Enter value for {name}: "

/-- The line that reports what came of an expression. -/
def reported : Except Diagnostic Float → String
  | .ok value => s!"Result: {Decimal.writeFloat value}\n"
  | .error diagnostic => s!"Error: {diagnostic.message}\n"

/-- A remark as it is written. -/
def text : Remark → String
  | .title => "=== tally: arithmetic expression calculator ===\n"
  | .operators => "Operators: + - * / ^\n"
  | .functions names => listed "Functions" names
  | .hint => "Type 'exit' to quit.\n"
  | .mark => "> "
  | .missing names => listed "Variables found" names
  | .question name => asked name
  | .refusal => "Error: enter a valid number\n"
  | .report outcome => reported outcome
  | .blank => "\n"
  | .farewell => "Goodbye.\n"

/-- Remarks as they are written, one after the other. -/
def texts (remarks : List Remark) : String := String.join (remarks.map text)

@[simp] theorem texts_nil : texts [] = "" := rfl

@[simp] theorem texts_cons (remark : Remark) (remarks : List Remark) :
    texts (remark :: remarks) = remark.text ++ texts remarks := by
  simp [texts]

@[simp] theorem texts_append (first second : List Remark) :
    texts (first ++ second) = texts first ++ texts second := by
  induction first with
  | nil => simp
  | cons remark first ih => simp [ih, String.append_assoc]

end Remark

end Reckoner
