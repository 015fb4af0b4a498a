import Reckoner.Inquiry

/-! # Dialogues

A dialogue takes one line after the other. A line is an expression, whose value is reported, or the
answer to a question about a variable; blank lines are passed over and `exit` ends the dialogue. The
end of the input ends it as well, though not at a question, and a line that is no text interrupts it
wherever it is read. The values answered for one expression are forgotten before the next. Only what
functions note in their memory `σ` outlasts an expression. -/

namespace Reckoner

variable {σ : Type}

/-- What a dialogue waits for. -/
inductive Dialogue
  /-- An expression. -/
  | ready
  /-- The answer to a question. -/
  | asking (inquiry : Inquiry)
  /-- Nothing more. -/
  | over

namespace Dialogue

/-- The first words of a dialogue. -/
def banner (calculator : Calculator σ) : List Remark :=
  [.title, .operators, .functions calculator.functions.names, .hint, .blank]

/-- Whether a line asks to end the dialogue. -/
def isExit (line : String) : Bool := line.map Char.toLower = "exit"

/-- Goes on with a consultation, and after it with the next expression. -/
def follow : List Remark × Consultation σ → StateM σ (List Remark × Dialogue)
  | (remarks, .settled evaluation) => do
    let outcome ← evaluation.run
    return (remarks ++ [.report outcome, .blank, .mark], .ready)
  | (remarks, .asking inquiry) => return (remarks, .asking inquiry)

/-- Takes a line, and gives what is written in return. -/
def hear (calculator : Calculator σ) (bindings : Bindings) (line : String) :
    Dialogue → StateM σ (List Remark × Dialogue)
  | .ready =>
    let expression := Text.trim line
    if isExit expression then return ([.farewell], .over)
    else if expression = "" then return ([.mark], .ready)
    else follow (Consultation.start calculator bindings expression)
  | .asking inquiry => follow (inquiry.answer calculator line)
  | .over => return ([], .over)

/-- Takes one line after the other. -/
def hearAll (calculator : Calculator σ) (bindings : Bindings) :
    List String → Dialogue → StateM σ (List Remark × Dialogue)
  | [], dialogue => return ([], dialogue)
  | line :: lines, dialogue => do
    let (remarks, next) ← dialogue.hear calculator bindings line
    let (more, last) ← hearAll calculator bindings lines next
    return (remarks ++ more, last)

/-- A dialogue that is over says nothing to any line. -/
theorem hearAll_over (calculator : Calculator σ) (bindings : Bindings) (lines : List String) :
    hearAll calculator bindings lines .over = return ([], .over) := by
  induction lines with
  | nil => rfl
  | cons line lines ih => simp [hearAll, hear, ih]

/-- Goes on where no line can be read: what is written in return, and the interruption if it is one.
A dialogue that is over reads no line. -/
def close (stop : Text.Stop) : Dialogue → List Remark × Option Interruption
  | .ready =>
    match stop with
    | .finished => ([.farewell], none)
    | .undecodable => ([], some .undecodable)
  | .asking inquiry => ([], some (inquiry.interruption stop))
  | .over => ([], none)

/-- A whole dialogue over an input: all remarks, and the interruption if there is one. -/
def converse (calculator : Calculator σ) (bindings : Bindings) (input : ByteArray) :
    StateM σ (List Remark × Option Interruption) := do
  let reading := Text.read input
  let (remarks, last) ← hearAll calculator bindings reading.lines .ready
  let (final, interruption) := last.close reading.stop
  return (banner calculator ++ [.mark] ++ remarks ++ final, interruption)

/-- A whole dialogue over a text when the functions have no memory: all that is written, and the
words for the interruption if there is one. -/
def run (calculator : Calculator Unit) (bindings : Bindings) (input : String) :
    String × Option String :=
  let ((remarks, interruption), _) := (converse calculator bindings input.toUTF8).run ()
  (Remark.texts remarks, interruption.map Interruption.message)

end Dialogue

end Reckoner
