import Reckoner.CommandLine
import Reckoner.Dialogue

/-! # The program

One run of the program: it evaluates the expression of the command line, or holds a dialogue where
there is none. Like a dialogue it takes one line after the other, so that whoever runs it can write
each answer before the next line is read. -/

namespace Reckoner

variable {σ : Type}

/-- What a run waits for. -/
inductive Program
  /-- The answer to a question about the one expression of the command line. -/
  | single (inquiry : Inquiry)
  /-- What a dialogue waits for. -/
  | dialogue (bindings : Bindings) (stage : Dialogue)
  /-- Nothing: it has ended with a status. -/
  | ended (status : UInt8)

/-- What a run writes at a time. -/
structure Output where
  standard : String
  error : String
  deriving DecidableEq, Repr

namespace Output

/-- One output after the other. -/
def append (first second : Output) : Output :=
  ⟨first.standard ++ second.standard, first.error ++ second.error⟩

instance : Append Output := ⟨append⟩

@[simp] theorem append_mk (first second : Output) :
    first ++ second = ⟨first.standard ++ second.standard, first.error ++ second.error⟩ := rfl

end Output

namespace Program

/-- The version that the program reports. -/
def version : String := "tally 0.1.0\n"

/-- The status of a run that succeeded. -/
def success : UInt8 := 0

/-- The status of a run whose expression has no value. -/
def expressionFault : UInt8 := 1

/-- The status of a run with wrong arguments, or one that was interrupted. -/
def usageFault : UInt8 := 2

/-- The line that reports a fault apart from the results. -/
def complaint (message : String) : String := s!"Error: {message}\n"

/-- Goes on with the calculation of the one expression. -/
def follow : List Remark × Consultation σ → StateM σ (Output × Program)
  | (remarks, .asking inquiry) => return (⟨Remark.texts remarks, ""⟩, .single inquiry)
  | (remarks, .settled evaluation) => do
    match ← evaluation.run with
    | .ok value =>
      return (⟨Remark.texts (remarks ++ [.report (.ok value)]), ""⟩, .ended success)
    | .error diagnostic =>
      return (⟨Remark.texts remarks, complaint diagnostic.message⟩, .ended expressionFault)

/-- Begins a run. -/
def start (calculator : Calculator σ) (arguments : List String) : StateM σ (Output × Program) :=
  match CommandLine.read arguments with
  | .error fault => return (⟨"", fault.message⟩, .ended usageFault)
  | .ok .version => return (⟨version, ""⟩, .ended success)
  | .ok (.calculate (some expression) bindings) =>
    follow (Consultation.start calculator bindings expression)
  | .ok (.calculate none bindings) =>
    return (⟨Remark.texts (Dialogue.banner calculator ++ [.mark]), ""⟩, .dialogue bindings .ready)

/-- Goes on with a dialogue, to the end of the run where the dialogue is over. -/
def proceed (bindings : Bindings) : Dialogue → Program
  | .over => .ended success
  | stage => .dialogue bindings stage

/-- Takes a line of the input. -/
def hear (calculator : Calculator σ) (line : String) : Program → StateM σ (Output × Program)
  | .single inquiry => follow (inquiry.answer calculator line)
  | .dialogue bindings stage => do
    let (remarks, next) ← stage.hear calculator bindings line
    return (⟨Remark.texts remarks, ""⟩, proceed bindings next)
  | .ended status => return (⟨"", ""⟩, .ended status)

/-- What a dialogue writes in the end, and the status. -/
def finish : List Remark × Option Interruption → Output × UInt8
  | (remarks, none) => (⟨Remark.texts remarks, ""⟩, success)
  | (remarks, some interruption) =>
    (⟨Remark.texts remarks, complaint interruption.message⟩, usageFault)

/-- Goes on where no line can be read, and gives the last output and the status. -/
def close (stop : Text.Stop) : Program → Output × UInt8
  | .single inquiry => (⟨"", complaint (inquiry.interruption stop).message⟩, usageFault)
  | .dialogue _ stage => finish (stage.close stop)
  | .ended status => (⟨"", ""⟩, status)

/-- Takes lines and how reading stops after them: all that is written in return, and the status. -/
def hearAll (calculator : Calculator σ) (stop : Text.Stop) :
    List String → Program → StateM σ (Output × UInt8)
  | [], program => return program.close stop
  | line :: lines, program => do
    let (output, next) ← program.hear calculator line
    let (more, status) ← hearAll calculator stop lines next
    return (output ++ more, status)

/-- A whole run of a calculator on an input: all that is written, and the status. -/
def perform (calculator : Calculator σ) (arguments : List String) (input : ByteArray) :
    StateM σ (Output × UInt8) := do
  let (output, program) ← start calculator arguments
  let reading := Text.read input
  let (more, status) ← hearAll calculator reading.stop reading.lines program
  return (output ++ more, status)

/-- A whole run with the standard functions over a text. -/
def run (arguments : List String) (input : String) : Output × UInt8 :=
  ((perform .standard arguments input.toUTF8).run ()).1

end Program

end Reckoner
