import Reckoner.Program

/-! # Running the program

Reads the standard input line by line and writes what the program answers. -/

namespace Reckoner

/-- Writes an output at once. -/
def write (output : Output) : IO Unit := do
  let stdout ← IO.getStdout
  stdout.putStr output.standard
  stdout.flush
  let stderr ← IO.getStderr
  stderr.putStr output.error

/-- Reads up to the next line feed or the end of the input, one byte at a time, so that no byte of a
later line is waited for. -/
partial def readLine (input : IO.FS.Stream) (begun : ByteArray) : IO ByteArray := do
  let byte ← input.read 1
  let bytes := begun ++ byte
  if byte.isEmpty || byte.data.toList = [Text.lineFeed] then return bytes
  else readLine input bytes

/-- Runs a program to its end, with the memory of its functions. -/
partial def interact {σ : Type} (calculator : Calculator σ) (input : IO.FS.Stream) :
    Program → σ → IO UInt32
  | .ended status, _ => return status.toUInt32
  | program, memory => do
    match Text.read (← readLine input .empty) with
    | ⟨line :: _, _⟩ =>
      let ((output, next), memory) := (program.hear calculator line).run memory
      write output
      interact calculator input next memory
    | ⟨[], stop⟩ =>
      let (output, status) := program.close stop
      write output
      return status.toUInt32

end Reckoner

/-- Evaluates the expression of the command line, or holds a dialogue. -/
def main (arguments : List String) : IO UInt32 := do
  let calculator : Reckoner.Calculator Unit := .standard
  let ((output, program), memory) := (Reckoner.Program.start calculator arguments).run ()
  Reckoner.write output
  Reckoner.interact calculator (← IO.getStdin) program memory
