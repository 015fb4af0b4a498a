import Reckoner.Text.Lines

/-! # Reading an input

An input is bytes, and it is read line by line. The bytes of a line are a text only if they encode
characters in UTF-8. Reading ends at the first line that is no text, and what comes after it is not
looked at. -/

namespace Reckoner.Text

/-- What reading a line comes to when it gives none. -/
inductive Stop
  /-- The input has ended. -/
  | finished
  /-- The bytes of the line are no text. -/
  | undecodable
  deriving DecidableEq, Repr

/-- What reading line by line comes to. -/
structure Reading where
  lines : List String
  stop : Stop
  deriving DecidableEq, Repr

/-- A line, and what is read after it. -/
def Reading.cons (line : String) (reading : Reading) : Reading :=
  ⟨line :: reading.lines, reading.stop⟩

/-- Reads the bytes of lines, up to the first that are no text. -/
def decode : List (List UInt8) → Reading
  | [] => ⟨[], .finished⟩
  | bytes :: more =>
    match String.fromUTF8? bytes.toByteArray with
    | some line => (decode more).cons line
    | none => ⟨[], .undecodable⟩

/-- The byte that ends a line. -/
def lineFeed : UInt8 := 0x0A

/-- Reads an input line by line. -/
def read (input : ByteArray) : Reading := decode (linesFrom lineFeed [] input.data.toList)

end Reckoner.Text
