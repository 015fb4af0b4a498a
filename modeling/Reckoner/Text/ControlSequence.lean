/-! # Control sequences

Text for a terminal holds control sequences, such as those that begin and end highlighting, besides
the characters that are shown. `plain` is what is written where there is no terminal: the text
without its control sequences, complete or not, and without control characters other than tabs, line
feeds, form feeds and carriage returns. -/

namespace Reckoner.Text

/-- Where in a control sequence a character stands. -/
inductive Sequence
  /-- In no sequence. -/
  | outside
  /-- After the escape character that begins a sequence. -/
  | escape
  /-- After an escape character and intermediate characters. -/
  | intermediate
  /-- In a control sequence proper, which begins with a bracket. -/
  | control
  /-- At the beginning of a device control string. -/
  | device
  /-- In the parameters of a device control string. -/
  | deviceParameters
  /-- After the intermediate characters of a device control string. -/
  | deviceIntermediate
  /-- In a string that a string terminator ends. -/
  | string
  /-- In an operating system command, which the bell ends. -/
  | command
  deriving DecidableEq, Repr

/-- The control characters that are white space. -/
def isSpacing (c : Char) : Bool := c == '\t' || c == '\n' || c == '\x0c' || c == '\r'

/-- Whether a character is shown outside of control sequences. -/
def isShown (c : Char) : Bool := isSpacing c || (decide (' ' ≤ c) && c != '\x7f')

/-- Whether a character lies between two others. -/
def isAmong (first last c : Char) : Bool := decide (first ≤ c) && decide (c ≤ last)

/-- Whether the encoding of a character holds the byte that terminates strings. -/
def holdsTerminator (c : Char) : Bool := (String.utf8EncodeChar c).contains 0x9C

namespace Sequence

/-- Where the character after an escape character leads. -/
def begin (c : Char) : Sequence :=
  if c = '[' then .control
  else if c = ']' then .command
  else if c = 'P' then .device
  else if c = 'X' ∨ c = '^' ∨ c = '_' then .string
  else if isAmong ' ' '/' c then .intermediate
  else if isAmong '0' '~' c then .outside
  else .escape

/-- Where a character leads that is not shown. An escape character begins a new sequence, and a
cancel or substitute character ends every one. -/
def next (c : Char) (sequence : Sequence) : Sequence :=
  if c = '\x1b' then .escape
  else if c = '\x18' ∨ c = '\x1a' then .outside
  else match sequence with
    | .outside => .outside
    | .escape => begin c
    | .intermediate => if isAmong '0' '~' c then .outside else .intermediate
    | .control => if isAmong '@' '~' c then .outside else .control
    | .device =>
      if isAmong ' ' '/' c then .deviceIntermediate
      else if isAmong '0' '?' c then .deviceParameters
      else if isAmong '@' '~' c then .string
      else .device
    | .deviceParameters =>
      if isAmong ' ' '/' c then .deviceIntermediate
      else if isAmong '<' '~' c then .string
      else .deviceParameters
    | .deviceIntermediate => if isAmong '0' '~' c then .string else .deviceIntermediate
    | .string => if holdsTerminator c then .outside else .string
    | .command => if c = '\x07' then .outside else .command

/-- Whether a character is shown. White space interrupts an escape or control sequence; while
`interrupted`, what follows is shown as well, up to the next character that is never shown. -/
def shows (interrupted : Bool) (c : Char) : Sequence → Bool
  | .outside => isShown c
  | .escape | .intermediate | .control => if interrupted then isShown c else isSpacing c
  | _ => false

end Sequence

/-- The characters that are shown, beginning at a place in a sequence. An interrupted sequence goes
on with the first character that is not shown, and is over with one that is not ASCII. -/
def plainFrom (interrupted : Bool) (sequence : Sequence) : List Char → List Char
  | [] => []
  | c :: cs =>
    if sequence.shows interrupted c then
      c :: plainFrom true (if c.toNat < 0x80 then sequence else .outside) cs
    else plainFrom false (sequence.next c) cs

/-- A text without control sequences and control characters. -/
def plain (text : String) : String := String.ofList (plainFrom false .outside text.toList)

/-- A text between the control sequences that begin and end highlighting. -/
def highlight (text : String) : String := "\x1b[1m" ++ text ++ "\x1b[0m"

end Reckoner.Text
