import Reckoner.Proofs.DecimalRoundTrip
import Reckoner.Proofs.Domains
import Reckoner.Proofs.NameExpressions
import Reckoner.Proofs.Pointing
import Reckoner.Proofs.Turns

/-! # Line breaks

What a dialogue copies from its input into its output are names, one character that begins no token,
and numbers in its own notation. None of them has a line break in it: line breaks are blanks
(`Text.isLineBreak_eq_false`), and blanks are no part of any token. With the messages of the
standard functions this makes every diagnostic a single line (`Calculator.isPlain_of_calculate`,
`Diagnostic.unbroken_message`), and every remark a single line or a question without its end
(`Remark.unbroken_or_isLine`). So each line of the output is written by consecutive remarks
(`Remark.exists_of_mem_lines`). -/

namespace Reckoner

/-! ## Texts within a line -/

namespace Text

/-- The code points that break a line: line feed, vertical tab, form feed, carriage return, next
line, line separator and paragraph separator. -/
def lineBreaks : Ranges := [(0x000A, 0x000D), (0x0085, 0x0085), (0x2028, 0x2029)]

/-- Whether a character breaks a line. -/
def isLineBreak (c : Char) : Bool := lineBreaks.covers c.toNat

/-- What is no blank breaks no line. -/
theorem isLineBreak_eq_false {c : Char} (plain : isBlank c = false) : isLineBreak c = false := by
  unfold isBlank blanks at plain
  unfold isLineBreak lineBreaks
  simp only [Ranges.covers, Bool.and_eq_false_iff, Bool.or_eq_false_iff,
    decide_eq_false_iff_not, eq_self, and_true] at plain ⊢
  omega

/-- The text has no line break in it. -/
def Unbroken (text : String) : Prop := ∀ c ∈ text.toList, isLineBreak c = false

instance (text : String) : Decidable (Unbroken text) :=
  List.decidableBAll (fun c => isLineBreak c = false) text.toList

/-- Where there is no line break there is no line feed. -/
theorem lineFeed_notMem {text : String} (plain : Unbroken text) : '\n' ∉ text.toList :=
  fun member => absurd (plain _ member) (by decide)

/-- The text is a line with its end, and has no other line break in it. -/
def IsLine (text : String) : Prop := ∃ line, Unbroken line ∧ text = line ++ "\n"

/-- Two texts together have no line break exactly if neither of them has one. -/
@[simp] theorem unbroken_append {first second : String} :
    Unbroken (first ++ second) ↔ Unbroken first ∧ Unbroken second := by
  simp [Unbroken, or_imp, forall_and]

/-- Texts with a text between any two of them have no line break if none of them has one. -/
theorem unbroken_intercalate {between : String} {texts : List String}
    (separated : Unbroken between) (each : ∀ text ∈ texts, Unbroken text) :
    Unbroken (between.intercalate texts) := by
  induction texts with
  | nil =>
    rw [String.intercalate_nil]
    decide
  | cons first others ih =>
    obtain ⟨plain, rest⟩ := List.forall_mem_cons.1 each
    cases others with
    | nil => rwa [String.intercalate_singleton]
    | cons second others =>
      rw [String.intercalate_cons_cons, unbroken_append, unbroken_append]
      exact ⟨⟨plain, separated⟩, ih rest⟩

/-- A text without blanks has no line break. -/
theorem unbroken_of_isBlank {text : String} (plain : ∀ c ∈ text.toList, isBlank c = false) :
    Unbroken text :=
  fun c member => isLineBreak_eq_false (plain c member)

/-- A number in digits has no line break. -/
theorem unbroken_toString (n : Nat) : Unbroken (toString n) := by
  intro c member
  rw [Nat.toString_eq_repr, Nat.toList_repr] at member
  have digit := Nat.isDigit_of_mem_toDigits (by decide) (by decide) member
  exact isLineBreak_eq_false (Token.isBlank_of_isPart (Token.isPart_of_isDigit digit))

end Text

open Text (Unbroken IsLine)

/-! ## Names and numbers -/

/-- A valid name has no line break. -/
theorem Name.unbroken_of_valid {name : String} (named : Name.valid name = true) : Unbroken name :=
  Text.unbroken_of_isBlank (Token.isBlank_of_isName named)

/-- The words for a kind have no line break. -/
theorem Token.Kind.unbroken_describe (kind : Token.Kind) : Unbroken kind.describe := by
  cases kind <;> decide

namespace Decimal

/-- A float as text has no line break. -/
theorem unbroken_writeFloat (x : Float) : Unbroken (writeFloat x) := by
  have magnitude (bits : Nat) : Unbroken (String.ofList (writeMagnitude bits)) := by
    unfold writeMagnitude
    split
    · decide
    split
    · decide
    · intro c member
      rw [String.toList_ofList] at member
      exact Text.isLineBreak_eq_false
        (Token.isBlank_of_isNumberPart ((isPositional_positional _).isNumberPart c member))
  have signed {cs : List Char} (plain : Unbroken (String.ofList cs)) :
      Unbroken (String.ofList ('-' :: cs)) := by
    have sign : Text.isLineBreak '-' = false := by decide
    simpa [Unbroken, sign] using plain
  unfold writeFloat
  split
  · decide
  · dsimp only
    split
    · exact signed (magnitude _)
    · exact magnitude _

end Decimal

/-! ## Failures of functions -/

/-- The messages with which the functions fail have no line break. -/
def FunctionTable.FailsPlainly {σ : Type} (table : FunctionTable σ) : Prop :=
  ∀ name arguments memory cause memory', table.has name = true →
    (table.invoke name arguments).run.run memory = (.error cause, memory') →
    Unbroken cause.message

namespace CallFailure

/-- Numbers of arguments have no line break. -/
theorem unbroken_wrongArity (expected actual : Nat) :
    Unbroken (wrongArity expected actual).message := by
  have written : (wrongArity expected actual).message =
      "expected " ++ toString expected ++ " argument(s), got " ++ toString actual := rfl
  rw [written, Text.unbroken_append, Text.unbroken_append, Text.unbroken_append]
  exact ⟨⟨⟨by decide, Text.unbroken_toString expected⟩, by decide⟩,
    Text.unbroken_toString actual⟩

/-- A function of one argument fails plainly if it does so at its argument. -/
theorem unbroken_of_unary {function : Float → Except CallFailure Float}
    (plain : ∀ x cause, function x = .error cause → Unbroken cause.message)
    {arguments : List Float} {cause : CallFailure}
    (failed : Routine.unary function arguments = .error cause) : Unbroken cause.message := by
  by_cases single : arguments.length = 1
  · obtain ⟨x, rfl⟩ := List.length_eq_one_iff.1 single
    exact plain x cause failed
  · rw [Routine.unary_of_ne single] at failed
    cases failed
    exact unbroken_wrongArity _ _

/-- A function of two arguments fails plainly if it has a value at any two. -/
theorem unbroken_of_binary {function : Float → Float → Float} {arguments : List Float}
    {cause : CallFailure}
    (failed : Routine.binary (fun x y => .ok (function x y)) arguments = .error cause) :
    Unbroken cause.message := by
  by_cases pair : arguments.length = 2
  · obtain ⟨x, y, rfl⟩ := List.length_eq_two.1 pair
    cases failed
  · rw [Routine.binary, takeArguments_of_ne pair] at failed
    cases failed
    exact unbroken_wrongArity _ _

end CallFailure

namespace StandardFunctions

/-- A logarithm fails plainly. -/
theorem unbroken_of_logarithm {log : Float → Float} {x : Float} {cause : CallFailure}
    (failed : logarithm log x = .error cause) : Unbroken cause.message := by
  unfold logarithm at failed
  split at failed
  · cases failed
    decide
  · cases failed

/-- The square root fails plainly. -/
theorem unbroken_of_squareRoot {x : Float} {cause : CallFailure}
    (failed : squareRoot x = .error cause) : Unbroken cause.message := by
  unfold squareRoot at failed
  split at failed
  · cases failed
    decide
  · cases failed

/-- The standard functions fail plainly. -/
theorem unbroken_of_mem_list {name : String} {function : List Float → Except CallFailure Float}
    (listed : (name, function) ∈ list) {arguments : List Float} {cause : CallFailure}
    (failed : function arguments = .error cause) : Unbroken cause.message := by
  have total {value : Float → Float} :
      ∀ x cause, (.ok (value x) : Except CallFailure Float) = .error cause →
        Unbroken cause.message := by
    rintro x cause ⟨⟩
  simp only [list, List.mem_cons, Prod.mk.injEq, List.not_mem_nil, or_false] at listed
  rcases listed with ⟨-, rfl⟩ | ⟨-, rfl⟩ | ⟨-, rfl⟩ | ⟨-, rfl⟩ | ⟨-, rfl⟩ | ⟨-, rfl⟩ | ⟨-, rfl⟩ |
    ⟨-, rfl⟩ | ⟨-, rfl⟩ | ⟨-, rfl⟩
  · exact CallFailure.unbroken_of_unary total failed
  · exact CallFailure.unbroken_of_unary total failed
  · exact CallFailure.unbroken_of_unary (fun _ _ => unbroken_of_logarithm) failed
  · exact CallFailure.unbroken_of_unary (fun _ _ => unbroken_of_logarithm) failed
  · exact CallFailure.unbroken_of_binary failed
  · exact CallFailure.unbroken_of_binary failed
  · exact CallFailure.unbroken_of_binary failed
  · exact CallFailure.unbroken_of_unary total failed
  · exact CallFailure.unbroken_of_unary (fun _ _ => unbroken_of_squareRoot) failed
  · exact CallFailure.unbroken_of_unary total failed

end StandardFunctions

namespace FunctionTable

variable {σ : Type} {name : String}

/-- The standard functions are registered one after the other. -/
theorem standard_eq_registerAll :
    (standard : FunctionTable σ) = empty.registerAll Origin.standard.entries :=
  Origin.table_eq .standard

/-- A name in the standard table is that of a standard function in some case. -/
theorem exists_of_has_standard (known : (standard : FunctionTable σ).has name = true) :
    ∃ function, (Text.lowerCase name, function) ∈ StandardFunctions.list := by
  rw [standard_eq_registerAll, has_registerAll] at known
  rcases known with ⟨entry, member, same⟩ | none
  · obtain ⟨⟨registered, function⟩, listed, rfl⟩ := List.mem_map.1 member
    have lower := standard_lowerCase registered (List.mem_map.2 ⟨_, listed, rfl⟩)
    have same : registered = Text.lowerCase name := lower.symm.trans same
    exact ⟨function, same ▸ listed⟩
  · simp [has, empty] at none

/-- The standard table fails plainly. -/
theorem failsPlainly_standard : (standard : FunctionTable σ).FailsPlainly := by
  intro name arguments memory cause memory' known failed
  obtain ⟨function, listed⟩ := exists_of_has_standard known
  rw [invoke_of_find? (find?_standard listed rfl)] at failed
  have same : (function arguments, memory) = (.error cause, memory') := failed
  exact StandardFunctions.unbroken_of_mem_list listed (Prod.mk.inj same).1

/-- The names of the standard functions have no line break. -/
theorem unbroken_of_mem_names_standard (listed : name ∈ (standard : FunctionTable σ).names) :
    Unbroken name := by
  have plain : ∀ name ∈ StandardFunctions.list.map Prod.fst, Unbroken name := by decide
  rw [standard_eq_registerAll, mem_names_registerAll] at listed
  rcases listed with ⟨entry, member, rfl⟩ | none
  · obtain ⟨⟨registered, function⟩, listed, rfl⟩ := List.mem_map.1 member
    have member : registered ∈ StandardFunctions.list.map Prod.fst :=
      List.mem_map.2 ⟨_, listed, rfl⟩
    rw [standard_lowerCase registered member]
    exact plain registered member
  · simp [names, empty] at none

end FunctionTable

/-! ## Diagnostics -/

/-- What a problem takes from the expression and from functions has no line break. -/
def Problem.IsPlain : Problem → Prop
  | .unknownCharacter c => Text.isLineBreak c = false
  | .unknownVariable name => Unbroken name
  | .failedCall name cause => Unbroken name ∧ Unbroken cause.message
  | _ => True

/-- The message of a diagnostic is within a line if what it takes from elsewhere is. -/
theorem Diagnostic.unbroken_message {d : Diagnostic} (plain : d.problem.IsPlain) :
    Unbroken d.message := by
  obtain ⟨problem, position⟩ := d
  -- the words of a message are evaluated, and what it takes from elsewhere is known
  have place : Unbroken (toString position) := Text.unbroken_toString position
  cases problem with
  | unknownCharacter c =>
    have character : Unbroken (toString c) := by
      intro c' member
      rw [show toString c = String.singleton c from rfl, String.toList_singleton] at member
      rw [List.mem_singleton.1 member]
      exact plain
    simp only [message, Text.unbroken_append]
    exact ⟨⟨⟨by decide, character⟩, by decide⟩, place⟩
  | unknownVariable name =>
    simp only [message, Text.unbroken_append]
    exact ⟨⟨⟨by decide, plain⟩, by decide⟩, place⟩
  | failedCall name cause =>
    simp only [message, Text.unbroken_append]
    exact ⟨⟨⟨⟨⟨by decide, plain.1⟩, by decide⟩, place⟩, by decide⟩, plain.2⟩
  | trailing kind =>
    simp only [message, Text.unbroken_append]
    exact ⟨⟨⟨by decide, kind.unbroken_describe⟩, by decide⟩, place⟩
  | unexpected kind =>
    simp only [message, Text.unbroken_append]
    exact ⟨⟨⟨by decide, kind.unbroken_describe⟩, by decide⟩, place⟩
  | _ =>
    simp only [message, Text.unbroken_append]
    exact ⟨by decide, place⟩

/-- The diagnostic of a fault takes nothing from the expression. -/
theorem Fault.isPlain (fault : Fault) : fault.diagnostic.problem.IsPlain := by
  cases wanted : fault.wanted <;> simp [Problem.IsPlain, Fault.diagnostic, wanted]

namespace Calculator

variable {σ : Type} {calculator : Calculator σ} {text : String} {bindings : Bindings}

/-- **What an expression fails with is within a line.** Names and the offending character are parts
of the expression without its blanks, and causes come from the functions. -/
theorem isPlain_of_calculate (functions : calculator.functions.FailsPlainly) {d : Diagnostic}
    {memory memory' : σ}
    (run : (calculator.calculate text bindings).run.run memory = (.error d, memory')) :
    d.problem.IsPlain := by
  cases scanned : calculator.tokens text with
  | error cause =>
    rw [calculate_of_error scanned] at run
    cases run
    obtain ⟨problem, position⟩ := d
    rcases Token.scan_eq_error scanned with ⟨c, rfl, character, _⟩ | ⟨rfl, _⟩
    -- a character is reported as it stands among those other than blanks
    · have member := List.mem_of_getElem? character
      exact Text.isLineBreak_eq_false (by simpa using (List.mem_filter.1 member).2)
    · trivial
  | ok tokens =>
    rw [calculate_of_tokens scanned] at run
    rcases evaluateWithin_eq_error run with
      ⟨fault, _, rfl⟩ | ⟨taken, rest, trees, rfl, _, _, _, within, failed⟩
    · exact fault.isPlain
    · obtain ⟨problem, position⟩ := d
      cases problem with
      | unknownCharacter c => exact within.elim
      | unknownVariable name =>
        obtain ⟨token, member, kind, rfl, _⟩ := within
        exact Name.unbroken_of_valid
          (valid_of_tokens scanned (List.mem_append_left _ member) (.inl kind))
      | failedCall name cause =>
        obtain ⟨before, token, arguments, after, e, rfl, derives, rfl, _⟩ := within
        obtain ⟨_, _, _, function, _⟩ := derives.exists_opening
        -- the name is a token of the expression, and the cause is that of its function
        have formed : token.WellFormed calculator.functions.has :=
          wellFormed_of_tokens scanned (by simp) (by simp [function])
        rw [Token.WellFormed, function] at formed
        obtain ⟨values, between, called⟩ :=
          Expr.callFailed_of_values (fun e _ _ => e.callFailed_of_value) failed
        exact ⟨Name.unbroken_of_valid formed.1, functions _ _ _ _ _ formed.2 called⟩
      | _ => trivial

end Calculator

/-! ## Remarks -/

namespace Remark

/-- What a remark takes from elsewhere has no line break. -/
def IsPlain : Remark → Prop
  | .functions names | .missing names => ∀ name ∈ names, Unbroken name
  | .question name => Unbroken name
  | .report (.ok value) => Unbroken (Decimal.writeFloat value)
  | .report (.error d) => d.problem.IsPlain ∧ Unbroken d.message
  | _ => True

/-- A line that lists names is a line. -/
theorem isLine_listed {heading : String} {names : List String} (headed : Unbroken heading)
    (plain : ∀ name ∈ names, Unbroken name) : IsLine (listed heading names) := by
  refine ⟨heading ++ ": " ++ ", ".intercalate names, ?_, rfl⟩
  rw [Text.unbroken_append, Text.unbroken_append]
  exact ⟨⟨headed, by decide⟩, Text.unbroken_intercalate (by decide) plain⟩

/-- An outcome is reported in one line, which tells whether it is a result or an error. -/
theorem reported_eq_line {outcome : Except Diagnostic Float} (plain : (report outcome).IsPlain) :
    ∃ line, Unbroken line ∧ reported outcome = line ++ "\n" ∧
      ((∃ value, line = "Result: " ++ value) ∨ ∃ message, line = "Error: " ++ message) := by
  cases outcome with
  | ok value =>
    refine ⟨"Result: " ++ Decimal.writeFloat value, ?_, rfl, .inl ⟨_, rfl⟩⟩
    exact Text.unbroken_append.2 ⟨by decide, plain⟩
  | error d =>
    refine ⟨"Error: " ++ d.message, ?_, rfl, .inr ⟨_, rfl⟩⟩
    exact Text.unbroken_append.2 ⟨by decide, plain.2⟩

/-- A remark is a line, or it is a question or a mark that waits within a line. -/
theorem unbroken_or_isLine {remark : Remark} (plain : remark.IsPlain) :
    Unbroken remark.text ∨ IsLine remark.text := by
  cases remark with
  | title => exact .inr ⟨"=== tally: arithmetic expression calculator ===", by decide, rfl⟩
  | operators => exact .inr ⟨"Operators: + - * / ^", by decide, rfl⟩
  | functions names => exact .inr (isLine_listed (by decide) plain)
  | hint => exact .inr ⟨"Type 'exit' to quit.", by decide, rfl⟩
  | mark => exact .inl (by decide)
  | missing names => exact .inr (isLine_listed (by decide) plain)
  | question name =>
    refine .inl ?_
    have written : (question name).text = "Enter value for " ++ name ++ ": " := rfl
    rw [written, Text.unbroken_append, Text.unbroken_append]
    exact ⟨⟨by decide, plain⟩, by decide⟩
  | refusal => exact .inr ⟨"Error: enter a valid number", by decide, rfl⟩
  | report outcome =>
    obtain ⟨line, unbroken, written, _⟩ := reported_eq_line plain
    exact .inr ⟨line, unbroken, written⟩
  | blank => exact .inr ⟨"", by decide, rfl⟩
  | farewell => exact .inr ⟨"Goodbye.", by decide, rfl⟩

/-- The remarks write the line one after the other, with its end or without: those before the last
wait within it. -/
def WriteLine (said : List Remark) (line : String) : Prop :=
  (∀ remark ∈ said.dropLast, Unbroken remark.text) ∧
    (texts said = line ∨ texts said = line ++ "\n")

/-- A line of what is written after remarks that wait within it is written by consecutive remarks. -/
theorem exists_of_mem_linesFrom {waiting remarks : List Remark}
    (waits : ∀ remark ∈ waiting, Unbroken remark.text) (plain : ∀ remark ∈ remarks, remark.IsPlain)
    {line : List Char}
    (member : line ∈
      Text.linesFrom '\n' (texts waiting).toList.reverse (texts remarks).toList) :
    ∃ said, said <:+: waiting ++ remarks ∧ WriteLine said (String.ofList line) := by
  induction remarks generalizing waiting with
  | nil =>
    rw [texts_nil, String.toList_empty, Text.linesFrom] at member
    split at member
    · cases member
    · rw [List.mem_singleton, List.reverse_reverse] at member
      refine ⟨waiting, ⟨[], [], by simp⟩,
        fun remark before => waits remark (List.mem_of_mem_dropLast before), .inl ?_⟩
      rw [member, String.ofList_toList]
  | cons remark remarks ih =>
    obtain ⟨first, others⟩ := List.forall_mem_cons.1 plain
    rw [texts_cons, String.toList_append] at member
    rcases unbroken_or_isLine first with unbroken | ⟨body, unbroken, written⟩
    -- the remark is one more that waits
    · rw [Text.linesFrom_skip (Text.lineFeed_notMem unbroken), ← List.reverse_append,
        ← String.toList_append] at member
      have together : texts (waiting ++ [remark]) = texts waiting ++ remark.text := by simp
      rw [← together] at member
      obtain ⟨said, inside, writes⟩ :=
        ih (List.forall_mem_append.2 ⟨waits, List.forall_mem_singleton.2 unbroken⟩) others member
      exact ⟨said, by simpa using inside, writes⟩
    -- the remark ends the line, and nothing waits in the next
    · have ended : remark.text.toList ++ (texts remarks).toList =
          body.toList ++ '\n' :: (texts remarks).toList := by simp [written]
      rw [ended, Text.linesFrom_skip (Text.lineFeed_notMem unbroken), Text.linesFrom, if_pos rfl,
        List.mem_cons] at member
      rcases member with rfl | later
      · refine ⟨waiting ++ [remark], ⟨[], remarks, by simp⟩, ?_, .inr ?_⟩
        · rw [List.dropLast_concat]
          exact waits
        · simp [written, String.append_assoc, String.ofList_append]
      · obtain ⟨said, inside, writes⟩ := @ih [] (List.forall_mem_nil _) others later
        have suffix : remarks <:+ waiting ++ remark :: remarks := ⟨waiting ++ [remark], by simp⟩
        exact ⟨said, inside.trans suffix.isInfix, writes⟩

/-- **A line of the output is written by consecutive remarks.** -/
theorem exists_of_mem_lines {remarks : List Remark} (plain : ∀ remark ∈ remarks, remark.IsPlain)
    {line : String} (member : line ∈ Text.lines (texts remarks)) :
    ∃ said, said <:+: remarks ∧ WriteLine said line := by
  obtain ⟨characters, inside, rfl⟩ := List.mem_map.1 member
  exact @exists_of_mem_linesFrom [] remarks (List.forall_mem_nil _) plain characters inside

/-- An outcome of an expression is reported plainly. -/
theorem isPlain_report {σ : Type} {calculator : Calculator σ}
    (functions : calculator.functions.FailsPlainly) (expression : String) (bindings : Bindings)
    (memory : σ) :
    (report ((calculator.calculate expression bindings).run.run memory).1).IsPlain := by
  rcases run : (calculator.calculate expression bindings).run.run memory with ⟨d | v, memory'⟩
  · have plain := Calculator.isPlain_of_calculate functions run
    exact ⟨plain, Diagnostic.unbroken_message plain⟩
  · exact Decimal.unbroken_writeFloat v

/-- What is missing is named plainly. -/
theorem isPlain_of_mem_heading {missing : List String} (plain : ∀ name ∈ missing, Unbroken name) :
    ∀ remark ∈ heading missing, remark.IsPlain := by
  intro remark member
  rw [eq_of_mem_heading member]
  exact plain

/-- What is asked for is named plainly. -/
theorem isPlain_of_mem_attempts {name : String} (plain : Unbroken name) (refused : List String) :
    ∀ remark ∈ attempts name refused, remark.IsPlain := by
  intro remark member
  rcases eq_of_mem_attempts member with rfl | rfl
  · exact plain
  · trivial

/-- What is answered is named plainly. -/
theorem isPlain_of_mem_remarks {answers : List Answer}
    (plain : ∀ name ∈ answers.map Answer.name, Unbroken name) :
    ∀ remark ∈ answers.flatMap Answer.remarks, remark.IsPlain := by
  intro remark member
  rcases Answer.eq_of_mem_remarks member with ⟨name, inside, rfl⟩ | rfl
  · exact plain name inside
  · trivial

/-- What is said up to a question without an answer is named plainly. -/
theorem isPlain_of_mem_unanswered {answers : List Answer} {asked : String} {others : List String}
    (plain : ∀ name ∈ answers.map Answer.name ++ asked :: others, Unbroken name)
    (refused : List String) :
    ∀ remark ∈ heading (answers.map Answer.name ++ asked :: others) ++
      (answers.flatMap Answer.remarks ++ attempts asked refused), remark.IsPlain := by
  obtain ⟨earlier, last⟩ := List.forall_mem_append.1 plain
  exact List.forall_mem_append.2 ⟨isPlain_of_mem_heading plain, List.forall_mem_append.2
    ⟨isPlain_of_mem_remarks earlier,
      isPlain_of_mem_attempts (last asked (List.mem_cons_self ..)) refused⟩⟩

end Remark

/-! ## Dialogues -/

section Plain

variable {σ : Type} {calculator : Calculator σ} {bindings : Bindings} {input : ByteArray}

/-- The variables that are missing are named plainly. -/
theorem Calculator.unbroken_of_mem_missing {expression : String} :
    ∀ name ∈ calculator.missing bindings expression, Unbroken name := by
  intro name member
  rw [missing] at member
  split at member
  · cases member
  · rename_i names listed
    exact Name.unbroken_of_valid (valid_of_mem_variableNames listed (List.mem_filter.1 member).1).1

variable (functions : calculator.functions.FailsPlainly)

include functions

/-- What is said in a turn is plain. -/
theorem Turn.isPlain_of_mem_remarks {turn : Turn} (fits : turn.Fits calculator bindings)
    (memory : σ) : ∀ remark ∈ ((turn.remarks calculator bindings).run memory).1, remark.IsPlain := by
  cases turn with
  | blank line => exact List.forall_mem_singleton.2 trivial
  | expression line answers =>
    have named : ∀ name ∈ answers.map Answer.name, Unbroken name := by
      rw [← fits.2]
      exact Calculator.unbroken_of_mem_missing
    rw [run_remarks_expression, prompts]
    refine List.forall_mem_append.2 ⟨List.forall_mem_append.2
      ⟨Remark.isPlain_of_mem_heading named, Remark.isPlain_of_mem_remarks named⟩, ?_⟩
    exact List.forall_mem_cons.2 ⟨Remark.isPlain_report functions _ _ _,
      List.forall_mem_cons.2 ⟨trivial, List.forall_mem_singleton.2 trivial⟩⟩

omit functions

/-- What is said at the end is plain. -/
theorem Ending.isPlain_of_mem_remarks {ending : Ending} (fits : ending.Fits calculator bindings)
    (stop : Text.Stop) : ∀ remark ∈ ending.remarks stop, remark.IsPlain := by
  cases ending with
  | unanswered line answers asked others refused =>
    have named : ∀ name ∈ answers.map Answer.name ++ asked :: others, Unbroken name := by
      rw [← fits.2.1]
      exact Calculator.unbroken_of_mem_missing
    exact Remark.isPlain_of_mem_unanswered named refused
  | exit line unread => exact List.forall_mem_singleton.2 trivial
  | exhausted =>
    cases stop with
    | finished => exact List.forall_mem_singleton.2 trivial
    | undecodable => exact List.forall_mem_nil _

/-- Where no answer can be read, the interruption is told within a line. -/
theorem Interruption.unbroken_atQuestion {name : String} (plain : Unbroken name)
    (stop : Text.Stop) : Unbroken (atQuestion name stop).message := by
  cases stop with
  | undecodable => exact (by decide : Unbroken "stream did not contain valid UTF-8")
  | finished =>
    show Unbroken ("input ended before a value for '" ++ name ++ "' was given")
    rw [Text.unbroken_append, Text.unbroken_append]
    exact ⟨⟨by decide, plain⟩, by decide⟩

/-- An interruption is told within a line. -/
theorem Ending.unbroken_message {ending : Ending} (fits : ending.Fits calculator bindings)
    {stop : Text.Stop} {interruption : Interruption}
    (interrupted : ending.interruption stop = some interruption) :
    Unbroken interruption.message := by
  cases ending with
  | unanswered line answers asked others refused =>
    have named : asked ∈ calculator.missing bindings (Text.trim line) := by
      rw [fits.2.1]
      simp
    obtain rfl := Option.some.inj interrupted
    exact Interruption.unbroken_atQuestion (Calculator.unbroken_of_mem_missing asked named) stop
  | exit line unread => cases interrupted
  | exhausted =>
    cases stop with
    | finished => cases interrupted
    | undecodable =>
      obtain rfl := Option.some.inj interrupted
      decide

/-- What is written in a turn: the mark after a blank line; for an expression the questions, one
line with the result or the error, an empty line and the mark. -/
def Turn.WritesLines : Turn → List Remark → Prop
  | .blank _, response => Remark.texts response = "> "
  | .expression _ answers, response => ∃ line, Unbroken line ∧
      ((∃ value, line = "Result: " ++ value) ∨ ∃ message, line = "Error: " ++ message) ∧
      Remark.texts response = Remark.texts (prompts answers) ++ line ++ "\n" ++ "\n" ++ "> "

include functions

/-- A turn writes whole lines after its questions. -/
theorem Turn.writesLines_remarks (turn : Turn) (memory : σ) :
    turn.WritesLines ((turn.remarks calculator bindings).run memory).1 := by
  cases turn with
  | blank line =>
    show Remark.texts [.mark] = "> "
    simp [Remark.text]
  | expression line answers =>
    obtain ⟨line, unbroken, written, begins⟩ := Remark.reported_eq_line
      (Remark.isPlain_report functions (Text.trim line)
        (bindings.insertMany (answers.map Answer.entry)) memory)
    refine ⟨line, unbroken, begins, ?_⟩
    rw [run_remarks_expression, Remark.texts_append]
    simp [Remark.text, written, String.append_assoc]

/-- What is said in a whole dialogue is plain. -/
theorem Dialogue.isPlain_of_mem_converse
    (named : ∀ name ∈ calculator.functions.names, Unbroken name)
    (course : Course calculator bindings (Text.read input).lines) (memory : σ) :
    ∀ remark ∈ ((converse calculator bindings input).run memory).1.1, remark.IsPlain := by
  have greeting : ∀ remark ∈ banner calculator ++ [.mark], remark.IsPlain := by
    intro remark member
    simp only [banner, List.cons_append, List.nil_append, List.mem_cons, List.not_mem_nil,
      or_false] at member
    rcases member with rfl | rfl | rfl | rfl | rfl | rfl
    · trivial
    · trivial
    · exact named
    · trivial
    · trivial
    · trivial
  rw [course.run_converse]
  refine List.forall_mem_append.2 ⟨greeting, List.forall_mem_append.2 ⟨?_, ?_⟩⟩
  · exact Turn.forall_mem_flatten
      (fun turn member => Turn.isPlain_of_mem_remarks functions (course.fits turn member)) memory
  · exact Ending.isPlain_of_mem_remarks course.ending_fits _

end Plain

/-- **The input cannot break the lines of a dialogue.** With the standard functions, no name,
character, message or number that is written has a line break in it, and every remark is a line or a
question or mark within one. So whatever the input is, a line with an expression is answered by its
questions, one line with the result or the error, and an empty line. -/
theorem Dialogue.converse_within_lines {σ : Type} (bindings : Bindings) (input : ByteArray)
    (memory : σ) :
    let run := ((converse .standard bindings input).run memory).1
    (∀ remark ∈ run.1, remark.IsPlain ∧ (Unbroken remark.text ∨ IsLine remark.text)) ∧
    (∀ interruption, run.2 = some interruption → Unbroken interruption.message) ∧
    ∀ course : Course (.standard : Calculator σ) bindings (Text.read input).lines,
      ∃ responses : List (List Remark),
        run.1 = banner (.standard : Calculator σ) ++ [.mark] ++
          (responses.flatten ++ course.ending.remarks (Text.read input).stop) ∧
        List.Forall₂ Turn.WritesLines course.turns responses := by
  intro run
  -- of the standard calculator only its functions' failures and names matter
  have functions : (FunctionTable.standard : FunctionTable σ).FailsPlainly :=
    FunctionTable.failsPlainly_standard
  obtain ⟨course⟩ :=
    Course.exists_course (.standard : Calculator σ) bindings (Text.read input).lines
  refine ⟨fun remark member => ?_, fun interruption interrupted => ?_, fun course => ?_⟩
  · have plain : remark.IsPlain := isPlain_of_mem_converse functions
      (fun name => FunctionTable.unbroken_of_mem_names_standard) course memory remark member
    exact ⟨plain, Remark.unbroken_or_isLine plain⟩
  · have ended : run.2 = course.ending.interruption (Text.read input).stop :=
      congrArg Prod.snd (course.run_converse memory)
    exact Ending.unbroken_message course.ending_fits (ended.symm.trans interrupted)
  · refine ⟨course.responses memory, congrArg Prod.fst (course.run_converse memory), ?_⟩
    exact Turn.forall₂_run_mapM (fun turn _ => turn.writesLines_remarks functions) memory

/-- A line separator within an expression is not written again. -/
theorem Dialogue.converse_within_lines_separator :
    let run := ((converse (.standard : Calculator Unit) ∅ "x\u2028y".toUTF8).run ()).1
    run.2 = some (.unanswered "xy") ∧ Unbroken (Interruption.unanswered "xy").message := by
  intro run
  have missing : (.standard : Calculator Unit).missing ∅ (Text.trim "x\u2028y") = ["xy"] := by
    with_unfolding_all rfl
  let course : Course (.standard : Calculator Unit) ∅ (Text.read "x\u2028y".toUTF8).lines :=
    { turns := []
      ending := .unanswered "x\u2028y" [] "xy" [] []
      fits := List.forall_mem_nil _
      ending_fits := ⟨⟨by decide +kernel, by decide +kernel⟩, missing, List.forall_mem_nil _⟩
      lines_eq := (Text.lines_read_toUTF8 _).trans (by decide +kernel) }
  have interrupted : run.2 = some (.unanswered "xy") := by
    have ended := congrArg Prod.snd (course.run_converse ())
    rwa [Text.stop_read_toUTF8] at ended
  obtain ⟨_, told, _⟩ := converse_within_lines (σ := Unit) ∅ "x\u2028y".toUTF8 ()
  exact ⟨interrupted, told _ interrupted⟩

end Reckoner
