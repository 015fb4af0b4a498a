import Reckoner.Token.Scan

/-! # The characters of expressions

The classes of characters that begin tokens are apart: letters, the parts of numbers, and symbols.
Names go on with letters and numerals, among them the digits, but neither with points nor with
symbols. None of all these characters is a blank. -/

namespace Reckoner

namespace Text.Ranges

/-- Whether no range of the one table meets a range of the other. -/
def apart (table other : Ranges) : Bool :=
  table.all fun range => other.all fun range' =>
    decide (range.2 < range'.1) || decide (range'.2 < range.1)

/-- A code point of one of two tables that are apart is not in the other. -/
theorem covers_eq_false_of_apart {table other : Ranges} (ascending : table.ascendingFrom 0 = true)
    (ascending' : other.ascendingFrom 0 = true) (apart : table.apart other = true) {point : Nat}
    (covered : table.covers point = true) : other.covers point = false := by
  rw [← Bool.not_eq_true, covers_iff ascending']
  rintro ⟨range', member', above', below'⟩
  obtain ⟨range, member, above, below⟩ := (covers_iff ascending point).1 covered
  have disjoint := List.all_eq_true.1 (List.all_eq_true.1 apart range member) range' member'
  simp only [Bool.or_eq_true, decide_eq_true_eq] at disjoint
  omega

end Text.Ranges

namespace Token

open Text

/-! ## The parts of numbers and names -/

/-- The code points of the point and the digits. -/
def numberParts : Ranges := [(0x2E, 0x2E), (0x30, 0x39)]

/-- Numbers hold the point and the digits. -/
theorem isNumberPart_eq_covers (c : Char) : isNumberPart c = numberParts.covers c.toNat := by
  have point : c = '.' ↔ c.toNat = 0x2E := by
    rw [← Char.toNat_inj]
    rfl
  have digit : c.isDigit = true ↔ 0x30 ≤ c.toNat ∧ c.toNat ≤ 0x39 := Char.isDigit_iff_toNat
  rw [Bool.eq_iff_iff, isNumberPart, Bool.or_eq_true, beq_iff_eq, point, digit]
  simp only [numberParts, Ranges.covers, Bool.and_eq_true, Bool.or_eq_true, decide_eq_true_eq,
    Bool.false_eq_true, or_false]
  omega

/-- A letter is no part of a number. -/
theorem isNumberPart_of_isStart {c : Char} (start : Name.isStart c = true) :
    isNumberPart c = false := by
  rw [isNumberPart_eq_covers]
  exact Ranges.covers_eq_false_of_apart letters_ascending (by decide) (by decide +kernel) start

/-- Names go on with digits. -/
theorem isPart_of_isDigit {c : Char} (digit : c.isDigit = true) : Name.isPart c = true := by
  have numeral : isNumeral c = true :=
    (Ranges.covers_iff numerals_ascending c.toNat).2
      ⟨(0x30, 0x39), by decide, Char.isDigit_iff_toNat.1 digit⟩
  rw [Name.isPart, numeral, Bool.or_true]

/-! ## Symbols -/

/-- The characters that are tokens by themselves. -/
def symbols : List Char := ['(', ')', ',', '+', '-', '*', '/', '^']

/-- The symbol of an operator is the text of an operator. -/
theorem symbolKind?_symbol (op : Op) : symbolKind? op.symbol = some .operator := by
  cases op <;> rfl

theorem symbolKind?_leftParen : symbolKind? '(' = some .leftParen := rfl

theorem symbolKind?_rightParen : symbolKind? ')' = some .rightParen := rfl

theorem symbolKind?_comma : symbolKind? ',' = some .comma := rfl

/-- What is a token by itself is one of the symbols. -/
theorem mem_symbols_of_symbolKind? {c : Char} {kind : Kind} (found : symbolKind? c = some kind) :
    c ∈ symbols := by
  unfold symbolKind? at found
  split at found
  · simp [symbols, *]
  split at found
  · simp [symbols, *]
  split at found
  · simp [symbols, *]
  obtain ⟨op, operator, _⟩ := Option.map_eq_some_iff.1 found
  rw [Op.ofSymbol?_eq_some.1 operator]
  cases op <;> simp [symbols, Op.symbol]

/-- A symbol is no part of a number. -/
theorem isNumberPart_of_symbolKind? {c : Char} {kind : Kind} (found : symbolKind? c = some kind) :
    isNumberPart c = false := by
  have none : symbols.all (fun c => !isNumberPart c) = true := by decide
  simpa using List.all_eq_true.1 none c (mem_symbols_of_symbolKind? found)

/-- Names do not go on with symbols. -/
theorem isPart_of_symbolKind? {c : Char} {kind : Kind} (found : symbolKind? c = some kind) :
    Name.isPart c = false := by
  have none : symbols.all (fun c => !Name.isPart c) = true := by decide
  simpa using List.all_eq_true.1 none c (mem_symbols_of_symbolKind? found)

/-- Names do not go on with points. -/
theorem isPart_point : Name.isPart '.' = false := by decide

/-! ## Blanks -/

/-- No part of a number is a blank. -/
theorem isBlank_of_isNumberPart {c : Char} (part : isNumberPart c = true) : isBlank c = false := by
  rw [isNumberPart_eq_covers] at part
  exact Ranges.covers_eq_false_of_apart (by decide) blanks_ascending (by decide) part

/-- No part of a name is a blank. -/
theorem isBlank_of_isPart {c : Char} (part : Name.isPart c = true) : isBlank c = false := by
  rcases Bool.or_eq_true_iff.1 part with letter | numeral
  · exact Ranges.covers_eq_false_of_apart letters_ascending blanks_ascending (by decide +kernel)
      letter
  · exact Ranges.covers_eq_false_of_apart numerals_ascending blanks_ascending (by decide)
      numeral

/-- No character of a name is a blank. -/
theorem isBlank_of_isName {name : List Char} (named : Name.isName name = true) :
    ∀ c ∈ name, isBlank c = false :=
  fun c member => isBlank_of_isPart (Name.isPart_of_mem named c member)

/-- No symbol is a blank. -/
theorem isBlank_of_symbolKind? {c : Char} {kind : Kind} (found : symbolKind? c = some kind) :
    isBlank c = false := by
  have none : symbols.all (fun c => !isBlank c) = true := by decide
  simpa using List.all_eq_true.1 none c (mem_symbols_of_symbolKind? found)

end Token

end Reckoner
