import Reckoner.Inquiry
import Reckoner.Proofs.Assignments
import Reckoner.Proofs.DecimalRoundTrip
import Reckoner.Proofs.FloatBits
import Reckoner.Proofs.NameExpressions

/-! # Results as input

A finite result is reported in positional notation, after a minus sign if it has one. The text can
be given back in three places: as an expression, where the sign becomes an operator, as the answer
to a question, and as the value of an assignment. Each takes it for the float that was reported,
zeros of either sign and the smallest and greatest floats included
(`Decimal.reported_reads_back`). -/

namespace Reckoner

/-! ## Positional numbers as expressions -/

/-- A number in positional notation has the form of a number token. -/
theorem Decimal.IsPositional.wellFormed {cs : List Char} (positional : IsPositional cs)
    (isFunction : String → Bool) (position : Nat) :
    (⟨.number, String.ofList cs, position⟩ : Token).WellFormed isFunction := by
  have pointless {digits : List Char} (each : ∀ c ∈ digits, c.isDigit = true) :
      digits.count '.' = 0 :=
    List.count_eq_zero.2 fun member => by cases each '.' member
  show String.toList _ ≠ [] ∧ (∀ c ∈ String.toList _, _) ∧ List.count '.' (String.toList _) ≤ 1
  rw [String.toList_ofList]
  have parts := positional.isNumberPart
  cases positional with
  | whole some each => exact ⟨some, parts, by rw [pointless each]; exact Nat.zero_le 1⟩
  | pointed some each _ each' =>
    refine ⟨List.append_ne_nil_of_left_ne_nil some _, parts, ?_⟩
    rw [List.count_append, List.count_cons_self, pointless each, pointless each']

namespace Calculator

variable {σ : Type} {calculator : Calculator σ} {bindings : Bindings} {cs : List Char} {v : Float}

/-- A number in positional notation is an expression without variables, and its value is the float
that it spells. -/
theorem calculate_positional (positional : Decimal.IsPositional cs) (spells : Decimal.Spells cs v) :
    calculator.variableNames (String.ofList cs) = .ok [] ∧
      calculator.calculate (String.ofList cs) bindings = pure v := by
  have formed := positional.wellFormed calculator.functions.has 0
  have scanned := tokens_of_isDecomposition (Token.IsDecomposition.singleton formed)
  have operand : Derives .operand [⟨.number, String.ofList cs, 0⟩]
      (.literal (String.ofList cs) 0) := .unsigned (.number rfl)
  have shallow : (Expr.literal (String.ofList cs) 0).nesting ≤ maxLevels := by
    rw [Expr.nesting]
    decide
  constructor
  · rw [variableNames, scanned]
    rfl
  · rw [calculate_of_operand scanned operand shallow, Expr.value, Scope.literal,
      spells.readFloat?_eq_some]
    rfl

/-- After a minus sign it is an expression without variables as well, and its value is negated. -/
theorem calculate_minus_positional (positional : Decimal.IsPositional cs)
    (spells : Decimal.Spells cs v) :
    calculator.variableNames (String.ofList ('-' :: cs)) = .ok [] ∧
      calculator.calculate (String.ofList ('-' :: cs)) bindings = pure (-v) := by
  have formed := positional.wellFormed calculator.functions.has 1
  have laid := Token.IsDecomposition.nil.join (Token.symbolKind?_symbol .minus)
    (Token.IsDecomposition.singleton formed)
  rw [String.toList_ofList] at laid
  have scanned : calculator.tokens (String.ofList ('-' :: cs)) =
      .ok ([⟨.operator, "-", 0⟩, ⟨.number, String.ofList cs, 1⟩] ++ [.finish _]) :=
    tokens_of_isDecomposition (by rwa [String.toList_ofList])
  have sign : (⟨.operator, "-", 0⟩ : Token).op?.bind Op.sign? = some .minus := by decide
  have operand : Derives .operand [⟨.operator, "-", 0⟩, ⟨.number, String.ofList cs, 1⟩]
      (.signed .minus 0 (.literal (String.ofList cs) 1)) := .signed sign (.unsigned (.number rfl))
  have shallow : (Expr.signed .minus 0 (.literal (String.ofList cs) 1)).nesting ≤ maxLevels := by
    rw [Expr.nesting, Expr.nesting]
    decide
  constructor
  · rw [variableNames, scanned]
    rfl
  · rw [calculate_of_operand scanned operand shallow, Expr.value, Expr.value, Scope.literal,
      spells.readFloat?_eq_some]
    rfl

end Calculator

/-! ## Floats as text -/

namespace Decimal

open Binary64

variable {x : Float}

/-- The text of a finite float is its magnitude, after a minus sign if it has one. -/
theorem writeFloat_eq (finite : x.isFinite = true) : writeFloat x =
    String.ofList (if isNegative x then '-' :: writeMagnitude (Binary64.magnitude x)
      else writeMagnitude (Binary64.magnitude x)) := by
  have number : x.isNaN = false := by
    have unpacked : x.toModel.unpack.isFinite = true := finite
    show x.toModel.unpack.isNaN = false
    cases float : x.toModel.unpack with
    | notANumber =>
      rw [float] at unpacked
      cases unpacked
    | _ => rfl
  rw [writeFloat, number]
  rfl

/-- The text of a finite float spells it. -/
theorem spells_writeFloat (finite : x.isFinite = true) : Spells (writeFloat x).toList x := by
  obtain ⟨written, unsigned, same⟩ :=
    exists_isUnsigned_writeMagnitude (magnitude_lt_infinity finite)
  have whole := ofMagnitude_magnitude x
  rw [writeFloat_eq finite, String.toList_ofList]
  cases sign : isNegative x with
  | false =>
    have spells := Spells.decimal .absent unsigned
    rwa [same, ← sign, whole] at spells
  | true =>
    have spells := Spells.decimal .minus unsigned
    rwa [same, ← sign, whole] at spells

/-- The text of a finite float is an expression without variables that has the float as its value.
-/
theorem calculate_writeFloat {σ : Type} (calculator : Calculator σ) (bindings : Bindings)
    (finite : x.isFinite = true) :
    calculator.variableNames (writeFloat x) = .ok [] ∧
      calculator.calculate (writeFloat x) bindings = pure x := by
  have below := magnitude_lt_infinity finite
  obtain ⟨written, unsigned, same⟩ := exists_isUnsigned_writeMagnitude below
  have positional := isPositional_writeMagnitude below
  have spells := Spells.decimal .absent unsigned
  have whole := ofMagnitude_magnitude x
  rw [writeFloat_eq finite]
  cases sign : isNegative x with
  | false =>
    rw [same, ← sign, whole] at spells
    exact Calculator.calculate_positional positional spells
  | true =>
    -- the number token is the magnitude, and the minus sign before it is an operator
    have value : -ofMagnitude false written.magnitude = x := by
      rw [same, neg_ofMagnitude below, ← sign, whole]
    have calculated :=
      @Calculator.calculate_minus_positional σ calculator bindings _ _ positional spells
    rwa [value] at calculated

/-- What finite floats are written as is digits, perhaps with a point, after a minus sign for those
with one. -/
theorem exists_isPositional_writeFloat (finite : x.isFinite = true) : ∃ cs, IsPositional cs ∧
    (writeFloat x).toList = if isNegative x then '-' :: cs else cs :=
  ⟨_, isPositional_writeMagnitude (magnitude_lt_infinity finite),
    by rw [writeFloat_eq finite, String.toList_ofList]⟩

end Decimal

/-! ## Giving results back -/

variable {text : String} {x : Float}

/-- A line that spells a float with blanks around it answers a question with the float. -/
theorem Inquiry.answer_of_spells {σ : Type} (calculator : Calculator σ) (inquiry : Inquiry)
    (spells : Decimal.Spells text.toList x) {before after : List Char}
    (blank : ∀ c ∈ before ++ after, Text.isBlank c = true) :
    inquiry.answer calculator (String.ofList (before ++ (text.toList ++ after))) =
      Consultation.proceed calculator inquiry.expression (inquiry.known.insert inquiry.name x)
        inquiry.others := by
  rw [List.forall_mem_append] at blank
  have padded : Text.Padded before text.toList after :=
    ⟨blank.1, spells.isBlank_eq_false, spells.ne_nil, blank.2⟩
  have trimmed : Text.trim (String.ofList (before ++ (text.toList ++ after))) = text := by
    rw [Text.trim, String.toList_ofList, padded.trimmed_eq, String.ofList_toList]
  rw [answer, trimmed, Decimal.readFloat?_eq_some_iff.2 spells]

/-- After a valid name and an equals sign, what spells a float assigns it. -/
theorem Assignment.read_of_spells {name : String} (named : Name.valid name = true)
    (spells : Decimal.Spells text.toList x) : read (name ++ "=" ++ text) = .ok ⟨name, x⟩ := by
  let layout : Layout := ⟨[], name.toList, [], [], text.toList, []⟩
  have writes : layout.Writes ⟨name, x⟩ := ⟨List.forall_mem_nil _, rfl, named, spells⟩
  have same : name ++ "=" ++ text = layout.text := by
    rw [← String.toList_inj, Layout.text, String.toList_ofList]
    simp [layout, Layout.left, Layout.right]
  rw [same]
  exact writes.read_eq_ok

namespace Decimal

open Binary64

/-- **A reported result can be given back.** The text after `Result: ` for a finite float is digits,
perhaps with a point among them, after a minus sign for floats with one. For every calculator and
all bindings it is an expression without variables whose value is the float; with blanks around it
or without it answers every question with the float; and after any valid name and an equals sign it
assigns the float. -/
theorem reported_reads_back (finite : x.isFinite = true) :
    let text := writeFloat x
    (Remark.report (.ok x)).text = "Result: " ++ text ++ "\n" ∧
    (∃ cs, IsPositional cs ∧ text.toList = if isNegative x then '-' :: cs else cs) ∧
    (∀ {σ : Type} (calculator : Calculator σ),
      (∀ bindings, calculator.variableNames text = .ok [] ∧
        calculator.calculate text bindings = pure x) ∧
      ∀ (inquiry : Inquiry) (before after : List Char),
        (∀ c ∈ before ++ after, Text.isBlank c = true) →
          inquiry.answer calculator (String.ofList (before ++ (text.toList ++ after))) =
            Consultation.proceed calculator inquiry.expression
              (inquiry.known.insert inquiry.name x) inquiry.others) ∧
    ∀ name, Name.valid name = true → Assignment.read (name ++ "=" ++ text) = .ok ⟨name, x⟩ := by
  intro text
  have spells : Spells text.toList x := spells_writeFloat finite
  refine ⟨rfl, exists_isPositional_writeFloat finite, fun calculator => ⟨fun bindings => ?_, ?_⟩,
    fun name named => Assignment.read_of_spells named spells⟩
  · exact calculate_writeFloat calculator bindings finite
  · exact fun inquiry before after blank => inquiry.answer_of_spells calculator spells blank

/-- Zero with a sign is given back with its sign. -/
theorem reported_reads_back_negative_zero :
    (-0.0 : Float).isFinite = true ∧ writeFloat (-0.0) = "-0" ∧
      (Calculator.standard : Calculator Unit).calculate "-0" ∅ = pure (-0.0) ∧
      Assignment.read "zero=-0" = .ok ⟨"zero", -0.0⟩ := by
  have finite : (-0.0 : Float).isFinite = true := by decide
  have text : writeFloat (-0.0) = "-0" := by decide
  obtain ⟨_, _, calculated, assigned⟩ := reported_reads_back finite
  rw [text] at calculated assigned
  exact ⟨finite, text, ((calculated _).1 ∅).2, assigned "zero" (by decide)⟩

end Decimal

end Reckoner
