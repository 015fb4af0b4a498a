import Reckoner.Calculator
import Reckoner.Proofs.MaximalMunch

/-! # Formulas

A formula is what an expression means, without parentheses and positions: numerals, variables, calls
of functions, signs and operators. Names are valid ones, and which of them are functions is decided
by `isFunction`. `Formula.print` writes a formula with the parentheses it needs, `Formula.nesting`
counts the levels that this takes, and `Formula.outcome` is its value from left to right, with
positions in what is written. -/

namespace Reckoner

/-! ## The pieces of formulas -/

/-- A decimal numeral: digits, one of which may have a point before or after it. -/
structure Numeral where
  text : String
  parts : ∀ c ∈ text.toList, Token.isNumberPart c = true
  points : text.toList.count '.' ≤ 1
  digit : ∃ c ∈ text.toList, c.isDigit = true

/-- The name of a variable. -/
structure VariableName (isFunction : String → Bool) where
  text : String
  valid : Name.valid text = true
  free : isFunction text = false

/-- The name of a function. -/
structure FunctionName (isFunction : String → Bool) where
  text : String
  valid : Name.valid text = true
  known : isFunction text = true

/-- A formula. -/
inductive Formula (isFunction : String → Bool)
  | literal (numeral : Numeral)
  | variable (name : VariableName isFunction)
  | call (name : FunctionName isFunction) (arguments : List (Formula isFunction))
  | signed (sign : Sign) (operand : Formula isFunction)
  | binary (op : Op) (left right : Formula isFunction)

/-- The operator that is written like a sign. -/
def Sign.op : Sign → Op
  | .plus => .plus
  | .minus => .minus

@[simp] theorem Sign.sign?_op (sign : Sign) : sign.op.sign? = some sign := by
  cases sign <;> rfl

/-! ## Numerals spell floats -/

namespace Decimal

/-- Parts of a number with at most one point are digits, or digits, a point and digits. -/
theorem digits_of_parts {cs : List Char} (parts : ∀ c ∈ cs, Token.isNumberPart c = true)
    (points : cs.count '.' ≤ 1) :
    (∀ c ∈ cs, c.isDigit = true) ∨
      ∃ whole fraction, cs = whole ++ '.' :: fraction ∧ (∀ c ∈ whole, c.isDigit = true) ∧
        ∀ c ∈ fraction, c.isDigit = true := by
  have digit {c : Char} (part : Token.isNumberPart c = true) (other : c ≠ '.') :
      c.isDigit = true := by
    simpa [Token.isNumberPart, other] using part
  induction cs with
  | nil => exact .inl fun c member => absurd member List.not_mem_nil
  | cons c cs ih =>
    rw [List.forall_mem_cons] at parts
    by_cases point : c = '.'
    · -- no other point is left for the rest
      subst point
      rw [List.count_cons_self] at points
      have none : '.' ∉ cs := List.count_eq_zero.1 (by omega)
      refine .inr ⟨[], cs, rfl, by simp, fun c member => digit (parts.2 c member) ?_⟩
      rintro rfl
      exact none member
    · rw [List.count_cons_of_ne point] at points
      rcases ih parts.2 points with digits | ⟨whole, fraction, rfl, digits, digits'⟩
      · exact .inl (List.forall_mem_cons.2 ⟨digit parts.1 point, digits⟩)
      · exact .inr ⟨c :: whole, fraction, rfl,
          List.forall_mem_cons.2 ⟨digit parts.1 point, digits⟩, digits'⟩

/-- Digits with at most one point and at least one digit spell a decimal. -/
theorem isSome_readUnsigned? {cs : List Char} (parts : ∀ c ∈ cs, Token.isNumberPart c = true)
    (points : cs.count '.' ≤ 1) (digit : ∃ c ∈ cs, c.isDigit = true) :
    (readUnsigned? cs).isSome = true := by
  have ended {p : Char → Bool} : ∀ c, [].head? = some c → p c = false := by simp
  obtain ⟨d, member, digit⟩ := digit
  rcases digits_of_parts parts points with digits | ⟨whole, fraction, rfl, digits, digits'⟩
  · obtain ⟨taken, left⟩ := Token.takeWhile_dropWhile_append digits ended
    rw [List.append_nil] at taken left
    have some : cs ≠ [] := List.ne_nil_of_mem member
    simp [readUnsigned?, taken, left, splitFraction, readExponent?, some]
  · have point : ∀ c, ('.' :: fraction).head? = some c → c.isDigit = false := by
      intro c first
      cases first
      rfl
    obtain ⟨taken, left⟩ := Token.takeWhile_dropWhile_append digits point
    obtain ⟨taken', left'⟩ := Token.takeWhile_dropWhile_append digits' ended
    rw [List.append_nil] at taken' left'
    have some : ¬ (whole = [] ∧ fraction = []) := by
      rintro ⟨rfl, rfl⟩
      rw [List.nil_append, List.mem_singleton] at member
      subst member
      cases digit
    simp [readUnsigned?, taken, left, splitFraction, taken', left', readExponent?, some]

/-- A numeral spells a float. -/
theorem isSome_readFloat? (numeral : Numeral) : (readFloat? numeral.text).isSome = true := by
  have spelled := isSome_readUnsigned? numeral.parts numeral.points numeral.digit
  have sign : splitSign numeral.text.toList = (false, numeral.text.toList) := by
    have first {c : Char} {rest : List Char} (text : numeral.text.toList = c :: rest) :
        Token.isNumberPart c = true := numeral.parts c (by simp [text])
    unfold splitSign
    split
    · rename_i text
      exact absurd (first text) (by decide)
    · rename_i text
      exact absurd (first text) (by decide)
    · rfl
  simp only [readFloat?, sign]
  split
  · rfl
  · split
    · rfl
    · rw [Option.isSome_map, spelled]

end Decimal

/-- The value of a numeral. -/
def Numeral.value (numeral : Numeral) : Float :=
  (Decimal.readFloat? numeral.text).get (Decimal.isSome_readFloat? numeral)

/-! ## Where parentheses are needed -/

/-- How tightly a level binds. -/
def Level.rank : Level → Nat
  | .sum => 0
  | .product => 1
  | .power => 2

/-- The places at which a formula can stand. -/
inductive Place
  /-- By itself or as an argument. -/
  | whole
  /-- On the left of an operator. -/
  | left (op : Op)
  /-- On the right of an operator. -/
  | right (op : Op)
  /-- After a sign. -/
  | signed

/-- Whether the two sides of an operator need parentheses around them at a place. All operators
group from the left, and signs bind tighter than any of them. -/
def Place.brackets : Place → Op → Bool
  | .whole, _ => false
  | .left outer, op => op.level.rank < outer.level.rank
  | .right outer, op => op.level.rank ≤ outer.level.rank
  | .signed, _ => true

namespace Formula

variable {isFunction : String → Bool} {σ : Type}

/-- Induction on formulas with a hypothesis for every argument of a call. -/
theorem induct {motive : Formula isFunction → Prop}
    (literal : ∀ numeral, motive (.literal numeral)) (var : ∀ name, motive (.variable name))
    (call : ∀ name arguments, (∀ e ∈ arguments, motive e) → motive (.call name arguments))
    (signed : ∀ sign operand, motive operand → motive (.signed sign operand))
    (binary : ∀ op left right, motive left → motive right → motive (.binary op left right))
    (formula : Formula isFunction) : motive formula :=
  Formula.rec (motive_1 := motive) (motive_2 := fun arguments => ∀ e ∈ arguments, motive e)
    literal var call signed binary
    (fun _ h => absurd h List.not_mem_nil)
    (fun _ _ head tail _ h => (List.mem_cons.1 h).elim (fun h => h ▸ head) (tail _)) formula

/-! ## Writing -/

/-- Characters in parentheses, where these are needed. -/
def bracketed (needed : Bool) (cs : List Char) : List Char :=
  if needed then '(' :: (cs ++ [')']) else cs

mutual

/-- The characters of a formula written at a place, with parentheses where they are needed. -/
def print (place : Place) : Formula isFunction → List Char
  | .literal numeral => numeral.text.toList
  | .variable name => name.text.toList
  | .call name arguments =>
    name.text.toList ++ '(' :: ([','].intercalate (printEach arguments) ++ [')'])
  | .signed sign operand => sign.op.symbol :: print .signed operand
  | .binary op left right =>
    bracketed (place.brackets op) (print (.left op) left ++ op.symbol :: print (.right op) right)

/-- The characters of each of several formulas. -/
def printEach : List (Formula isFunction) → List (List Char)
  | [] => []
  | e :: es => print .whole e :: printEach es

end

mutual

/-- The number of operands of a formula written at a place that are open at a time. -/
def nesting (place : Place) : Formula isFunction → Nat
  | .literal _ => 1
  | .variable _ => 1
  | .call _ arguments => nestings arguments + 1
  | .signed _ operand => nesting .signed operand + 1
  | .binary op left right =>
    max (nesting (.left op) left) (nesting (.right op) right) + (place.brackets op).toNat

/-- The greatest nesting of several formulas. -/
def nestings : List (Formula isFunction) → Nat
  | [] => 0
  | e :: es => max (nesting .whole e) (nestings es)

end

/-! ## Evaluating -/

mutual

/-- The value of a formula that is written at a place from a position on, or the first failure with
its position. -/
def outcome (scope : Scope σ) (place : Place) (start : Nat) :
    Formula isFunction → Evaluation σ Float
  | .literal numeral => return numeral.value
  | .variable name => ofExcept (scope.lookup name.text start)
  | .call name arguments => do
    let values ← outcomes scope (start + name.text.length + 1) arguments
    scope.call name.text start values
  | .signed sign operand => do
    let operand ← outcome scope .signed (start + 1) operand
    return sign.apply operand
  | .binary op left right => do
    -- an opening parenthesis comes before the left side
    let first := start + (place.brackets op).toNat
    let middle := first + (print (.left op) left).length
    let left ← outcome scope (.left op) first left
    let right ← outcome scope (.right op) (middle + 1) right
    ofExcept (op.apply middle left right)

/-- The values of formulas that are written one after the other with a character between them. -/
def outcomes (scope : Scope σ) (start : Nat) :
    List (Formula isFunction) → Evaluation σ (List Float)
  | [] => return []
  | e :: es => do
    let v ← outcome scope .whole start e
    let vs ← outcomes scope (start + (print .whole e).length + 1) es
    return v :: vs

end

end Formula

end Reckoner
