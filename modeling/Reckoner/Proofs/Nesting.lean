import Reckoner.Expr.Value

/-! # Nesting

Every operand that is open takes a level: signs, parentheses and arguments nest, the two sides of an
operator stand beside each other. `Expr.nesting` counts the levels that a tree takes and
`Expr.valueWithin` evaluates it with so many levels to open: an operand that finds none left fails
at its first token, at the time when it would be evaluated. With enough levels that is the value of
the tree (`Expr.valueWithin_eq_value`). -/

namespace Reckoner

namespace Expr

/-! ## Levels of a tree -/

mutual

/-- The number of operands of a tree that are open at a time. -/
def nesting : Expr → Nat
  | .literal _ _ => 1
  | .variable _ _ => 1
  | .call _ _ arguments => nestings arguments + 1
  | .grouped _ inner => nesting inner + 1
  | .signed _ _ operand => nesting operand + 1
  | .binary _ _ left right => max (nesting left) (nesting right)

/-- The greatest nesting of several trees. -/
def nestings : List Expr → Nat
  | [] => 0
  | e :: es => max (nesting e) (nestings es)

end

/-- Several trees nest no deeper than a bound when each of them does. -/
theorem nestings_le {es : List Expr} {levels : Nat} :
    nestings es ≤ levels ↔ ∀ e ∈ es, e.nesting ≤ levels := by
  induction es with
  | nil => simp [nestings]
  | cons e es ih => rw [nestings, Nat.max_le, ih, List.forall_mem_cons]

/-- Trees side by side nest as deep as the deeper ones. -/
theorem nestings_append (es fs : List Expr) :
    nestings (es ++ fs) = max (nestings es) (nestings fs) := by
  induction es with
  | nil => rw [List.nil_append, nestings, Nat.zero_max]
  | cons e es ih => rw [List.cons_append, nestings, nestings, ih, Nat.max_assoc]

/-- Every tree takes a level. -/
theorem nesting_pos (e : Expr) : 0 < e.nesting := by
  induction e using Expr.induct with
  | binary op position left right ihLeft ihRight =>
    rw [nesting]
    exact Nat.lt_of_lt_of_le ihLeft (Nat.le_max_left _ _)
  | _ => simp [nesting]

/-! ## Evaluation within levels -/

variable {σ : Type}

/-- Opens one of the levels left for an operand that begins at the position. -/
def enter {α : Type} (levels position : Nat) (inside : Nat → Evaluation σ α) : Evaluation σ α :=
  match levels with
  | 0 => throw ⟨.nestedTooDeeply, position⟩
  | levels + 1 => inside levels

mutual

/-- The value of a tree of which at most so many operands may be open at a time. -/
def valueWithin (scope : Scope σ) (levels : Nat) : Expr → Evaluation σ Float
  | .literal text position =>
    enter levels position fun _ => ofExcept (Scope.literal text position)
  | .variable name position =>
    enter levels position fun _ => ofExcept (scope.lookup name position)
  | .call name position arguments =>
    enter levels position fun inner => do
      let values ← valuesWithin scope inner arguments
      scope.call name position values
  | .grouped position inside =>
    enter levels position fun inner => valueWithin scope inner inside
  | .signed sign position operand =>
    enter levels position fun inner => do
      let operand ← valueWithin scope inner operand
      return sign.apply operand
  | .binary op position left right => do
    let left ← valueWithin scope levels left
    let right ← valueWithin scope levels right
    ofExcept (op.apply position left right)

/-- The values of trees, from left to right, each within the levels. -/
def valuesWithin (scope : Scope σ) (levels : Nat) : List Expr → Evaluation σ (List Float)
  | [] => return []
  | e :: es => do
    let v ← valueWithin scope levels e
    let vs ← valuesWithin scope levels es
    return v :: vs

end

variable (scope : Scope σ)

/-- With a level left, what is inside has the others. -/
@[simp] theorem enter_succ {α : Type} (levels position : Nat) (inside : Nat → Evaluation σ α) :
    enter (levels + 1) position inside = inside levels := rfl

/-- With a level left, what is inside has the others. -/
theorem enter_of_le {α : Type} {needed levels : Nat} (enough : needed + 1 ≤ levels)
    (position : Nat) (inside : Nat → Evaluation σ α) :
    enter levels position inside = inside (levels - 1) := by
  cases levels with
  | zero => exact absurd enough (Nat.not_succ_le_zero needed)
  | succ levels => rfl

/-- Trees that each keep their value within the levels do so together. -/
theorem valuesWithin_eq_values {levels : Nat} {es : List Expr}
    (same : ∀ e ∈ es, e.valueWithin scope levels = e.value scope) :
    valuesWithin scope levels es = values scope es := by
  induction es with
  | nil => rfl
  | cons e es ih =>
    rw [List.forall_mem_cons] at same
    rw [valuesWithin, values, same.1, ih same.2]

/-- With as many levels as a tree takes, nothing in it is too deep. -/
theorem valueWithin_eq_value {e : Expr} {levels : Nat} (enough : e.nesting ≤ levels) :
    e.valueWithin scope levels = e.value scope := by
  induction e using Expr.induct generalizing levels with
  | literal text position => rw [valueWithin, value, enter_of_le enough]
  | var name position => rw [valueWithin, value, enter_of_le enough]
  | call name position arguments ih =>
    have each := nestings_le.1 (Nat.le_sub_one_of_lt enough)
    rw [valueWithin, value, enter_of_le enough,
      valuesWithin_eq_values scope fun e member => ih e member (each e member)]
  | grouped position inner ih =>
    rw [valueWithin, value, enter_of_le enough, ih (Nat.le_sub_one_of_lt enough)]
  | signed sign position operand ih =>
    rw [valueWithin, value, enter_of_le enough, ih (Nat.le_sub_one_of_lt enough)]
  | binary op position left right ihLeft ihRight =>
    rw [nesting, Nat.max_le] at enough
    rw [valueWithin, value, ihLeft enough.1, ihRight enough.2]

end Expr

end Reckoner
