import Reckoner.Token

/-! # Expressions

The tree of an expression as it is written, with its parentheses and signs, and with the position of
every piece that can fail. -/

namespace Reckoner

/-- The two signs. -/
inductive Sign
  | plus
  | minus
  deriving DecidableEq, Repr

/-- The sign that an operator is where an operand is expected. -/
def Op.sign? : Op → Option Sign
  | .plus => some .plus
  | .minus => some .minus
  | _ => none

/-- How tightly binary operators bind. -/
inductive Level
  | sum
  | product
  | power
  deriving DecidableEq, Repr

/-- The level of an operator. -/
def Op.level : Op → Level
  | .plus | .minus => .sum
  | .times | .divide => .product
  | .power => .power

/-- An expression. Positions are those of the number, the name, the opening parenthesis, the sign or
the operator. -/
inductive Expr
  | literal (text : String) (position : Nat)
  | variable (name : String) (position : Nat)
  | call (name : String) (position : Nat) (arguments : List Expr)
  | grouped (position : Nat) (inner : Expr)
  | signed (sign : Sign) (position : Nat) (operand : Expr)
  | binary (op : Op) (position : Nat) (left right : Expr)

namespace Expr

/-- Induction on expressions with a hypothesis for every argument of a call. -/
theorem induct {motive : Expr → Prop}
    (literal : ∀ text position, motive (.literal text position))
    (var : ∀ name position, motive (.variable name position))
    (call : ∀ name position arguments, (∀ e ∈ arguments, motive e) →
      motive (.call name position arguments))
    (grouped : ∀ position inner, motive inner → motive (.grouped position inner))
    (signed : ∀ sign position operand, motive operand → motive (.signed sign position operand))
    (binary : ∀ op position left right, motive left → motive right →
      motive (.binary op position left right))
    (e : Expr) : motive e :=
  Expr.rec (motive_1 := motive) (motive_2 := fun es => ∀ e ∈ es, motive e)
    literal var call grouped signed binary
    (fun _ h => absurd h List.not_mem_nil)
    (fun _ _ head tail _ h => (List.mem_cons.1 h).elim (fun h => h ▸ head) (tail _)) e

end Expr

end Reckoner
