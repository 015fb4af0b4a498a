import Reckoner.Proofs.Domains
import Reckoner.Proofs.Printing

/-! # Powers by an operator and by a call

A power can be written with an operator between two groups and as a call with two arguments. Where
the call runs the standard function the two are one computation, on every pair of expressions: each
opens one level around both expressions (`evaluate_call_pair`, `evaluate_power_groups`), evaluates
them in the order written and ends with the same value or failure and the same memory
(`evaluate_pow_eq_power`). -/

namespace Reckoner

variable {σ : Type} {base exponent : List Token} {left right : Expr}

/-! ## The trees of the two notations -/

namespace Derives

/-- A call with two arguments is an expression. -/
theorem call_pair {name opening comma closing : Token} (function : name.kind = .function)
    (opens : opening.kind = .leftParen) (first : Derives .expression base left)
    (separates : comma.kind = .comma) (second : Derives .expression exponent right)
    (closes : closing.kind = .rightParen) :
    Derives .expression (name :: opening :: (base ++ comma :: exponent ++ [closing]))
      (.call name.text name.position [left, right]) := by
  have arguments : Separated (Derives .expression) (base ++ comma :: exponent) [left, right] :=
    .more (.one first) separates second
  exact of_operand (.unsigned (.call (.withArguments function opens arguments closes))) .whole

/-- An operator of powers between two groups makes them an expression. -/
theorem power_groups {opening closing operator opening' closing' : Token}
    (opens : opening.kind = .leftParen) (first : Derives .expression base left)
    (closes : closing.kind = .rightParen) (power : operator.op? = some .power)
    (opens' : opening'.kind = .leftParen) (second : Derives .expression exponent right)
    (closes' : closing'.kind = .rightParen) :
    Derives .expression
      (opening :: (base ++ [closing]) ++ operator :: opening' :: (exponent ++ [closing']))
      (.binary .power operator.position (.grouped opening.position left)
        (.grouped opening'.position right)) := by
  have chain : Chain .power (Derives .operand)
      (opening :: (base ++ [closing]) ++ operator :: opening' :: (exponent ++ [closing']))
      (.binary .power operator.position (.grouped opening.position left)
        (.grouped opening'.position right)) :=
    .joined (.first (.unsigned (.grouped opens first closes))) power rfl
      (.unsigned (.grouped opens' second closes'))
  exact .expression (.first (.product (.first (.power chain))))

end Derives

/-! ## Their values -/

/-- Where a name in any case stands for the standard function, its call is the power. -/
theorem Scope.call_pow {scope : Scope σ} {name : String} (named : Text.lowerCase name = "pow")
    (builtIn : scope.functions.find? "pow" = FunctionTable.standard.find? "pow")
    (position : Nat) (x y : Float) :
    scope.call name position [x, y] = pure (Power.pow x y) := by
  have listed : ("pow", Routine.binary fun a b => .ok (Power.pow a b)) ∈
      StandardFunctions.list := by
    simp [StandardFunctions.list]
  have standard : (FunctionTable.standard : FunctionTable σ).find? "pow" = _ :=
    FunctionTable.find?_standard listed (by decide)
  have found : scope.functions.find? name = scope.functions.find? "pow" := by
    rw [FunctionTable.find?, FunctionTable.find?, named]
    have lower : Text.lowerCase "pow" = "pow" := by decide
    rw [lower]
  rw [Scope.call, FunctionTable.invoke_of_find? (found.trans (builtIn.trans standard))]
  rfl

variable (scope : Scope σ)

/-- An operand of a whole expression opens the first level. -/
theorem Expr.enter_maxLevels {α : Type} (position : Nat) (inside : Nat → Evaluation σ α) :
    enter maxLevels position inside = inside (maxLevels - 1) := rfl

/-- A call with two arguments evaluates them one level deeper. -/
theorem evaluate_call_pair {tokens : List Token} {name : String} {position : Nat}
    (derives : Derives .expression (Token.beforeEnd tokens) (.call name position [left, right])) :
    evaluate scope tokens = (do
      let x ← left.valueWithin scope (maxLevels - 1)
      let y ← right.valueWithin scope (maxLevels - 1)
      scope.call name position [x, y]) := by
  rw [evaluate, evaluateWithin_eq_valueWithin scope derives, Expr.valueWithin,
    Expr.enter_maxLevels]
  simp [Expr.valuesWithin]

/-- A power of two groups evaluates what is in them one level deeper. -/
theorem evaluate_power_groups {tokens : List Token} {position position' position'' : Nat}
    (derives : Derives .expression (Token.beforeEnd tokens)
      (.binary .power position (.grouped position' left) (.grouped position'' right))) :
    evaluate scope tokens = (do
      let x ← left.valueWithin scope (maxLevels - 1)
      let y ← right.valueWithin scope (maxLevels - 1)
      return Power.pow x y) := by
  rw [evaluate, evaluateWithin_eq_valueWithin scope derives, Expr.valueWithin, Expr.valueWithin,
    Expr.valueWithin, Expr.enter_maxLevels, Expr.enter_maxLevels]
  rfl

/-- **A power is the same by the operator and by the call.** Where the name of the standard power
stands for it, calling it with two expressions and writing the operator between the two in
parentheses is the same computation: from any memory the value or failure is the same, with its
position, and the memory that is left, also where an expression is nested too deeply. Only the two
expressions keep their tokens; the others have any texts and positions. -/
theorem evaluate_pow_eq_power
    (builtIn : scope.functions.find? "pow" = FunctionTable.standard.find? "pow")
    (base_sentence : IsSentence base) (exponent_sentence : IsSentence exponent)
    {name opening comma closing : Token} (function : name.kind = .function)
    (named : Text.lowerCase name.text = "pow") (opens : opening.kind = .leftParen)
    (separates : comma.kind = .comma) (closes : closing.kind = .rightParen)
    {open₁ close₁ operator open₂ close₂ : Token} (opens₁ : open₁.kind = .leftParen)
    (closes₁ : close₁.kind = .rightParen) (power : operator.op? = some .power)
    (opens₂ : open₂.kind = .leftParen) (closes₂ : close₂.kind = .rightParen)
    {rest rest' : List Token} (ends : (Token.current rest).kind = .endOfInput)
    (ends' : (Token.current rest').kind = .endOfInput) :
    evaluate scope (name :: opening :: (base ++ comma :: exponent ++ [closing]) ++ rest) =
      evaluate scope
        (open₁ :: (base ++ [close₁]) ++ operator :: open₂ :: (exponent ++ [close₂]) ++ rest') := by
  obtain ⟨left, first⟩ := base_sentence
  obtain ⟨right, second⟩ := exponent_sentence
  have call := Derives.call_pair function opens first separates second closes
  have groups := Derives.power_groups opens₁ first closes₁ power opens₂ second closes₂
  rw [← Token.beforeEnd_append call.kind_ne_endOfInput ends] at call
  rw [← Token.beforeEnd_append groups.kind_ne_endOfInput ends'] at groups
  -- both are one computation up to the last step, which is the power
  rw [evaluate_call_pair scope call, evaluate_power_groups scope groups]
  simp only [Scope.call_pow named builtIn]

/-- The name may be in any case, and the expressions may fail. -/
theorem evaluate_pow_eq_power_capital :
    let scope : Scope Unit := ⟨.standard, ∅⟩
    let base : List Token := [⟨.operator, "-", 7⟩, ⟨.variable, "x", 8⟩]
    let exponent : List Token := [⟨.number, ".", 10⟩]
    let pow : Token := ⟨.function, "POW", 3⟩
    let power : Token := ⟨.operator, "^", 9⟩
    scope.functions.find? "pow" = FunctionTable.standard.find? "pow" ∧ IsSentence base ∧
      IsSentence exponent ∧ pow.kind = .function ∧ Text.lowerCase pow.text = "pow" ∧
      power.op? = some .power ∧
      evaluate scope (pow :: ⟨.leftParen, "(", 6⟩ ::
          (base ++ ⟨.comma, ",", 9⟩ :: exponent ++ [⟨.rightParen, ")", 11⟩]) ++ []) =
        evaluate scope (⟨.leftParen, "(", 6⟩ :: (base ++ [⟨.rightParen, ")", 8⟩]) ++
          power :: ⟨.leftParen, "(", 9⟩ :: (exponent ++ [⟨.rightParen, ")", 11⟩]) ++
          [.finish 12]) := by
  intro scope base exponent pow power
  have minus : (⟨.operator, "-", 7⟩ : Token).op?.bind Op.sign? = some .minus := by decide
  have base_sentence : IsSentence base :=
    ⟨_, (Derives.signed minus (.unsigned (.var rfl))).of_operand .whole⟩
  have exponent_sentence : IsSentence exponent :=
    ⟨_, (Derives.unsigned (.number rfl)).of_operand .whole⟩
  have named : Text.lowerCase pow.text = "pow" := by decide
  have operator : power.op? = some .power := by decide
  exact ⟨rfl, base_sentence, exponent_sentence, rfl, named, operator,
    evaluate_pow_eq_power scope rfl base_sentence exponent_sentence rfl named rfl rfl rfl rfl rfl
      operator rfl rfl rfl rfl⟩

end Reckoner
