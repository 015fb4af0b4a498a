import Mathlib.Order.MinMax
import Reckoner.Proofs.Location

/-! # Expressions in place of variables

Where the value of a variable is that of an expression, the expression in parentheses can take the
place of the variable. `Substitutes` says which tokens come of it. A phrase stays a phrase, and its
tree stands for the one before: without the variable it has the value that the other one has with
it, and it nests deeper by no more than the expression does (`Derives.substitute`). Functions may
write into the memory, but their results must not depend on it, since an expression is evaluated as
often as the variable stands there. -/

namespace Reckoner

/-! ## Results that do not depend on the memory -/

namespace Evaluation

variable {σ α β : Type} {x y : Evaluation σ α} {f g : α → Evaluation σ β}

/-- The computations have the same result, whatever memories they begin with. -/
def Agree (x y : Evaluation σ α) : Prop :=
  ∀ memory memory', (x.run.run memory).1 = (y.run.run memory').1

/-- A result without calls does not depend on the memory. -/
theorem Agree.ofExcept (result : Except Diagnostic α) :
    Agree (ofExcept result : Evaluation σ α) (ofExcept result) := by
  intro memory memory'
  cases result <;> rfl

/-- A value does not depend on the memory. -/
theorem Agree.pure (a : α) : Agree (Pure.pure a : Evaluation σ α) (Pure.pure a) := .ofExcept (.ok a)

/-- Two steps agree when the first ones do and the second ones do after every value. -/
theorem Agree.bind (first : Agree x y) (second : ∀ a, Agree (f a) (g a)) :
    Agree (x >>= f) (y >>= g) := by
  intro memory memory'
  have same := first memory memory'
  rcases runX : x.run.run memory with ⟨d | a, between⟩
  · rcases runY : y.run.run memory' with ⟨d' | a', between'⟩
    · rw [run_bind_of_error runX, run_bind_of_error runY]
      rw [runX, runY] at same
      cases same
      rfl
    · rw [runX, runY] at same
      cases same
  · rcases runY : y.run.run memory' with ⟨d' | a', between'⟩
    · rw [runX, runY] at same
      cases same
    · rw [run_bind_of_ok runX, run_bind_of_ok runY]
      rw [runX, runY] at same
      cases same
      exact second a between between'

end Evaluation

open Evaluation

/-- The results of the functions depend on nothing but the arguments. -/
def FunctionTable.IsPure {σ : Type} (functions : FunctionTable σ) : Prop :=
  ∀ name arguments memory memory', ((functions.invoke name arguments).run.run memory).1 =
    ((functions.invoke name arguments).run.run memory').1

/-- A call of a function that depends on its arguments only has one result. -/
theorem Scope.call_agree {σ : Type} {functions : FunctionTable σ} (isPure : functions.IsPure)
    (bindings bindings' : Bindings) (name : String) (position : Nat) (values : List Float) :
    Agree (Scope.call ⟨functions, bindings⟩ name position values)
      (Scope.call ⟨functions, bindings'⟩ name position values) := by
  intro memory memory'
  let locate (cause : CallFailure) : Diagnostic := ⟨.failedCall name cause, position⟩
  exact congrArg (Except.mapError locate) (isPure name values memory memory')

/-! ## Tokens in place of others -/

namespace Token

/-- The token is the variable of the name. -/
def IsVariable (name : String) (token : Token) : Prop :=
  token.kind = .variable ∧ token.text = name

instance (name : String) : DecidablePred (IsVariable name) :=
  fun token => inferInstanceAs (Decidable (token.kind = .variable ∧ token.text = name))

end Token

/-- The second tokens are the first ones with the inner tokens in parentheses for each variable of
the name. -/
inductive Substitutes (name : String) (inner : List Token) : List Token → List Token → Prop
  /-- Nothing to replace. -/
  | nil : Substitutes name inner [] []
  /-- Any other token stays. -/
  | kept {token tokens tokens'} : ¬ token.IsVariable name → Substitutes name inner tokens tokens' →
      Substitutes name inner (token :: tokens) (token :: tokens')
  /-- The variable is replaced. -/
  | replaced {token opening closing tokens tokens'} : token.IsVariable name →
      opening.kind = .leftParen → closing.kind = .rightParen →
      Substitutes name inner tokens tokens' →
      Substitutes name inner (token :: tokens) (opening :: (inner ++ closing :: tokens'))

namespace Substitutes

variable {name : String} {inner tokens tokens' before after : List Token}
  {token function opening closing : Token}

/-- What takes the place of tokens beside each other stands beside each other. -/
theorem exists_append (substitutes : Substitutes name inner (before ++ after) tokens') :
    ∃ before' after', tokens' = before' ++ after' ∧ Substitutes name inner before before' ∧
      Substitutes name inner after after' := by
  induction before generalizing tokens' with
  | nil => exact ⟨[], tokens', rfl, .nil, substitutes⟩
  | cons token before ih =>
    cases substitutes with
    | kept other rest =>
      obtain ⟨before', after', rfl, left, right⟩ := ih rest
      exact ⟨_, after', rfl, .kept other left, right⟩
    | @replaced _ opening closing _ _ same opens closes rest =>
      obtain ⟨before', after', rfl, left, right⟩ := ih rest
      exact ⟨_, after', by simp, .replaced same opens closes left, right⟩

/-- A token that is no variable stays. -/
theorem exists_cons (substitutes : Substitutes name inner (token :: tokens) tokens')
    (other : token.kind ≠ .variable) :
    ∃ rest, tokens' = token :: rest ∧ Substitutes name inner tokens rest := by
  cases substitutes with
  | kept _ rest => exact ⟨_, rfl, rest⟩
  | replaced same => exact absurd same.1 other

/-- A single token that is no variable stays alone. -/
theorem eq_singleton (substitutes : Substitutes name inner [token] tokens')
    (other : token.kind ≠ .variable) : tokens' = [token] := by
  obtain ⟨rest, rfl, none⟩ := substitutes.exists_cons other
  cases none
  rfl

/-- A token that is no variable stays between what takes the place of those around it. -/
theorem exists_joint (substitutes : Substitutes name inner (before ++ token :: after) tokens')
    (other : token.kind ≠ .variable) :
    ∃ before' after', tokens' = before' ++ token :: after' ∧
      Substitutes name inner before before' ∧ Substitutes name inner after after' := by
  obtain ⟨before', rest, rfl, first, joint⟩ := substitutes.exists_append
  obtain ⟨after', rfl, second⟩ := joint.exists_cons other
  exact ⟨before', after', rfl, first, second⟩

/-- A parenthesis that closes stays behind what takes the place of its inside. -/
theorem exists_closed (substitutes : Substitutes name inner (tokens ++ [closing]) tokens')
    (closes : closing.kind = .rightParen) :
    ∃ inside, tokens' = inside ++ [closing] ∧ Substitutes name inner tokens inside := by
  obtain ⟨inside, last, rfl, below, end_⟩ := substitutes.exists_append
  obtain rfl := end_.eq_singleton (by simp [closes])
  exact ⟨inside, rfl, below⟩

/-- The name and the parenthesis that begin a call stay. -/
theorem exists_call (substitutes : Substitutes name inner (function :: opening :: tokens) tokens')
    (isFunction : function.kind = .function) (opens : opening.kind = .leftParen) :
    ∃ rest, tokens' = function :: opening :: rest ∧ Substitutes name inner tokens rest := by
  obtain ⟨_, rfl, afterName⟩ := substitutes.exists_cons (by simp [isFunction])
  obtain ⟨rest, rfl, below⟩ := afterName.exists_cons (by simp [opens])
  exact ⟨rest, rfl, below⟩

/-- The end of the input takes the place of no other token. -/
theorem kind_ne_endOfInput (substitutes : Substitutes name inner tokens tokens')
    (insideInner : ∀ token ∈ inner, token.kind ≠ .endOfInput)
    (inside : ∀ token ∈ tokens, token.kind ≠ .endOfInput) :
    ∀ token ∈ tokens', token.kind ≠ .endOfInput := by
  induction substitutes with
  | nil => exact inside
  | kept _ _ ih =>
    rw [List.forall_mem_cons] at inside ⊢
    exact ⟨inside.1, ih inside.2⟩
  | replaced _ opens closes _ ih =>
    rw [List.forall_mem_cons] at inside
    rw [List.forall_mem_cons, List.forall_mem_append, List.forall_mem_cons, opens, closes]
    exact ⟨by decide, insideInner, by decide, ih inside.2⟩

end Substitutes

/-! ## Trees in place of others -/

namespace Expr

variable {σ : Type} {functions : FunctionTable σ} {bindings : Bindings} {name : String} {v : Float}
  {deeper : Nat}

/-- A tree in which expressions stand in place of a variable: it nests no deeper than so many levels
more, and without the variable it has the value that the other one has with it. -/
structure StandsFor (functions : FunctionTable σ) (bindings : Bindings) (name : String) (v : Float)
    (deeper : Nat) (e' e : Expr) : Prop where
  le_nesting : e.nesting ≤ e'.nesting
  nesting_le : e'.nesting ≤ deeper + e.nesting
  agree : Agree (e'.value ⟨functions, bindings⟩) (e.value ⟨functions, bindings.insert name v⟩)

/-- Trees each of which stands for another one. -/
structure StandForEach (functions : FunctionTable σ) (bindings : Bindings) (name : String)
    (v : Float) (deeper : Nat) (es' es : List Expr) : Prop where
  le_nestings : nestings es ≤ nestings es'
  nestings_le : nestings es' ≤ deeper + nestings es
  agree : Agree (values ⟨functions, bindings⟩ es') (values ⟨functions, bindings.insert name v⟩ es)

namespace StandsFor

variable {e e' left left' right right' : Expr} {es es' : List Expr}

/-- A number stands for itself. -/
theorem literal (text : String) (position : Nat) :
    StandsFor functions bindings name v deeper (.literal text position) (.literal text position) :=
  ⟨Nat.le_refl _, Nat.le_add_left _ _, .ofExcept _⟩

/-- Any other variable stands for itself. -/
theorem var {other : String} (apart : other ≠ name) (position : Nat) :
    StandsFor functions bindings name v deeper (.variable other position)
      (.variable other position) := by
  refine ⟨Nat.le_refl _, Nat.le_add_left _ _, ?_⟩
  have same : (bindings.insert name v)[other]? = bindings[other]? := by
    rw [Std.TreeMap.getElem?_insert, if_neg fun equal => apart (Std.compare_eq_iff_eq.1 equal).symm]
  rw [Expr.value, Expr.value, Scope.lookup, Scope.lookup, same]
  exact .ofExcept _

/-- An expression in parentheses stands for the variable that has its value. -/
theorem replaced {inner : Expr}
    (valued : ∀ memory, ((inner.value ⟨functions, bindings⟩).run.run memory).1 = .ok v)
    (opening position : Nat) :
    StandsFor functions bindings name v inner.nesting (.grouped opening inner)
      (.variable name position) := by
  refine ⟨Nat.le_add_left _ _, Nat.le_refl _, fun memory memory' => ?_⟩
  have bound : (bindings.insert name v)[name]? = some v := by
    rw [Std.TreeMap.getElem?_insert, if_pos Std.ReflCmp.compare_self]
  rw [Expr.value, Expr.value, Scope.lookup, bound, valued]
  rfl

/-- A group stands for the group of what its inside stands for. -/
theorem grouped (inside : StandsFor functions bindings name v deeper e' e) (position : Nat) :
    StandsFor functions bindings name v deeper (.grouped position e') (.grouped position e) where
  le_nesting := Nat.succ_le_succ inside.le_nesting
  nesting_le := Nat.succ_le_succ inside.nesting_le
  agree := by rw [Expr.value, Expr.value]; exact inside.agree

/-- A sign changes what its operands stand for. -/
theorem signed (operand : StandsFor functions bindings name v deeper e' e) (sign : Sign)
    (position : Nat) :
    StandsFor functions bindings name v deeper (.signed sign position e')
      (.signed sign position e) where
  le_nesting := Nat.succ_le_succ operand.le_nesting
  nesting_le := Nat.succ_le_succ operand.nesting_le
  agree := by
    rw [Expr.value, Expr.value]
    exact operand.agree.bind fun x => .pure _

/-- An operator joins what its sides stand for. -/
theorem binary (isLeft : StandsFor functions bindings name v deeper left' left)
    (isRight : StandsFor functions bindings name v deeper right' right) (op : Op)
    (position : Nat) :
    StandsFor functions bindings name v deeper (.binary op position left' right')
      (.binary op position left right) where
  le_nesting := by
    rw [nesting, nesting]
    exact max_le_max isLeft.le_nesting isRight.le_nesting
  nesting_le := by
    rw [nesting, nesting, ← Nat.add_max_add_left]
    exact max_le_max isLeft.nesting_le isRight.nesting_le
  agree := by
    rw [Expr.value, Expr.value]
    exact isLeft.agree.bind fun x => isRight.agree.bind fun y => .ofExcept _

/-- A call of a function that depends on its arguments only stands for the call with the arguments
that its own ones stand for. -/
theorem call (isPure : functions.IsPure)
    (arguments : StandForEach functions bindings name v deeper es' es) (function : String)
    (position : Nat) :
    StandsFor functions bindings name v deeper (.call function position es')
      (.call function position es) where
  le_nesting := Nat.succ_le_succ arguments.le_nestings
  nesting_le := Nat.succ_le_succ arguments.nestings_le
  agree := by
    rw [Expr.value, Expr.value]
    exact arguments.agree.bind fun values => Scope.call_agree isPure _ _ function position values

end StandsFor

namespace StandForEach

variable {e e' : Expr} {es es' : List Expr}

/-- No trees stand for no trees. -/
theorem nil : StandForEach functions bindings name v deeper [] [] :=
  ⟨Nat.le_refl _, Nat.zero_le _, .pure []⟩

/-- One tree more stands for one tree more. -/
theorem append_singleton (each : StandForEach functions bindings name v deeper es' es)
    (last : StandsFor functions bindings name v deeper e' e) :
    StandForEach functions bindings name v deeper (es' ++ [e']) (es ++ [e]) where
  le_nestings := by
    simp only [nestings_append, nestings, Nat.max_zero]
    exact max_le_max each.le_nestings last.le_nesting
  nestings_le := by
    simp only [nestings_append, nestings, Nat.max_zero]
    rw [← Nat.add_max_add_left]
    exact max_le_max each.nestings_le last.nesting_le
  agree := by
    simp only [values_append, values]
    exact each.agree.bind fun vs => (last.agree.bind fun x => .pure [x]).bind fun ws => .pure _

end StandForEach

end Expr

/-! ## Phrases -/

section Phrases

variable {σ : Type} {functions : FunctionTable σ} {bindings : Bindings} {name : String} {v : Float}
  {inner tokens tokens' : List Token} {f e : Expr} {es : List Expr}

/-- The value of a tree does not depend on the memory if no function does. -/
theorem Expr.value_agree (isPure : functions.IsPure) (e : Expr) :
    Agree (e.value ⟨functions, bindings⟩) (e.value ⟨functions, bindings⟩) := by
  induction e using Expr.induct with
  | literal text position =>
    rw [Expr.value]
    exact .ofExcept _
  | var name position =>
    rw [Expr.value]
    exact .ofExcept _
  | call name position arguments ih =>
    have each : Agree (values ⟨functions, bindings⟩ arguments)
        (values ⟨functions, bindings⟩ arguments) := by
      clear name
      induction arguments with
      | nil => exact .pure []
      | cons e es ihTail =>
        rw [List.forall_mem_cons] at ih
        rw [values]
        exact ih.1.bind fun x => (ihTail ih.2).bind fun vs => .pure _
    rw [Expr.value]
    exact each.bind fun values => Scope.call_agree isPure _ _ name position values
  | grouped position inner ih =>
    rw [Expr.value]
    exact ih
  | signed sign position operand ih =>
    rw [Expr.value]
    exact ih.bind fun x => .pure _
  | binary op position left right ihLeft ihRight =>
    rw [Expr.value]
    exact ihLeft.bind fun x => ihRight.bind fun y => .ofExcept _

/-- The tokens are an expression that has the value from whatever memory, as no function uses the
memory for its results. -/
structure HasValue (functions : FunctionTable σ) (bindings : Bindings) (inner : List Token)
    (f : Expr) (v : Float) : Prop where
  isPure : functions.IsPure
  derives : Derives .expression inner f
  valued : ∀ memory, ((f.value ⟨functions, bindings⟩).run.run memory).1 = .ok v

/-- Where each part of a chain can be replaced, the chain can. -/
theorem Chain.substitute {level : Level}
    (parts : Chain level (fun tokens e => ∀ tokens', Substitutes name inner tokens tokens' →
      ∃ e', Derives level.part tokens' e' ∧
        Expr.StandsFor functions bindings name v f.nesting e' e) tokens e)
    (substitutes : Substitutes name inner tokens tokens') :
    ∃ e', Chain level (Derives level.part) tokens' e' ∧
      Expr.StandsFor functions bindings name v f.nesting e' e := by
  induction parts generalizing tokens' with
  | first part =>
    obtain ⟨e', derives, stands⟩ := part _ substitutes
    exact ⟨e', .first derives, stands⟩
  | @joined before token op after left right _ found same part ih =>
    obtain ⟨before', after', rfl, first, second⟩ :=
      substitutes.exists_joint (by simp [Token.kind_of_op? found])
    obtain ⟨left', joined, standsLeft⟩ := ih first
    obtain ⟨right', derives, standsRight⟩ := part _ second
    exact ⟨_, .joined joined found same derives, standsLeft.binary standsRight op token.position⟩

/-- Where each argument can be replaced, all of them can. -/
theorem Separated.substitute
    (arguments : Separated (fun tokens e => ∀ tokens', Substitutes name inner tokens tokens' →
      ∃ e', Derives .expression tokens' e' ∧
        Expr.StandsFor functions bindings name v f.nesting e' e) tokens es)
    (substitutes : Substitutes name inner tokens tokens') :
    ∃ es', Separated (Derives .expression) tokens' es' ∧
      Expr.StandForEach functions bindings name v f.nesting es' es := by
  induction arguments generalizing tokens' with
  | one argument =>
    obtain ⟨e', derives, stands⟩ := argument _ substitutes
    exact ⟨[e'], .one derives, Expr.StandForEach.nil.append_singleton stands⟩
  | @more before es comma tokens e _ kind argument ih =>
    obtain ⟨before', after', rfl, first, second⟩ := substitutes.exists_joint (by simp [kind])
    obtain ⟨es', separated, each⟩ := ih first
    obtain ⟨e', derives, stands⟩ := argument _ second
    exact ⟨es' ++ [e'], .more separated kind derives, each.append_singleton stands⟩

/-- A phrase with an expression in place of a variable of its value is such a phrase, and its tree
stands for the one before. -/
theorem Derives.substitute {phrase : Phrase} (derives : Derives phrase tokens e)
    (value : HasValue functions bindings inner f v)
    (substitutes : Substitutes name inner tokens tokens') :
    ∃ e', Derives phrase tokens' e' ∧
      Expr.StandsFor functions bindings name v f.nesting e' e := by
  induction derives using Derives.induct generalizing tokens' with
  | chain _ parts =>
    obtain ⟨e', chain, stands⟩ :=
      Chain.substitute (parts.mono fun _ _ part _ => part.2) substitutes
    exact ⟨e', Derives.chain_iff.2 chain, stands⟩
  | @signed token sign tokens e found _ ih =>
    obtain ⟨op, isOp, _⟩ := Option.bind_eq_some_iff.1 found
    obtain ⟨rest, rfl, below⟩ := substitutes.exists_cons (by simp [Token.kind_of_op? isOp])
    obtain ⟨e', derives, stands⟩ := ih below
    exact ⟨_, .signed found derives, stands.signed sign token.position⟩
  | unsigned _ ih =>
    obtain ⟨e', derives, stands⟩ := ih substitutes
    exact ⟨e', .unsigned derives, stands⟩
  | number kind =>
    obtain rfl := substitutes.eq_singleton (by simp [kind])
    exact ⟨_, .number kind, .literal _ _⟩
  | @var token kind =>
    cases substitutes with
    | kept other rest =>
      cases rest
      exact ⟨_, .var kind, .var (fun same => other ⟨kind, same⟩) _⟩
    | replaced same opens closes rest =>
      -- the group is closed where the variable ended
      cases rest
      refine ⟨_, .grouped opens value.derives closes, ?_⟩
      rw [same.2]
      exact .replaced value.valued _ _
  | call _ ih =>
    obtain ⟨e', derives, stands⟩ := ih substitutes
    exact ⟨e', .call derives, stands⟩
  | @grouped opening tokens e closing opens _ closes ih =>
    obtain ⟨rest, rfl, after⟩ := substitutes.exists_cons (by simp [opens])
    obtain ⟨inside, rfl, below⟩ := after.exists_closed closes
    obtain ⟨e', derives, stands⟩ := ih below
    exact ⟨_, .grouped opens derives closes, stands.grouped opening.position⟩
  | withoutArguments function opens closes =>
    obtain ⟨_, rfl, after⟩ := substitutes.exists_call function opens
    obtain rfl := after.eq_singleton (by simp [closes])
    exact ⟨_, .withoutArguments function opens closes, .call value.isPure .nil _ _⟩
  | withArguments function opens _ closes arguments =>
    obtain ⟨_, rfl, after⟩ := substitutes.exists_call function opens
    obtain ⟨inside, rfl, below⟩ := after.exists_closed closes
    obtain ⟨es', separated, each⟩ :=
      Separated.substitute (arguments.mono fun _ _ argument _ => argument.2) below
    exact ⟨_, .withArguments function opens separated closes, .call value.isPure each _ _⟩

end Phrases

end Reckoner
