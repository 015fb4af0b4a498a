import Reckoner.Proofs.NestingLimit
import Reckoner.Proofs.Refusals
import Reckoner.Proofs.Substitution

/-! # Variables and expressions of the same value

A variable and an expression in parentheses that has its value can be exchanged. Where reading
breaks off before the exchange, it does so after it, unless the parentheses now follow the name of a
function and make it a call (`Stops.substitute`); so exchanged tokens are an expression only if
the tokens before were one (`IsSentence.of_substitutes`). The values are the same as long as the
levels suffice (`evaluate_substitute`). -/

namespace Reckoner

/-! ## Where reading breaks off -/

namespace Token

variable {name : String} {inner taken taken' tokens tokens' : List Token} {token token' : Token}

/-- The first token that takes the place of a token: itself, or a parenthesis for the variable. -/
def Replaces (name : String) (token' token : Token) : Prop :=
  ¬ token.IsVariable name ∧ token' = token ∨ token.IsVariable name ∧ token'.kind = .leftParen

/-- The variable does not follow the name of a function. -/
def KeepsFromFunction (name : String) (token next : Token) : Prop :=
  next.IsVariable name → token.kind ≠ .function

/-- The current token is replaced by the current one of those in place. -/
theorem current_replaces (substitutes : Substitutes name inner tokens tokens') :
    Replaces name (current tokens') (current tokens) := by
  cases substitutes with
  | nil => exact .inl ⟨by simp [IsVariable, finish], rfl⟩
  | kept other _ => exact .inl ⟨other, rfl⟩
  | replaced same opens _ _ => exact .inr ⟨same, opens⟩

/-- What begins tokens and one after them is replaced by what begins those in place. -/
theorem current_append_replaces (substitutes : Substitutes name inner taken taken')
    (replaces : Replaces name token' token) :
    Replaces name (current (taken' ++ [token'])) (current (taken ++ [token])) := by
  cases substitutes with
  | nil => exact replaces
  | kept other _ => exact .inl ⟨other, rfl⟩
  | replaced same opens _ _ => exact .inr ⟨same, opens⟩

namespace Replaces

/-- A token of a kind comes of such a token only, parentheses that open apart. -/
theorem kind_ne (replaces : Replaces name token' token) {kind : Kind} (other : token.kind ≠ kind)
    (proper : kind ≠ .leftParen) : token'.kind ≠ kind := by
  rcases replaces with ⟨_, rfl⟩ | ⟨_, opens⟩
  · exact other
  · rw [opens]
    exact proper.symm

/-- A phrase that is complete before a token is complete before what takes its place. -/
theorem endsBefore (replaces : Replaces name token' token) {phrase : Phrase}
    (ends : phrase.EndsBefore token) : phrase.EndsBefore token' := by
  rcases replaces with ⟨_, rfl⟩ | ⟨_, opens⟩
  · exact ends
  · exact Phrase.endsBefore_of_kind (by simp [opens])

/-- A token that begins no operand is not replaced. -/
theorem eq_of_not_begins (replaces : Replaces name token' token) (none : ¬ token.Begins) :
    token' = token := by
  rcases replaces with ⟨_, same⟩ | ⟨isVariable, _⟩
  · exact same
  · exact absurd (.inr (.inl isVariable.1)) none

end Replaces

end Token

section Phrases

variable {σ : Type} {functions : FunctionTable σ} {bindings : Bindings} {name : String} {v : Float}
  {inner tokens tokens' : List Token} {f e : Expr}

/-- Where reading breaks off, it also does with an expression in place of a variable, unless the
variable follows the name of a function. -/
theorem Stops.substitute {levels : Nat} {phrase : Phrase} {taken taken' : List Token}
    {parts : List Expr} {wanted : Wanted} {token token' : Token}
    (stops : Stops levels phrase taken parts wanted token) (other : wanted ≠ .lessDepth)
    (value : HasValue functions bindings inner f v)
    (apart : (taken ++ [token]).IsChain (Token.KeepsFromFunction name))
    (substitutes : Substitutes name inner taken taken') (replaces : token'.Replaces name token) :
    ∃ parts', Stops (f.nesting + levels) phrase taken' parts' wanted token' := by
  have deeper {nesting' nesting levels : Nat} (le : nesting' ≤ f.nesting + nesting)
      (shallow : nesting ≤ levels) : nesting' ≤ f.nesting + levels :=
    Nat.le_trans le (Nat.add_le_add_left shallow _)
  have arguments {tokens es} (separated : Separated (Derives .expression) tokens es) :=
    separated.mono fun tokens e derives tokens' =>
      (derives.substitute value : Substitutes name inner tokens tokens' → _)
  -- the tokens before the break are exchanged phrase by phrase, those that open a phrase stay
  induction stops generalizing taken' with
  | lessDepth => exact absurd rfl other
  | operand none =>
    cases substitutes
    -- a variable would have begun an operand, so the token is no variable
    obtain rfl := replaces.eq_of_not_begins none
    exact ⟨_, .operand none⟩
  | signed found _ ih =>
    obtain ⟨op, isOp, _⟩ := Option.bind_eq_some_iff.1 found
    obtain ⟨rest, rfl, below⟩ := substitutes.exists_cons (by simp [Token.kind_of_op? isOp])
    obtain ⟨parts', stops⟩ := ih other (List.isChain_cons.1 apart).2 below replaces
    exact ⟨parts', .signed found stops⟩
  | inGroup opens _ ih =>
    obtain ⟨rest, rfl, below⟩ := substitutes.exists_cons (by simp [opens])
    obtain ⟨parts', stops⟩ := ih other (List.isChain_cons.1 apart).2 below replaces
    exact ⟨parts', .inGroup opens stops⟩
  | groupEnd opens derives shallow ends open_ =>
    obtain ⟨rest, rfl, below⟩ := substitutes.exists_cons (by simp [opens])
    obtain ⟨e', derives, stands⟩ := derives.substitute value below
    exact ⟨_, .groupEnd opens derives (deeper stands.nesting_le shallow) (replaces.endsBefore ends)
      (replaces.kind_ne open_ (by decide))⟩
  | callStart function open_ =>
    obtain rfl := substitutes.eq_singleton (by simp [function])
    rcases replaces with ⟨_, rfl⟩ | ⟨isVariable, _⟩
    · exact ⟨_, .callStart function open_⟩
    · -- the parenthesis would open a call here
      have keeps := List.isChain_cons_cons.1 apart
      exact absurd function (keeps.1 isVariable)
  | inFirstArgument function opens proper _ ih =>
    obtain ⟨rest, rfl, below⟩ := substitutes.exists_call function opens
    obtain ⟨parts', stops⟩ := ih other
      (List.isChain_cons.1 (List.isChain_cons.1 apart).2).2 below replaces
    have proper := (Token.current_append_replaces below replaces).kind_ne proper (by decide)
    exact ⟨parts', .inFirstArgument function opens proper stops⟩
  | @inArgument _ _ _ before es comma taken _ _ next function opens separated shallow kind _ ih =>
    obtain ⟨_, rfl, after⟩ := substitutes.exists_call function opens
    obtain ⟨before', taken', rfl, first, second⟩ := after.exists_joint (by simp [kind])
    obtain ⟨es', separated, each⟩ := (arguments separated).substitute first
    have apart :
        (before ++ (comma :: (taken ++ [next]))).IsChain (Token.KeepsFromFunction name) := by
      simpa using (List.isChain_cons.1 (List.isChain_cons.1 apart).2).2
    obtain ⟨parts', stops⟩ := ih other (List.isChain_cons.1 apart.right_of_append).2 second replaces
    have shallow := deeper each.nestings_le (Expr.nestings_le.2 shallow)
    exact ⟨_, .inArgument function opens separated (Expr.nestings_le.1 shallow) kind stops⟩
  | callEnd function opens separated shallow ends noComma open_ =>
    obtain ⟨_, rfl, below⟩ := substitutes.exists_call function opens
    obtain ⟨es', separated, each⟩ := (arguments separated).substitute below
    have shallow := deeper each.nestings_le (Expr.nestings_le.2 shallow)
    exact ⟨_, .callEnd function opens separated (Expr.nestings_le.1 shallow)
      (replaces.endsBefore ends) (replaces.kind_ne noComma (by decide))
      (replaces.kind_ne open_ (by decide))⟩
  | inFirst _ ih =>
    obtain ⟨parts', stops⟩ := ih other apart substitutes replaces
    exact ⟨parts', .inFirst stops⟩
  | @inPart _ _ before left joint _ taken _ _ next joined shallow found same _ ih =>
    obtain ⟨before', taken', rfl, first, second⟩ :=
      substitutes.exists_joint (by simp [Token.kind_of_op? found])
    obtain ⟨left', derives, stands⟩ :=
      (Derives.chain_iff.2 joined).substitute value first
    have apart :
        (before ++ (joint :: (taken ++ [next]))).IsChain (Token.KeepsFromFunction name) := by
      simpa using apart
    obtain ⟨parts', stops⟩ := ih other (List.isChain_cons.1 apart.right_of_append).2 second replaces
    exact ⟨_, .inPart (Derives.chain_iff.1 derives) (deeper stands.nesting_le shallow) found same
      stops⟩

/-- What begins an expression and the token after it, which may be its end, are viable. -/
theorem IsSentence.viable_current {taken rest : List Token}
    (sentence : IsSentence (taken ++ rest)) : Viable (taken ++ [Token.current rest]) := by
  obtain ⟨e, derives⟩ := sentence
  cases rest with
  | nil =>
    rw [List.append_nil] at derives
    exact ⟨taken, Token.finish 0, [], ⟨e, derives⟩, rfl, by simp⟩
  | cons token rest =>
    rw [← List.singleton_append, ← List.append_assoc] at derives
    exact derives.viable

/-- Where the variable follows no name of a function in tokens, it does not in those that begin them
and the one after these. -/
theorem Token.isChain_append_current {taken rest : List Token}
    (apart : (taken ++ rest).IsChain (KeepsFromFunction name)) :
    (taken ++ [current rest]).IsChain (KeepsFromFunction name) := by
  cases rest with
  | nil =>
    rw [List.append_nil] at apart
    refine List.isChain_append.2 ⟨apart, .singleton _, fun last _ next isNext => ?_⟩
    cases isNext
    exact fun same => absurd same.1 (by simp [finish])
  | cons token rest =>
    rw [← List.singleton_append, ← List.append_assoc] at apart
    exact apart.left_of_append

/-- Tokens that are an expression with an expression in place of a variable are one with the
variable, unless it follows the name of a function. -/
theorem IsSentence.of_substitutes (sentence : IsSentence tokens')
    (value : HasValue functions bindings inner f v)
    (inside : ∀ token ∈ tokens, token.kind ≠ .endOfInput)
    (apart : tokens.IsChain (Token.KeepsFromFunction name))
    (substitutes : Substitutes name inner tokens tokens') : IsSentence tokens := by
  -- read with more levels than there are tokens, which cannot be used up
  cases read : (Phrase.rule (tokens.length + 1) .expression).read tokens with
  | error fault =>
    obtain ⟨taken, rfl, stops⟩ := Rule.whole_stops _ tokens fault read
    have other : fault.wanted ≠ .lessDepth := by
      intro deep
      have le := stops.levels_le deep
      rw [List.length_append] at le
      omega
    obtain ⟨taken', rest', rfl, first, second⟩ := substitutes.exists_append
    obtain ⟨parts', stops⟩ := stops.substitute other value (Token.isChain_append_current apart)
      first (Token.current_replaces second)
    -- reading the tokens in place breaks off as well, although they begin a sentence
    exact absurd sentence.viable_current (stops.not_viable other)
  | ok piece =>
    obtain ⟨e, rest⟩ := piece
    obtain ⟨taken, rfl, derives, _, complete⟩ := (Rule.whole_reads _).sound read
    cases rest with
    | nil => exact ⟨e, by rwa [List.append_nil]⟩
    | cons token rest =>
      -- an expression that is complete before a token still is before what takes its place
      obtain ⟨taken', rest', rfl, first, second⟩ := substitutes.exists_append
      obtain ⟨e', derives, _⟩ := derives.substitute value first
      have replaces := Token.current_replaces second
      have other : token.kind ≠ .endOfInput := inside token (by simp)
      exact absurd sentence.viable_current (derives.not_viable (replaces.endsBefore complete)
        (replaces.kind_ne other (by decide)))

end Phrases

/-! ## Values -/

section Values

variable {σ : Type} {functions : FunctionTable σ} {bindings : Bindings} {name : String} {v : Float}
  {inner tokens tokens' : List Token} {f e : Expr}

/-- Tokens none of which is the end of the input all stand before it. -/
theorem Token.beforeEnd_eq_self (inside : ∀ token ∈ tokens, token.kind ≠ .endOfInput) :
    beforeEnd tokens = tokens := by
  have before : beforeEnd (tokens ++ []) = tokens := beforeEnd_append inside rfl
  rwa [List.append_nil] at before

/-- Tokens before the end of the input have a value exactly if they are an expression of the value
that nests no deeper than the limit. -/
theorem evaluate_eq_ok_of_inside {scope : Scope σ} {memory : σ}
    (inside : ∀ token ∈ tokens, token.kind ≠ .endOfInput) :
    ((evaluate scope tokens).run.run memory).1 = .ok v ↔
      ∃ e, Derives .expression tokens e ∧ e.nesting ≤ maxLevels ∧
        ((e.value scope).run.run memory).1 = .ok v := by
  have whole : Token.beforeEnd tokens = tokens := Token.beforeEnd_eq_self inside
  constructor
  · intro valued
    obtain ⟨e, derives, shallow, value⟩ := (evaluateWithin_eq_ok scope).1 (Prod.ext valued rfl)
    rw [whole] at derives
    exact ⟨e, derives, shallow, congrArg Prod.fst value⟩
  · rintro ⟨e, derives, shallow, value⟩
    have run := (evaluateWithin_eq_ok scope).2 ⟨e, by rwa [whole], shallow, Prod.ext value rfl⟩
    exact congrArg Prod.fst run

/-- An expression has the value of its tree unless it is nested too deeply. -/
theorem evaluate_eq_value_or_nestedTooDeeply (derives : Derives .expression tokens e)
    (scope : Scope σ) (memory : σ) :
    ((evaluate scope tokens).run.run memory).1 = ((e.value scope).run.run memory).1 ∨
      ∃ position, ((evaluate scope tokens).run.run memory).1 =
        .error ⟨.nestedTooDeeply, position⟩ := by
  have whole : Token.beforeEnd tokens = tokens :=
    Token.beforeEnd_eq_self derives.kind_ne_endOfInput
  have read : evaluate scope tokens = Descent.evaluate maxLevels scope tokens :=
    (Descent.evaluate_eq_evaluateWithin maxLevels scope tokens).symm
  rw [read]
  by_cases deep : Descent.IsTooDeep
      ((Descent.evaluate maxLevels scope tokens).run.run memory).1
  · exact .inr deep
  · refine .inl ?_
    rw [← Descent.run_evaluate_of_le le_top deep, Descent.run_evaluate_top (by rwa [whole])]

/-- **A variable and an expression of its value can be exchanged.** Let the functions be such that
their results depend on the arguments only, and let the inner tokens have a value. If tokens have a
value with a variable that has this value, they have the same one without it when the inner tokens
in parentheses take its place, unless they nest too deeply then; they do not as long as the tokens
and the inner ones together nest no deeper than the limit. Conversely, if the tokens with the inner
ones have a value, those with the variable have the same one, provided that the variable nowhere
follows the name of a function. -/
theorem evaluate_substitute (isPure : functions.IsPure)
    (insideInner : ∀ token ∈ inner, token.kind ≠ .endOfInput)
    (inside : ∀ token ∈ tokens, token.kind ≠ .endOfInput)
    (substitutes : Substitutes name inner tokens tokens') {memory : σ}
    (valued : ((evaluate ⟨functions, bindings⟩ inner).run.run memory).1 = .ok v) :
    (∀ w memory₁,
      ((evaluate ⟨functions, bindings.insert name v⟩ tokens).run.run memory₁).1 = .ok w →
      ∀ memory₂,
        (((evaluate ⟨functions, bindings⟩ tokens').run.run memory₂).1 = .ok w ∨
          ∃ position, ((evaluate ⟨functions, bindings⟩ tokens').run.run memory₂).1 =
            .error ⟨.nestedTooDeeply, position⟩) ∧
        (∀ e f, Derives .expression tokens e → Derives .expression inner f →
          e.nesting + f.nesting ≤ maxLevels →
          ((evaluate ⟨functions, bindings⟩ tokens').run.run memory₂).1 = .ok w)) ∧
    (tokens.IsChain (Token.KeepsFromFunction name) →
      ∀ w memory₁, ((evaluate ⟨functions, bindings⟩ tokens').run.run memory₁).1 = .ok w →
      ∀ memory₂,
        ((evaluate ⟨functions, bindings.insert name v⟩ tokens).run.run memory₂).1 = .ok w) := by
  obtain ⟨f, derivesInner, _, valueInner⟩ := (evaluate_eq_ok_of_inside insideInner).1 valued
  have value : HasValue functions bindings inner f v :=
    ⟨isPure, derivesInner, fun memory' => (f.value_agree isPure memory' memory).trans valueInner⟩
  constructor
  -- the tree of the tokens in place stands for the one before, deeper by no more than the inner one
  · intro w memory₁ before memory₂
    obtain ⟨e, derives, _, valueTokens⟩ := (evaluate_eq_ok_of_inside inside).1 before
    obtain ⟨e', derives', stands⟩ := derives.substitute value substitutes
    have same := (stands.agree memory₂ memory₁).trans valueTokens
    refine ⟨?_, fun e₂ f₂ derives₂ derivesInner₂ enough => ?_⟩
    · rcases evaluate_eq_value_or_nestedTooDeeply derives' ⟨functions, bindings⟩ memory₂ with
        equal | deep
      · exact .inl (equal.trans same)
      · exact .inr deep
    · obtain rfl := derives.unique derives₂
      obtain rfl := derivesInner.unique derivesInner₂
      have shallow : e'.nesting ≤ maxLevels := by
        have le := stands.nesting_le
        omega
      exact (evaluate_eq_ok_of_inside derives'.kind_ne_endOfInput).2
        ⟨e', derives', shallow, same⟩
  -- the tokens before are an expression as well, and its tree nests no deeper
  · intro apart w memory₁ after memory₂
    have inside' := substitutes.kind_ne_endOfInput insideInner inside
    obtain ⟨e', derives', shallow, valueTokens⟩ := (evaluate_eq_ok_of_inside inside').1 after
    obtain ⟨e, derives⟩ :=
      IsSentence.of_substitutes ⟨e', derives'⟩ value inside apart substitutes
    obtain ⟨e₂, derives₂, stands⟩ := derives.substitute value substitutes
    obtain rfl := derives'.unique derives₂
    exact (evaluate_eq_ok_of_inside inside).2 ⟨e, derives, Nat.le_trans stands.le_nesting shallow,
      (stands.agree memory₁ memory₂).symm.trans valueTokens⟩

/-- Where `x` is two, `f(x)-x` and `f((2))-(2)` have the same value. -/
theorem evaluate_substitute_difference :
    let functions : FunctionTable Unit := FunctionTable.empty.register "f" .sum
    let inner : List Token := [⟨.number, "2", 0⟩]
    let tokens : List Token := [⟨.function, "f", 0⟩, ⟨.leftParen, "(", 1⟩, ⟨.variable, "x", 2⟩,
      ⟨.rightParen, ")", 3⟩, ⟨.operator, "-", 4⟩, ⟨.variable, "x", 5⟩]
    let tokens' : List Token := [⟨.function, "f", 0⟩, ⟨.leftParen, "(", 1⟩, ⟨.leftParen, "(", 2⟩,
      ⟨.number, "2", 0⟩, ⟨.rightParen, ")", 2⟩, ⟨.rightParen, ")", 3⟩, ⟨.operator, "-", 4⟩,
      ⟨.leftParen, "(", 5⟩, ⟨.number, "2", 0⟩, ⟨.rightParen, ")", 5⟩]
  let two := Binary64.ofMagnitude false (Decimal.magnitude ⟨2, 0⟩)
    let difference := 0.0 + two - two
    functions.IsPure ∧ Substitutes "x" inner tokens tokens' ∧
      ((evaluate ⟨functions, ∅⟩ inner).run.run ()).1 = .ok two ∧
      ((evaluate ⟨functions, (∅ : Bindings).insert "x" two⟩ tokens).run.run ()).1 =
        .ok difference ∧
      ((evaluate ⟨functions, ∅⟩ tokens').run.run ()).1 = .ok difference := by
  intro functions inner tokens tokens' two difference
  have isPure : functions.IsPure := fun _ _ _ _ => rfl
  have second : Substitutes "x" inner [⟨.variable, "x", 5⟩]
      [⟨.leftParen, "(", 5⟩, ⟨.number, "2", 0⟩, ⟨.rightParen, ")", 5⟩] :=
    .replaced (by decide) rfl rfl .nil
  have substitutes : Substitutes "x" inner tokens tokens' :=
    .kept (by decide) (.kept (by decide)
      (.replaced (by decide) rfl rfl (.kept (by decide) (.kept (by decide) second))))
  have readInner : Expr.ofTokens 1 inner = .ok (.literal "2" 0) := by with_unfolding_all rfl
  have read : Expr.ofTokens 2 tokens = .ok (.binary .minus 4 (.call "f" 0 [.variable "x" 2])
      (.variable "x" 5)) := by with_unfolding_all rfl
  obtain ⟨derivesInner, low⟩ := Expr.ofTokens_eq_ok.1 readInner
  obtain ⟨derives, shallow⟩ := Expr.ofTokens_eq_ok.1 read
  have valued : ((evaluate ⟨functions, ∅⟩ inner).run.run ()).1 = .ok two :=
    (evaluate_eq_ok_of_inside (by decide)).2
      ⟨_, derivesInner, Nat.le_trans low (by decide), rfl⟩
  have before : ((evaluate ⟨functions, (∅ : Bindings).insert "x" two⟩ tokens).run.run ()).1 =
      .ok difference :=
    (evaluate_eq_ok_of_inside (by decide)).2
      ⟨_, derives, Nat.le_trans shallow (by decide), rfl⟩
  obtain ⟨forward, _⟩ := evaluate_substitute isPure (by decide) (by decide) substitutes valued
  have enough : 2 + 1 ≤ maxLevels := by decide
  have after := (forward _ () before ()).2 _ _ derives derivesInner
    (Nat.le_trans (Nat.add_le_add shallow low) enough)
  exact ⟨isPure, substitutes, valued, before, after⟩

end Values

end Reckoner
