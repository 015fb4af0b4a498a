import Reckoner.Expr

/-! # The grammar of expressions

The grammar that reading follows, as a relation between tokens and the trees they stand for:

* `expression := product (('+' | '-') product)*`
* `product := power (('*' | '/') power)*`
* `power := operand ('^' operand)*`
* `operand := '-' operand | '+' operand | unsigned`
* `unsigned := number | variable | call | '(' expression ')'`
* `call := function '(' [expression (',' expression)*] ')'`

`Derives phrase tokens e` says that the tokens are a phrase and stand for the tree `e`. Chains are
grouped from the left. What is an operator is decided by `Token.op?`, everything else by the kind of
a token; a text or a position never matters. `Derives.induct` is the induction on derivations. -/

namespace Reckoner

/-! ## Phrases -/

/-- The kinds of phrases. -/
inductive Phrase
  /-- A chain of products. -/
  | expression
  /-- A chain of powers. -/
  | product
  /-- A chain of operands. -/
  | power
  /-- Signs and what they stand before. -/
  | operand
  /-- A number, a variable, a call or a group. -/
  | unsigned
  /-- A function's name and its arguments. -/
  | call
  deriving DecidableEq, Repr

namespace Level

/-- The phrases that are chains of the operators of a level. -/
def chain : Level → Phrase
  | .sum => .expression
  | .product => .product
  | .power => .power

/-- The phrases that the operators of a level join. -/
def part : Level → Phrase
  | .sum => .product
  | .product => .power
  | .power => .operand

end Level

namespace Phrase

/-- Whether a phrase takes in an operator that comes after it. -/
def joins : Phrase → Op → Bool
  | .expression, _ => true
  | .product, op => op.level != .sum
  | .power, op => op.level == .power
  | _, _ => false

/-- A chain takes in the operators of its level and those that its parts take in. -/
theorem joins_chain (level : Level) (op : Op) :
    level.chain.joins op = true ↔ op.level = level ∨ level.part.joins op = true := by
  cases level <;> cases op <;> decide

/-- The parts of a chain leave the operators of its level alone. -/
theorem joins_part (level : Level) (op : Op) (same : op.level = level) :
    level.part.joins op = false := by
  subst same
  cases op <;> rfl

/-- A phrase is complete when the token comes next: it does not take the token in. -/
def EndsBefore (phrase : Phrase) (token : Token) : Prop :=
  ∀ op, token.op? = some op → phrase.joins op = false

/-- Whatever comes next, an operand is complete. -/
theorem operand_endsBefore (token : Token) : EndsBefore .operand token := fun _ _ => rfl

/-- Before a token that is no operator every phrase is complete. -/
theorem endsBefore_of_op?_eq_none {phrase : Phrase} {token : Token} (none : token.op? = none) :
    phrase.EndsBefore token := by
  intro op some
  rw [none] at some
  cases some

/-- Before a token that is no operator every phrase is complete. -/
theorem endsBefore_of_kind {phrase : Phrase} {token : Token} (kind : token.kind ≠ .operator) :
    phrase.EndsBefore token :=
  fun _ some => absurd (Token.kind_of_op? some) kind

/-- Where a chain is complete, so is its last part. -/
theorem EndsBefore.part {level : Level} {token : Token} (ends : level.chain.EndsBefore token) :
    level.part.EndsBefore token := by
  intro op some
  have apart := ends op some
  rw [← Bool.not_eq_true, joins_chain, not_or, Bool.not_eq_true] at apart
  exact apart.2

/-- Where the last part of a chain is complete and no operator of the level follows, the chain is
complete. -/
theorem EndsBefore.chain {level : Level} {token : Token} (ends : level.part.EndsBefore token)
    (other : ∀ op, token.op? = some op → op.level ≠ level) : level.chain.EndsBefore token := by
  intro op some
  rw [← Bool.not_eq_true, joins_chain, not_or, Bool.not_eq_true]
  exact ⟨other op some, ends op some⟩

/-- The parts of a chain are complete before its operators. -/
theorem part_endsBefore {level : Level} {token : Token} {op : Op} (some : token.op? = some op)
    (same : op.level = level) : level.part.EndsBefore token := by
  intro other found
  rw [some, Option.some.injEq] at found
  exact found ▸ joins_part level op same

end Phrase

/-! ## Derivations -/

/-- Parts joined by operators of a level, grouped from the left. -/
inductive Chain (level : Level) (Part : List Token → Expr → Prop) : List Token → Expr → Prop
  | first {tokens e} : Part tokens e → Chain level Part tokens e
  | joined {before token op after left right} : Chain level Part before left →
      token.op? = some op → op.level = level → Part after right →
      Chain level Part (before ++ token :: after) (.binary op token.position left right)

/-- One part or more, separated by commas. -/
inductive Separated (Part : List Token → Expr → Prop) : List Token → List Expr → Prop
  | one {tokens e} : Part tokens e → Separated Part tokens [e]
  | more {before es comma tokens e} : Separated Part before es → comma.kind = .comma →
      Part tokens e → Separated Part (before ++ comma :: tokens) (es ++ [e])

/-- The tokens are a phrase and stand for the tree. -/
inductive Derives : Phrase → List Token → Expr → Prop
  | expression {tokens e} : Chain .sum (Derives .product) tokens e → Derives .expression tokens e
  | product {tokens e} : Chain .product (Derives .power) tokens e → Derives .product tokens e
  | power {tokens e} : Chain .power (Derives .operand) tokens e → Derives .power tokens e
  | signed {token sign tokens e} : token.op?.bind Op.sign? = some sign → Derives .operand tokens e →
      Derives .operand (token :: tokens) (.signed sign token.position e)
  | unsigned {tokens e} : Derives .unsigned tokens e → Derives .operand tokens e
  | number {token} : token.kind = .number →
      Derives .unsigned [token] (.literal token.text token.position)
  | var {token} : token.kind = .variable →
      Derives .unsigned [token] (.variable token.text token.position)
  | call {tokens e} : Derives .call tokens e → Derives .unsigned tokens e
  | grouped {opening tokens e closing} : opening.kind = .leftParen → Derives .expression tokens e →
      closing.kind = .rightParen →
      Derives .unsigned (opening :: (tokens ++ [closing])) (.grouped opening.position e)
  | withoutArguments {name opening closing} : name.kind = .function → opening.kind = .leftParen →
      closing.kind = .rightParen →
      Derives .call [name, opening, closing] (.call name.text name.position [])
  | withArguments {name opening tokens es closing} : name.kind = .function →
      opening.kind = .leftParen → Separated (Derives .expression) tokens es →
      closing.kind = .rightParen →
      Derives .call (name :: opening :: (tokens ++ [closing])) (.call name.text name.position es)

/-- The tokens are an expression. -/
def IsSentence (tokens : List Token) : Prop := ∃ e, Derives .expression tokens e

variable {Part Other : List Token → Expr → Prop}

/-- Chains of stronger parts are chains of weaker ones. -/
theorem Chain.mono {level : Level} {tokens : List Token} {e : Expr}
    (weaker : ∀ tokens e, Part tokens e → Other tokens e) (chain : Chain level Part tokens e) :
    Chain level Other tokens e := by
  induction chain with
  | first part => exact .first (weaker _ _ part)
  | joined _ found same part ih => exact .joined ih found same (weaker _ _ part)

/-- Stronger parts separated by commas are weaker parts separated by commas. -/
theorem Separated.mono {tokens : List Token} {es : List Expr}
    (weaker : ∀ tokens e, Part tokens e → Other tokens e) (parts : Separated Part tokens es) :
    Separated Other tokens es := by
  induction parts with
  | one part => exact .one (weaker _ _ part)
  | more _ comma part ih => exact .more ih comma (weaker _ _ part)

namespace Derives

/-- The chains of a level are its parts joined by its operators. -/
theorem chain_iff {level : Level} {tokens : List Token} {e : Expr} :
    Derives level.chain tokens e ↔ Chain level (Derives level.part) tokens e := by
  constructor
  · intro derives
    cases level <;> cases derives <;> assumption
  · intro chain
    cases level with
    | sum => exact .expression chain
    | product => exact .product chain
    | power => exact .power chain

/-- Induction on derivations, with a hypothesis for every part of a chain and every argument. -/
theorem induct
    {motive : (phrase : Phrase) → (tokens : List Token) → (e : Expr) →
      Derives phrase tokens e → Prop}
    (chain : ∀ {level : Level} {tokens e} (derives : Derives level.chain tokens e),
      Chain level (fun tokens e => ∃ part, motive level.part tokens e part) tokens e →
      motive level.chain tokens e derives)
    (signed : ∀ {token : Token} {sign tokens e} (found : token.op?.bind Op.sign? = some sign)
      (operand : Derives .operand tokens e), motive .operand tokens e operand →
      motive .operand (token :: tokens) (.signed sign token.position e) (.signed found operand))
    (unsigned : ∀ {tokens e} (derives : Derives .unsigned tokens e),
      motive .unsigned tokens e derives → motive .operand tokens e (.unsigned derives))
    (number : ∀ {token : Token} (kind : token.kind = .number),
      motive .unsigned [token] (.literal token.text token.position) (.number kind))
    (var : ∀ {token : Token} (kind : token.kind = .variable),
      motive .unsigned [token] (.variable token.text token.position) (.var kind))
    (call : ∀ {tokens e} (derives : Derives .call tokens e),
      motive .call tokens e derives → motive .unsigned tokens e (.call derives))
    (grouped : ∀ {opening tokens e closing} (opens : opening.kind = .leftParen)
      (inner : Derives .expression tokens e) (closes : closing.kind = .rightParen),
      motive .expression tokens e inner →
      motive .unsigned (opening :: (tokens ++ [closing])) (.grouped opening.position e)
        (.grouped opens inner closes))
    (withoutArguments : ∀ {name opening closing : Token} (function : name.kind = .function)
      (opens : opening.kind = .leftParen) (closes : closing.kind = .rightParen),
      motive .call [name, opening, closing] (.call name.text name.position [])
        (.withoutArguments function opens closes))
    (withArguments : ∀ {name opening tokens es closing} (function : name.kind = .function)
      (opens : opening.kind = .leftParen) (arguments : Separated (Derives .expression) tokens es)
      (closes : closing.kind = .rightParen),
      Separated (fun tokens e => ∃ argument, motive .expression tokens e argument) tokens es →
      motive .call (name :: opening :: (tokens ++ [closing])) (.call name.text name.position es)
        (.withArguments function opens arguments closes))
    {phrase : Phrase} {tokens : List Token} {e : Expr} (derives : Derives phrase tokens e) :
    motive phrase tokens e derives := by
  -- one motive for each way a derivation is nested in another: three chains and the arguments
  refine Derives.rec (motive_1 := motive)
    (motive_2 := fun tokens e _ =>
      Chain .sum (fun tokens e => ∃ part, motive .product tokens e part) tokens e)
    (motive_3 := fun tokens e _ =>
      Chain .product (fun tokens e => ∃ part, motive .power tokens e part) tokens e)
    (motive_4 := fun tokens e _ =>
      Chain .power (fun tokens e => ∃ part, motive .operand tokens e part) tokens e)
    (motive_5 := fun tokens es _ =>
      Separated (fun tokens e => ∃ argument, motive .expression tokens e argument) tokens es)
    ?_ ?_ ?_ signed unsigned number var call ?_ withoutArguments ?_ ?_ ?_ ?_ ?_ ?_ ?_ ?_ ?_ derives
  · exact fun derives parts => @chain .sum _ _ (.expression derives) parts
  · exact fun derives parts => @chain .product _ _ (.product derives) parts
  · exact fun derives parts => @chain .power _ _ (.power derives) parts
  · exact fun opens inner closes ih => grouped opens inner closes ih
  · exact fun function opens arguments closes ih => withArguments function opens arguments closes ih
  · exact fun part ih => .first ⟨part, ih⟩
  · exact fun _ found same part joined ih => .joined joined found same ⟨part, ih⟩
  · exact fun part ih => .first ⟨part, ih⟩
  · exact fun _ found same part joined ih => .joined joined found same ⟨part, ih⟩
  · exact fun part ih => .first ⟨part, ih⟩
  · exact fun _ found same part joined ih => .joined joined found same ⟨part, ih⟩
  · exact fun argument ih => .one ⟨argument, ih⟩
  · exact fun _ comma argument parts ih => .more parts comma ⟨argument, ih⟩

end Derives

/-! ## Token sequences -/

namespace Token

/-- The tokens before the first end of the input. -/
def beforeEnd (tokens : List Token) : List Token :=
  tokens.takeWhile fun token => token.kind ≠ .endOfInput

/-- The tokens from the first end of the input on. -/
def fromEnd (tokens : List Token) : List Token :=
  tokens.dropWhile fun token => token.kind ≠ .endOfInput

/-- Tokens are those before the end of the input and those from it on. -/
theorem beforeEnd_append_fromEnd (tokens : List Token) :
    beforeEnd tokens ++ fromEnd tokens = tokens := List.takeWhile_append_dropWhile

/-- After the tokens before the end of the input comes the end of the input. -/
theorem current_fromEnd (tokens : List Token) : (current (fromEnd tokens)).kind = .endOfInput := by
  induction tokens with
  | nil => rfl
  | cons token tokens ih =>
    by_cases ends : token.kind = .endOfInput
    · simp [fromEnd, ends]
    · simpa [fromEnd, ends] using ih

/-- Where tokens other than the end of the input come to it, they are those before it. -/
theorem beforeEnd_append {taken rest : List Token}
    (inside : ∀ token ∈ taken, token.kind ≠ .endOfInput)
    (ends : (current rest).kind = .endOfInput) : beforeEnd (taken ++ rest) = taken := by
  rw [beforeEnd, List.takeWhile_append_of_pos (by simpa using inside)]
  cases rest with
  | nil => simp
  | cons token rest =>
    rw [current_cons] at ends
    simp [ends]

/-- What comes before the end of the input is not among tokens that begin with the end. -/
theorem mem_of_mem_beforeEnd {taken rest : List Token} {token : Token}
    (ends : (current rest).kind = .endOfInput) (member : token ∈ beforeEnd (taken ++ rest)) :
    token ∈ taken := by
  have none : rest.takeWhile (fun token => token.kind ≠ .endOfInput) = [] :=
    @beforeEnd_append [] rest (by simp) ends
  rw [beforeEnd, List.takeWhile_append, none, List.append_nil] at member
  split at member
  · exact member
  · exact (List.takeWhile_sublist _).subset member

end Token

/-- The end of the input is in no chain of parts that it is not in. -/
theorem Chain.kind_ne_endOfInput {level : Level} {tokens : List Token} {e : Expr}
    (chain : Chain level Part tokens e)
    (each : ∀ tokens e, Part tokens e → ∀ token ∈ tokens, token.kind ≠ .endOfInput) :
    ∀ token ∈ tokens, token.kind ≠ .endOfInput := by
  induction chain with
  | first part => exact each _ _ part
  | joined _ found _ part ih =>
    rw [List.forall_mem_append, List.forall_mem_cons, Token.kind_of_op? found]
    exact ⟨ih, by decide, each _ _ part⟩

/-- The end of the input is not among parts that it is not in, nor among the commas between them. -/
theorem Separated.kind_ne_endOfInput {tokens : List Token} {es : List Expr}
    (parts : Separated Part tokens es)
    (each : ∀ tokens e, Part tokens e → ∀ token ∈ tokens, token.kind ≠ .endOfInput) :
    ∀ token ∈ tokens, token.kind ≠ .endOfInput := by
  induction parts with
  | one part => exact each _ _ part
  | more _ comma part ih =>
    rw [List.forall_mem_append, List.forall_mem_cons, comma]
    exact ⟨ih, by decide, each _ _ part⟩

/-- The end of the input is in no phrase. -/
theorem Derives.kind_ne_endOfInput {phrase : Phrase} {tokens : List Token} {e : Expr}
    (derives : Derives phrase tokens e) : ∀ token ∈ tokens, token.kind ≠ .endOfInput := by
  induction derives using Derives.induct with
  | chain _ parts => exact parts.kind_ne_endOfInput fun _ _ part => part.2
  | @signed token sign tokens e found _ ih =>
    obtain ⟨op, found, _⟩ := Option.bind_eq_some_iff.1 found
    rw [List.forall_mem_cons, Token.kind_of_op? found]
    exact ⟨by decide, ih⟩
  | unsigned _ ih => exact ih
  | number kind => simp [kind]
  | var kind => simp [kind]
  | call _ ih => exact ih
  | grouped opens _ closes ih =>
    rw [List.forall_mem_cons, List.forall_mem_append, List.forall_mem_singleton, opens, closes]
    exact ⟨by decide, ih, by decide⟩
  | withoutArguments function opens closes => simp [function, opens, closes]
  | withArguments function opens _ closes arguments =>
    have inside := arguments.kind_ne_endOfInput fun _ _ argument => argument.2
    rw [List.forall_mem_cons, List.forall_mem_cons, List.forall_mem_append,
      List.forall_mem_singleton, function, opens, closes]
    exact ⟨by decide, by decide, inside, by decide⟩

end Reckoner
