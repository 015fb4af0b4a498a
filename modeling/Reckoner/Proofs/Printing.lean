import Reckoner.Proofs.Formula
import Reckoner.Proofs.TreeSemantics

/-! # Calculating what is printed

A formula that is printed, with any blanks put in, is calculated as it is: with its value, or with
its first failure at the position in the characters printed (`calculate_print`). The tokens printed
are scanned one by one since a symbol stands between any two that are none
(`Token.IsDecomposition.join`), and they stand for a tree of the formula's shape since parentheses
are put where its operators would be grouped otherwise (`Derives.of_chain`). -/

namespace Reckoner

/-! ## Tokens beside each other -/

namespace Token

variable {isFunction : String → Bool} {start : Nat} {cs ds : List Char} {c : Char} {kind : Kind}
  {token : Token} {tokens others : List Token}

/-- A symbol prolongs no token. -/
theorem Complete.append_symbol (complete : token.Complete cs) (found : symbolKind? c = some kind)
    (ds : List Char) : token.Complete (cs ++ c :: ds) := by
  cases cs with
  | nil =>
    intro c' first
    cases first
    exact ⟨fun _ => isNumberPart_of_symbolKind? found, fun _ => isPart_of_symbolKind? found⟩
  | cons first cs => exact complete

/-- No character of a token is a blank. -/
theorem WellFormed.isBlank_eq_false (formed : token.WellFormed isFunction) :
    ∀ c ∈ token.text.toList, Text.isBlank c = false := by
  have symbol {c kind} (found : symbolKind? c = some kind) (text : token.text.toList = [c]) :
      ∀ c ∈ token.text.toList, Text.isBlank c = false := by
    rw [text]
    exact List.forall_mem_singleton.2 (isBlank_of_symbolKind? found)
  unfold WellFormed at formed
  split at formed
  · exact fun c member => isBlank_of_isNumberPart (formed.2.1 c member)
  · exact isBlank_of_isName formed.1
  · exact isBlank_of_isName formed.1
  · obtain ⟨op, text⟩ := formed
    exact symbol (symbolKind?_symbol op) text
  · exact symbol symbolKind?_leftParen formed
  · exact symbol symbolKind?_rightParen formed
  · exact symbol symbolKind?_comma formed
  · exact formed.elim

namespace IsDecomposition

/-- A token is the decomposition of its text. -/
theorem singleton (formed : token.WellFormed isFunction) :
    IsDecomposition isFunction token.position token.text.toList [token] := by
  have none : token.Complete [] := fun c first => by cases first
  have whole := IsDecomposition.cons formed none nil
  rwa [List.append_nil] at whole

/-- A symbol may stand between any tokens. -/
theorem join (left : IsDecomposition isFunction start cs tokens)
    (found : symbolKind? c = some kind)
    (right : IsDecomposition isFunction (start + cs.length + 1) ds others) :
    IsDecomposition isFunction start (cs ++ c :: ds)
      (tokens ++ ⟨kind, String.ofList [c], start + cs.length⟩ :: others) := by
  induction tokens generalizing start cs with
  | nil =>
    obtain rfl : cs = [] := left.texts.symm
    let symbol : Token := ⟨kind, String.ofList [c], start⟩
    obtain ⟨number, name, formed⟩ : _ ∧ _ ∧ symbol.WellFormed isFunction :=
      wellFormed_of_symbolKind? found start
    have complete : symbol.Complete ds := fun c first =>
      ⟨fun kind => absurd kind number, fun kind => absurd kind name⟩
    have length : symbol.text.length = 1 := by
      rw [← String.length_toList, String.toList_ofList]
      rfl
    have whole : IsDecomposition isFunction start (symbol.text.toList ++ ds) (symbol :: others) :=
      .cons formed complete (by rw [length]; exact right)
    rwa [String.toList_ofList] at whole
  | cons token tokens ih =>
    -- the first token stays complete, also where the symbol comes right after it
    obtain ⟨rfl, formed, rfl, complete, left⟩ := left.uncons
    rw [List.length_append, String.length_toList, ← Nat.add_assoc] at right ⊢
    rw [List.append_assoc]
    exact .cons formed (complete.append_symbol found ds) (ih left right)

/-- No character of a token is a blank. -/
theorem isBlank_eq_false (decomposition : IsDecomposition isFunction start cs tokens) :
    ∀ c ∈ cs, Text.isBlank c = false := by
  intro c member
  rw [← decomposition.texts] at member
  obtain ⟨token, inside, member⟩ := List.mem_flatMap.1 member
  exact (decomposition.formed token inside).isBlank_eq_false c member

end IsDecomposition

end Token

/-! ## Places of phrases -/

namespace Place

/-- The phrases that can stand at a place without parentheses. -/
def phrase : Place → Phrase
  | .whole => .expression
  | .left op => op.level.chain
  | .right op => op.level.part
  | .signed => .operand

end Place

/-- Further arguments may stand after the first one. -/
theorem Separated.cons {Part : List Token → Expr → Prop} {tokens more : List Token} {comma : Token}
    {e : Expr} {es : List Expr} (first : Part tokens e) (kind : comma.kind = .comma)
    (others : Separated Part more es) : Separated Part (tokens ++ comma :: more) (e :: es) := by
  induction others with
  | one last => exact .more (.one first) kind last
  | more _ between last ih =>
    rw [← List.cons_append, ← List.append_assoc]
    exact .more ih between last

namespace Derives

variable {tokens : List Token} {e : Expr}

/-- A part is a chain by itself. -/
theorem chain_of_part (level : Level) (part : Derives level.part tokens e) :
    Derives level.chain tokens e :=
  chain_iff.2 (.first part)

/-- The chains of a level are chains of the looser ones. -/
theorem chain_of_chain {level : Level} (outer : Level) (chain : Derives level.chain tokens e)
    (looser : outer.rank ≤ level.rank) : Derives outer.chain tokens e := by
  cases outer with
  | sum =>
    cases level with
    | sum => exact chain
    | product => exact chain_of_part .sum chain
    | power => exact chain_of_part .sum (chain_of_part .product chain)
  | product =>
    cases level with
    | sum => exact absurd looser (by decide)
    | product => exact chain
    | power => exact chain_of_part .product chain
  | power =>
    cases level with
    | sum => exact absurd looser (by decide)
    | product => exact absurd looser (by decide)
    | power => exact chain

/-- The chains of a level are parts of the looser chains. -/
theorem part_of_chain {level : Level} (outer : Level) (chain : Derives level.chain tokens e)
    (looser : outer.rank < level.rank) : Derives outer.part tokens e := by
  cases outer with
  | sum => exact chain_of_chain .product chain looser
  | product => exact chain_of_chain .power chain looser
  | power => cases level <;> exact absurd looser (by decide)

/-- The chains of an operator's level can stand where the operator needs no parentheses. -/
theorem of_chain {op : Op} (chain : Derives op.level.chain tokens e) {place : Place}
    (bare : place.brackets op = false) : Derives place.phrase tokens e := by
  cases place with
  | whole => exact chain_of_chain .sum chain (Nat.zero_le _)
  | left outer =>
    have looser := of_decide_eq_false bare
    exact chain_of_chain outer.level chain (Nat.le_of_not_lt looser)
  | right outer =>
    have looser := of_decide_eq_false bare
    exact part_of_chain outer.level chain (Nat.lt_of_not_le looser)
  | signed => cases bare

/-- Operands can stand at all places. -/
theorem of_operand (operand : Derives .operand tokens e) (place : Place) :
    Derives place.phrase tokens e := by
  have power : Derives Level.power.chain tokens e := chain_of_part .power operand
  cases place with
  | whole => exact chain_of_chain .sum power (Nat.zero_le _)
  | left op => exact chain_of_chain op.level power (by cases op <;> decide)
  | right op =>
    cases op with
    | power => exact operand
    | plus => exact part_of_chain .sum power (by decide)
    | minus => exact part_of_chain .sum power (by decide)
    | times => exact part_of_chain .product power (by decide)
    | divide => exact part_of_chain .product power (by decide)
  | signed => exact operand

end Derives

/-! ## Blanks -/

/-- The second characters are the first ones with blanks put in. -/
inductive Spaced : List Char → List Char → Prop
  | nil : Spaced [] []
  | blank {c cs ds} : Text.isBlank c = true → Spaced cs ds → Spaced cs (c :: ds)
  | keep {c cs ds} : Spaced cs ds → Spaced (c :: cs) (c :: ds)

/-- No blanks need to be put in. -/
theorem Spaced.refl (cs : List Char) : Spaced cs cs := by
  induction cs with
  | nil => exact .nil
  | cons c cs ih => exact .keep ih

/-- Blanks that are put in are dropped. -/
theorem Spaced.withoutBlanks {cs : List Char} {text : String} (spaced : Spaced cs text.toList)
    (plain : ∀ c ∈ cs, Text.isBlank c = false) : Text.withoutBlanks text = cs := by
  rw [Text.withoutBlanks]
  generalize text.toList = ds at spaced
  induction spaced with
  | nil => rfl
  | blank blank _ ih => simpa [blank] using ih plain
  | keep _ ih =>
    rw [List.forall_mem_cons] at plain
    simpa [plain.1] using ih plain.2

/-! ## What formulas are written as -/

/-- The operator token of an operator stands for it. -/
@[simp] theorem Token.op?_symbol (op : Op) (position : Nat) :
    Token.op? ⟨.operator, String.ofList [op.symbol], position⟩ = some op := by
  simp [Token.op?, Op.ofText?]

/-- A numeral has its value at all positions. -/
theorem Numeral.literal_text (numeral : Numeral) (position : Nat) :
    Scope.literal numeral.text position = .ok numeral.value := by
  have spelled : Decimal.readFloat? numeral.text = some numeral.value := (Option.some_get _).symm
  rw [Scope.literal, spelled]

namespace Formula

variable {isFunction : String → Bool}

/-- The tokens and the tree are what the formula is written as at a place from a position on. -/
structure IsWritten (formula : Formula isFunction) (place : Place) (start : Nat)
    (tokens : List Token) (e : Expr) : Prop where
  decomposition : Token.IsDecomposition isFunction start (formula.print place) tokens
  derives : Derives place.phrase tokens e
  nesting : e.nesting = formula.nesting place
  value : ∀ {σ : Type} (scope : Scope σ), e.value scope = formula.outcome scope place start

/-- The tokens and the trees are what arguments are written as from a position on. -/
structure AreWritten (arguments : List (Formula isFunction)) (start : Nat)
    (tokens : List Token) (es : List Expr) : Prop where
  decomposition :
    Token.IsDecomposition isFunction start ([','].intercalate (printEach arguments)) tokens
  separated : (arguments = [] ∧ tokens = [] ∧ es = []) ∨ Separated (Derives .expression) tokens es
  nestings : Expr.nestings es = nestings arguments
  values : ∀ {σ : Type} (scope : Scope σ), Expr.values scope es = outcomes scope start arguments

/-- Arguments are written as they are if each of them is. -/
theorem exists_areWritten {arguments : List (Formula isFunction)}
    (each : ∀ e ∈ arguments, ∀ start, ∃ tokens tree, e.IsWritten .whole start tokens tree)
    (start : Nat) : ∃ tokens es, AreWritten arguments start tokens es := by
  induction arguments generalizing start with
  | nil =>
    exact ⟨[], [], .nil, .inl ⟨rfl, rfl, rfl⟩, rfl, fun _ => rfl⟩
  | cons e others ih =>
    rw [List.forall_mem_cons] at each
    obtain ⟨tokens, tree, first⟩ := each.1 start
    have derives : Derives .expression tokens tree := first.derives
    cases others with
    | nil =>
      refine ⟨tokens, [tree], ?_, .inr (.one derives), ?_, fun scope => ?_⟩
      · simpa [printEach] using first.decomposition
      · simp [Expr.nestings, Formula.nestings, first.nesting]
      · simp [Expr.values, outcomes, first.value scope]
    | cons next others =>
      obtain ⟨more, trees, rest⟩ := ih each.2 (start + (e.print .whole).length + 1)
      refine ⟨tokens ++ ⟨.comma, String.ofList [','], start + (e.print .whole).length⟩ :: more,
        tree :: trees, ?_, ?_, ?_, fun scope => ?_⟩
      · simpa [printEach] using
          first.decomposition.join Token.symbolKind?_comma rest.decomposition
      · exact .inr (.cons derives rfl (rest.separated.resolve_left (by simp)))
      · rw [Expr.nestings, Formula.nestings, rest.nestings, first.nesting]
      · rw [Expr.values, outcomes, first.value, rest.values]

/-- Two sides with their operator are written with parentheses where these are needed, which change
nothing about their value. -/
theorem exists_bracketed {place : Place} {op : Op} {start : Nat} {cs : List Char}
    {tokens : List Token} {e : Expr}
    (decomposition :
      Token.IsDecomposition isFunction (start + (place.brackets op).toNat) cs tokens)
    (derives : Derives op.level.chain tokens e) :
    ∃ tokens' e',
      Token.IsDecomposition isFunction start (bracketed (place.brackets op) cs) tokens' ∧
      Derives place.phrase tokens' e' ∧ e'.nesting = e.nesting + (place.brackets op).toNat ∧
      ∀ {σ : Type} (scope : Scope σ), e'.value scope = e.value scope := by
  cases needed : place.brackets op with
  | false =>
    rw [needed] at decomposition
    exact ⟨tokens, e, decomposition, derives.of_chain needed, rfl, fun _ => rfl⟩
  | true =>
    rw [needed] at decomposition
    -- between parentheses the sides stand as a whole
    have inner : Derives Place.whole.phrase tokens e := derives.of_chain rfl
    have operand : Derives .operand (⟨.leftParen, String.ofList ['('], start⟩ ::
        (tokens ++ [⟨.rightParen, String.ofList [')'], start + 1 + cs.length⟩])) _ :=
      .unsigned (.grouped rfl inner rfl)
    have laid := Token.IsDecomposition.nil.join Token.symbolKind?_leftParen
      (decomposition.join Token.symbolKind?_rightParen .nil)
    exact ⟨_, _, laid, operand.of_operand place, rfl, fun scope => by rw [Expr.value]⟩

/-- Every formula is written as it is. -/
theorem exists_isWritten (formula : Formula isFunction) (place : Place) (start : Nat) :
    ∃ tokens e, formula.IsWritten place start tokens e := by
  induction formula using induct generalizing place start with
  | literal numeral =>
    let token : Token := ⟨.number, numeral.text, start⟩
    have formed : token.WellFormed isFunction := by
      obtain ⟨c, member, _⟩ := numeral.digit
      exact ⟨List.ne_nil_of_mem member, numeral.parts, numeral.points⟩
    have derives : Derives .operand [token] _ := .unsigned (.number rfl)
    refine ⟨[token], _, ?_, derives.of_operand place, ?_, fun scope => ?_⟩
    · rw [print]
      exact .singleton formed
    · rfl
    · rw [Expr.value, outcome, numeral.literal_text]
      rfl
  | var name =>
    let token : Token := ⟨.variable, name.text, start⟩
    have formed : token.WellFormed isFunction := ⟨name.valid, name.free⟩
    have derives : Derives .operand [token] _ := .unsigned (.var rfl)
    refine ⟨[token], _, ?_, derives.of_operand place, ?_, fun scope => ?_⟩
    · rw [print]
      exact .singleton formed
    · rfl
    · rw [Expr.value, outcome]
  | call name arguments ih =>
    let token : Token := ⟨.function, name.text, start⟩
    have formed : token.WellFormed isFunction := ⟨name.valid, name.known⟩
    obtain ⟨inside, es, written⟩ :=
      exists_areWritten (fun e member => ih e member .whole) (start + name.text.length + 1)
    let opening : Token := ⟨.leftParen, String.ofList ['('], start + name.text.length⟩
    let closing : Token := ⟨.rightParen, String.ofList [')'],
      start + name.text.length + 1 + ([','].intercalate (printEach arguments)).length⟩
    have derives : Derives .operand (token :: opening :: (inside ++ [closing]))
        (.call name.text start es) := by
      rcases written.separated with ⟨_, rfl, rfl⟩ | separated
      · exact .unsigned (.call (.withoutArguments rfl rfl rfl))
      · exact .unsigned (.call (.withArguments rfl rfl separated rfl))
    have head : Token.IsDecomposition isFunction start name.text.toList [token] :=
      .singleton formed
    have laid := head.join Token.symbolKind?_leftParen
      (written.decomposition.join Token.symbolKind?_rightParen .nil)
    refine ⟨_, _, ?_, derives.of_operand place, ?_, fun scope => ?_⟩
    · rw [print]
      exact laid
    · rw [Expr.nesting, nesting, written.nestings]
    · rw [Expr.value, outcome, written.values]
  | signed sign operand ih =>
    obtain ⟨tokens, e, written⟩ := ih .signed (start + 1)
    let token : Token := ⟨.operator, String.ofList [sign.op.symbol], start⟩
    have found : token.op?.bind Op.sign? = some sign := by
      rw [Token.op?_symbol, Option.bind_some, Sign.sign?_op]
    have derives : Derives .operand (token :: tokens) _ := .signed found written.derives
    have laid :=
      Token.IsDecomposition.nil.join (Token.symbolKind?_symbol sign.op) written.decomposition
    refine ⟨token :: tokens, _, ?_, derives.of_operand place, ?_, fun scope => ?_⟩
    · rw [print]
      exact laid
    · rw [Expr.nesting, nesting, written.nesting]
    · rw [Expr.value, outcome, written.value]
  | binary op left right ihLeft ihRight =>
    let first := start + (place.brackets op).toNat
    obtain ⟨before, leftTree, writtenLeft⟩ := ihLeft (.left op) first
    let middle := first + (left.print (.left op)).length
    obtain ⟨after, rightTree, writtenRight⟩ := ihRight (.right op) (middle + 1)
    let token : Token := ⟨.operator, String.ofList [op.symbol], middle⟩
    -- both sides stand where the chain of the operator has its first and its last part
    have laid := writtenLeft.decomposition.join (Token.symbolKind?_symbol op)
      writtenRight.decomposition
    have chain := Chain.joined (Derives.chain_iff.1 writtenLeft.derives)
      (Token.op?_symbol op middle) rfl writtenRight.derives
    obtain ⟨tokens, e, decomposition, derives, nested, same⟩ :=
      exists_bracketed laid (Derives.chain_iff.2 chain)
    refine ⟨tokens, e, ?_, derives, ?_, fun scope => ?_⟩
    · rw [print]
      exact decomposition
    · rw [nested, Expr.nesting, nesting, writtenLeft.nesting, writtenRight.nesting]
    · rw [same, Expr.value, outcome, writtenLeft.value, writtenRight.value]

end Formula

/-- **Calculating what is printed is evaluating the formula.** Whatever blanks are put between the
characters of a formula that nests no deeper than the limit, calculating it gives the value of the
formula or its first failure, at the position without the blanks. -/
theorem calculate_print {σ : Type} (calculator : Calculator σ) (bindings : Bindings)
    (formula : Formula calculator.functions.has) (shallow : formula.nesting .whole ≤ maxLevels)
    (text : String) (spaced : Spaced (formula.print .whole) text.toList) :
    calculator.calculate text bindings =
      formula.outcome ⟨calculator.functions, bindings⟩ .whole 0 := by
  obtain ⟨tokens, e, written⟩ := formula.exists_isWritten .whole 0
  have derives : Derives .expression tokens e := written.derives
  have plain := spaced.withoutBlanks written.decomposition.isBlank_eq_false
  let finish := Token.finish (0 + (formula.print .whole).length)
  have scanned : calculator.tokens text = .ok (tokens ++ [finish]) := by
    rw [Calculator.tokens, Token.scan, plain]
    exact Token.scanFrom_eq_ok_iff.2 ⟨tokens, rfl, written.decomposition⟩
  have before : Token.beforeEnd (tokens ++ [finish]) = tokens :=
    Token.beforeEnd_append derives.kind_ne_endOfInput rfl
  rw [← before] at derives
  rw [← written.nesting] at shallow
  rw [Calculator.calculate, scanned, ← written.value, ← Expr.valueWithin_eq_value _ shallow,
    ← evaluateWithin_eq_valueWithin _ derives]
  rfl

/-- The difference of two and a difference is printed with parentheses, and blanks do not matter. -/
theorem calculate_print_difference :
    let calculator : Calculator Unit := ⟨.empty⟩
    let two : Formula calculator.functions.has :=
      .literal ⟨"2.", List.all_eq_true.1 (by decide), by decide, '2', by decide, by decide⟩
    let formula : Formula calculator.functions.has := .binary .minus two (.binary .minus two two)
    formula.nesting .whole ≤ maxLevels ∧
      Spaced (formula.print .whole) "2 . -(2.-2.)".toList ∧
      calculator.calculate "2 . -(2.-2.)" ∅ =
        formula.outcome ⟨calculator.functions, ∅⟩ .whole 0 := by
  intro calculator two formula
  have shallow : formula.nesting .whole ≤ maxLevels := by decide
  have spaced : Spaced (formula.print .whole) "2 . -(2.-2.)".toList :=
    .keep (.blank rfl (.keep (.blank rfl (.refl "-(2.-2.)".toList))))
  exact ⟨shallow, spaced, calculate_print calculator ∅ formula shallow _ spaced⟩

end Reckoner
