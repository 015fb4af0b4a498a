import Reckoner.Proofs.Atoms
import Reckoner.Proofs.Formula
import Reckoner.Proofs.Refusals

/-! # Diagnostics point at what they name

Whatever is wrong with an expression, the diagnostic stands at a character or a token of it that is
what the diagnostic says (`Diagnostic.PointsAt`, `calculate_pointsAt`). Positions count the
characters of the expression that are not blank. What fails while it is evaluated is found in the
tokens taken so far (`Diagnostic.Within`), the token that is refused comes right after them
(`Wanted.Refuses`), and the maximal munch tells what characters stand around both. -/

namespace Reckoner

open Evaluation

/-! ## What stands at a position -/

/-- At the position begins the name, and what comes after it does not prolong it. -/
def Name.IsAt (name : String) (cs : List Char) (position : Nat) (after : List Char) : Prop :=
  Name.valid name = true ∧ (∀ c, after.head? = some c → Name.isPart c = false) ∧
    ∃ before, cs = before ++ name.toList ++ after ∧ position = before.length

/-- At the position stands a point that is a longest run of digits and points by itself. -/
def Token.IsLonePoint (cs : List Char) (position : Nat) : Prop :=
  ∃ before after, IsNumberRun cs before ['.'] after ∧ position = before.length

/-- At the position begins the token, which comes after the others in the expression. -/
def Calculator.StandsAt {σ : Type} (calculator : Calculator σ) (text : String)
    (before : List Token) (token : Token) (position : Nat) : Prop :=
  token.position = position ∧ ∃ after, calculator.tokens text = .ok (before ++ token :: after)

/-- At its position in the expression stands what the diagnostic says. The memory is the one with
which calculating ended: a call that failed left it behind. -/
def Diagnostic.PointsAt {σ : Type} (d : Diagnostic) (calculator : Calculator σ) (text : String)
    (bindings : Bindings) (memory : σ) : Prop :=
  let cs := Text.withoutBlanks text
  match d.problem with
  | .unknownCharacter c => cs[d.position]? = some c ∧ Token.isNumberPart c = false ∧
      Name.isStart c = false ∧ Token.symbolKind? c = none
  | .malformedNumber => cs[d.position]? = some '.' ∧
      (Token.IsSecondPoint cs d.position ∨ Token.IsLonePoint cs d.position)
  | .unknownVariable name => (∃ after, Name.IsAt name cs d.position after) ∧
      calculator.functions.has name = false ∧ name ∉ bindings
  | .failedCall name cause => (∃ after, Name.IsAt name cs d.position ('(' :: after)) ∧
      ∃ routine arguments before, calculator.functions.find? name = some routine ∧
        (routine arguments).run.run before = (.error cause, memory)
  | .divisionByZero => cs[d.position]? = some '/'
  | .missingRightParen => d.position = cs.length ∨
      ∃ c, cs[d.position]? = some c ∧ c ≠ ')' ∧ ∀ op : Op, c ≠ op.symbol
  | .trailing kind => ∃ before token, calculator.StandsAt text before token d.position ∧
      token.kind = kind ∧ kind ≠ .operator ∧ kind ≠ .endOfInput
  | .unexpected kind => ∃ before token, calculator.StandsAt text before token d.position ∧
      token.kind = kind ∧
      (kind = .operator ∨ kind = .rightParen ∨ kind = .comma ∨
        (kind = .endOfInput ∧ d.position = cs.length) ∨
        -- the name of a function ends before the point of the number
        (kind = .number ∧ cs[d.position]? = some '.' ∧
          ∃ name, before.getLast? = some name ∧ name.kind = .function))
  | .nestedTooDeeply => ∃ before token, calculator.StandsAt text before token d.position ∧
      maxLevels ≤ before.length

/-! ## Tokens among the characters -/

namespace Token

variable {isFunction : String → Bool} {cs : List Char} {before after : List Token}
  {token previous : Token} {c : Char}

/-- The characters of tokens beside each other stand beside each other. -/
theorem characters_append (tokens more : List Token) :
    characters (tokens ++ more) = characters tokens ++ characters more := List.flatMap_append

/-- A token that is neither a number nor a name is a symbol. -/
theorem WellFormed.exists_symbol (formed : token.WellFormed isFunction)
    (number : token.kind ≠ .number) (name : ¬ token.IsIdentifier) :
    ∃ c kind, token.text.toList = [c] ∧ symbolKind? c = some kind := by
  unfold WellFormed at formed
  split at formed
  · rename_i kind
    exact absurd kind number
  · rename_i kind
    exact absurd (.inl kind) name
  · rename_i kind
    exact absurd (.inr kind) name
  · obtain ⟨op, text⟩ := formed
    exact ⟨op.symbol, .operator, text, symbolKind?_symbol op⟩
  · exact ⟨'(', .leftParen, formed, rfl⟩
  · exact ⟨')', .rightParen, formed, rfl⟩
  · exact ⟨',', .comma, formed, rfl⟩
  · exact formed.elim

/-- An operator token stands for an operator, which is its text. -/
theorem WellFormed.op?_eq_some (formed : token.WellFormed isFunction)
    (kind : token.kind = .operator) :
    ∃ op : Op, token.op? = some op ∧ token.text.toList = [op.symbol] := by
  rw [WellFormed, kind] at formed
  obtain ⟨op, text⟩ := formed
  exact ⟨op, by simp [op?, kind, Op.ofText?, text], text⟩

/-- What is neither an operator nor a closing parenthesis begins with neither. -/
theorem WellFormed.first_ne {run : List Char} (formed : token.WellFormed isFunction)
    (text : token.text.toList = c :: run) (closing : token.kind ≠ .rightParen)
    (none : token.op? = none) : c ≠ ')' ∧ ∀ op : Op, c ≠ op.symbol := by
  have apart (other : ∀ kind, symbolKind? c ≠ some kind) : c ≠ ')' ∧ ∀ op : Op, c ≠ op.symbol :=
    ⟨fun same => other _ (same ▸ symbolKind?_rightParen),
      fun op same => other _ (same ▸ symbolKind?_symbol op)⟩
  rcases formed.first text with ⟨_, part⟩ | ⟨_, start⟩ | ⟨number, name, _⟩
  · refine apart fun kind found => ?_
    rw [isNumberPart_of_symbolKind? found] at part
    cases part
  · refine apart fun kind found => ?_
    have part := Name.isPart_of_isStart start
    rw [isPart_of_symbolKind? found] at part
    cases part
  · -- of the symbols only the opening parenthesis and the comma are left
    have only {symbol : Char} (same : token.text.toList = [symbol]) : c = symbol :=
      (List.cons_eq_cons.1 (text.symm.trans same)).1
    cases kind : token.kind with
    | number => exact absurd kind number
    | «variable» => exact absurd (.inl kind) name
    | function => exact absurd (.inr kind) name
    | rightParen => exact absurd kind closing
    | operator =>
      obtain ⟨op, some, _⟩ := formed.op?_eq_some kind
      rw [none] at some
      cases some
    | leftParen =>
      rw [WellFormed, kind] at formed
      rw [only formed]
      exact ⟨by decide, fun op => by cases op <;> decide⟩
    | comma =>
      rw [WellFormed, kind] at formed
      rw [only formed]
      exact ⟨by decide, fun op => by cases op <;> decide⟩
    | endOfInput =>
      rw [WellFormed, kind] at formed
      exact formed.elim

/-- A number that spells no float is a point without digits. -/
theorem WellFormed.eq_point (formed : token.WellFormed isFunction) (kind : token.kind = .number)
    (none : Decimal.readFloat? token.text = none) : token.text.toList = ['.'] := by
  rw [WellFormed, kind] at formed
  obtain ⟨some, parts, points⟩ := formed
  have pointed : ∀ c ∈ token.text.toList, c = '.' := by
    intro c member
    by_contra other
    have digit : c.isDigit = true := by simpa [isNumberPart, other] using parts c member
    have spelled := Decimal.isSome_readFloat? ⟨token.text, parts, points, c, member, digit⟩
    rw [none] at spelled
    cases spelled
  have text := List.eq_replicate_of_mem pointed
  rw [text, List.count_replicate_self] at points
  have length : token.text.toList.length = 1 := by
    have pos := List.length_pos_iff.2 some
    omega
  rw [text, length]
  rfl

namespace IsDecomposition

/-- A token stands at its position and is not prolonged by what comes after it. -/
theorem at_position
    (decomposition : IsDecomposition isFunction 0 cs (before ++ token :: after)) :
    cs = characters before ++ token.text.toList ++ characters after ∧
      token.position = (characters before).length ∧ token.WellFormed isFunction ∧
      token.Complete (characters after) := by
  obtain ⟨texts, positions, formed, apart⟩ := decomposition
  rw [List.forall_mem_append, List.forall_mem_cons] at formed
  refine ⟨?_, ?_, formed.2.1, complete_of_isChain apart.right_of_append formed.2.2⟩
  · rw [← texts, characters_append, characters_cons, List.append_assoc]
  · rw [positions before token after rfl, Nat.zero_add]

/-- At the position of a token stands its first character. -/
theorem getElem?_position {run : List Char}
    (decomposition : IsDecomposition isFunction 0 cs (before ++ token :: after))
    (text : token.text.toList = c :: run) : cs[token.position]? = some c := by
  obtain ⟨rfl, position, _, _⟩ := decomposition.at_position
  rw [text, List.append_assoc, List.cons_append]
  exact getElem?_of_eq_append rfl position

/-- Every token begins within the characters. -/
theorem position_le
    (decomposition : IsDecomposition isFunction 0 cs (before ++ token :: after)) :
    token.position ≤ cs.length := by
  obtain ⟨rfl, position, _, _⟩ := decomposition.at_position
  rw [position, List.append_assoc, List.length_append]
  exact Nat.le_add_right _ _

/-- The token before another one may stand before it. -/
theorem previous_apart
    (decomposition : IsDecomposition isFunction 0 cs (before ++ token :: after))
    (last : before.getLast? = some previous) :
    previous.WellFormed isFunction ∧ previous.Apart token :=
  ⟨decomposition.formed previous (List.mem_append_left _ (List.mem_of_getLast? last)),
    (List.isChain_append.1 decomposition.apart).2.2 previous last token rfl⟩

/-- A name stands at its position and goes no further. -/
theorem isAt (decomposition : IsDecomposition isFunction 0 cs (before ++ token :: after))
    (name : token.IsIdentifier) :
    Name.IsAt token.text cs token.position (characters after) := by
  obtain ⟨whole, position, formed, complete⟩ := decomposition.at_position
  refine ⟨?_, fun c first => (complete c first).2 name, _, whole, position⟩
  rcases name with kind | kind
  · rw [WellFormed, kind] at formed
    exact formed.1
  · rw [WellFormed, kind] at formed
    exact formed.1

/-- The name of a function before a parenthesis stands at its position, and the parenthesis after
it. -/
theorem isAt_opening {opening : Token}
    (decomposition : IsDecomposition isFunction 0 cs (before ++ token :: opening :: after))
    (function : token.kind = .function) (opens : opening.kind = .leftParen) :
    Name.IsAt token.text cs token.position ('(' :: characters after) := by
  have parenthesis : opening.text.toList = ['('] := by
    have formed := decomposition.formed opening (by simp)
    rwa [WellFormed, opens] at formed
  have named := decomposition.isAt (.inr function)
  rwa [characters_cons, parenthesis] at named

/-- A point without digits that does not follow a name is a longest run by itself. -/
theorem isLonePoint (decomposition : IsDecomposition isFunction 0 cs (before ++ token :: after))
    (kind : token.kind = .number) (text : token.text.toList = ['.'])
    (other : ∀ previous, before.getLast? = some previous → ¬ previous.IsIdentifier) :
    IsLonePoint cs token.position := by
  obtain ⟨whole, position, _, complete⟩ := decomposition.at_position
  rw [text] at whole
  refine ⟨_, _, ⟨whole, ?_, ?_, fun c first => (complete c first).1 kind⟩, position⟩
  · exact List.forall_mem_singleton.2 (by decide)
  · -- before the point stands nothing or a symbol
    intro c last
    rcases List.eq_nil_or_concat' before with rfl | ⟨others, previous, rfl⟩
    · cases last
    · have ends : (others ++ [previous]).getLast? = some previous := List.getLast?_concat
      obtain ⟨formed, apart⟩ := decomposition.previous_apart ends
      obtain ⟨symbol, _, only, found⟩ :=
        formed.exists_symbol (fun number => apart.1 ⟨number, kind⟩) (other previous ends)
      rw [characters_append, characters_cons, only, List.getLast?_append] at last
      cases last
      exact isNumberPart_of_symbolKind? found

end IsDecomposition

end Token

/-! ## Tokens that are refused -/

namespace Token

variable {isFunction : String → Bool} {name token : Token}

/-- Where no operand begins there is an operator, a closing parenthesis, a comma or the end. -/
theorem kind_of_not_begins (other : ¬ token.Begins) :
    token.kind = .operator ∨ token.kind = .rightParen ∨ token.kind = .comma ∨
      token.kind = .endOfInput := by
  rw [Begins, not_or, not_or, not_or, not_or] at other
  obtain ⟨number, var, function, opens, _⟩ := other
  cases kind : token.kind with
  | number => exact absurd kind number
  | «variable» => exact absurd kind var
  | function => exact absurd kind function
  | leftParen => exact absurd kind opens
  | operator => exact .inl rfl
  | rightParen => exact .inr (.inl rfl)
  | comma => exact .inr (.inr (.inl rfl))
  | endOfInput => exact .inr (.inr (.inr rfl))

/-- After the name of a function, in place of its parenthesis, stands a symbol or a number that
begins with a point. -/
theorem Apart.kind_of_function (apart : name.Apart token) (function : name.kind = .function)
    (formed : token.WellFormed isFunction) (opens : token.kind ≠ .leftParen) :
    token.kind = .operator ∨ token.kind = .rightParen ∨ token.kind = .comma ∨
      (token.kind = .number ∧ ∃ run, token.text.toList = '.' :: run) := by
  cases kind : token.kind with
  | number =>
    obtain ⟨c, run, text⟩ := List.exists_cons_of_ne_nil formed.text_ne_nil
    rw [WellFormed, kind] at formed
    have part := formed.2.1 c (by simp [text])
    rw [isNumberPart, Bool.or_eq_true] at part
    rcases part with point | digit
    · rw [beq_iff_eq.1 point] at text
      exact .inr (.inr (.inr ⟨rfl, run, text⟩))
    · exact absurd ⟨.inr function, kind, c, by rw [text]; rfl, digit⟩ apart.2.2
  | «variable» => exact absurd ⟨.inr function, .inl kind⟩ apart.2.1
  | function => exact absurd ⟨.inr function, .inr kind⟩ apart.2.1
  | leftParen => exact absurd kind opens
  | operator => exact .inl rfl
  | rightParen => exact .inr (.inl rfl)
  | comma => exact .inr (.inr (.inl rfl))
  | endOfInput =>
    rw [WellFormed, kind] at formed
    exact formed.elim

end Token

section Scanned

variable {σ : Type} {calculator : Calculator σ} {text : String} {taken rest : List Token}

/-- Tokens before the end of the input are some of those that the characters are split into. -/
theorem Calculator.exists_isDecomposition
    (scanned : calculator.tokens text = .ok (taken ++ rest))
    (inside : ∀ token ∈ taken, token.kind ≠ .endOfInput) :
    ∃ more, rest = more ++ [Token.finish (Text.withoutBlanks text).length] ∧
      Token.IsDecomposition calculator.functions.has 0 (Text.withoutBlanks text)
        (taken ++ more) := by
  obtain ⟨inner, equal, decomposition⟩ := tokens_eq_ok scanned
  rcases List.append_eq_append_iff.1 equal with ⟨more, rfl, rfl⟩ | ⟨between, rfl, split⟩
  · exact ⟨more, rfl, decomposition⟩
  · rcases List.cons_eq_append_iff.1 split with ⟨rfl, rfl⟩ | ⟨_, rfl, _⟩
    · exact ⟨[], rfl, by simpa using decomposition⟩
    · exact absurd rfl (inside (Token.finish (Text.withoutBlanks text).length) (by simp))

variable (bindings : Bindings) (memory : σ) {fault : Fault}

/-- A fault at the end of the input stands behind all characters. -/
theorem Wanted.Refuses.pointsAt_finish
    (refuses : fault.wanted.Refuses taken (Token.current fault.rest))
    (deep : fault.wanted = .lessDepth → maxLevels ≤ taken.length)
    (ends : fault.rest = [Token.finish (Text.withoutBlanks text).length])
    (scanned : calculator.tokens text = .ok (taken ++ fault.rest)) :
    fault.diagnostic.PointsAt calculator text bindings memory := by
  have stands : calculator.StandsAt text taken (Token.current fault.rest)
      (Token.current fault.rest).position := by
    rw [ends] at scanned ⊢
    exact ⟨rfl, [], scanned⟩
  have last : Token.current fault.rest = Token.finish (Text.withoutBlanks text).length := by
    rw [ends, Token.current_cons]
  cases wanted : fault.wanted with
  | operand =>
    simp only [Diagnostic.PointsAt, Fault.diagnostic, wanted]
    refine ⟨taken, _, stands, rfl, .inr (.inr (.inr (.inl ?_)))⟩
    rw [last]
    exact ⟨rfl, rfl⟩
  | leftParen =>
    simp only [Diagnostic.PointsAt, Fault.diagnostic, wanted]
    refine ⟨taken, _, stands, rfl, .inr (.inr (.inr (.inl ?_)))⟩
    rw [last]
    exact ⟨rfl, rfl⟩
  | rightParen =>
    simp only [Diagnostic.PointsAt, Fault.diagnostic, wanted]
    rw [last]
    exact .inl rfl
  | finish =>
    rw [wanted, last] at refuses
    exact absurd rfl refuses.1
  | lessDepth =>
    simp only [Diagnostic.PointsAt, Fault.diagnostic, wanted]
    exact ⟨taken, _, stands, deep wanted⟩

/-- A fault at a token stands where the token begins. -/
theorem Wanted.Refuses.pointsAt_token {token : Token} {after : List Token}
    (refuses : fault.wanted.Refuses taken token)
    (deep : fault.wanted = .lessDepth → maxLevels ≤ taken.length)
    (next : Token.current fault.rest = token)
    (decomposition : Token.IsDecomposition calculator.functions.has 0 (Text.withoutBlanks text)
      (taken ++ token :: after))
    (stands : calculator.StandsAt text taken token token.position) :
    fault.diagnostic.PointsAt calculator text bindings memory := by
  obtain ⟨_, _, formed, _⟩ := decomposition.at_position
  cases wanted : fault.wanted with
  | operand =>
    rw [wanted] at refuses
    simp only [Diagnostic.PointsAt, Fault.diagnostic, wanted, next]
    refine ⟨taken, token, stands, rfl, ?_⟩
    rcases Token.kind_of_not_begins refuses with kind | kind | kind | kind
    · exact .inl kind
    · exact .inr (.inl kind)
    · exact .inr (.inr (.inl kind))
    · rw [Token.WellFormed, kind] at formed
      exact formed.elim
  | leftParen =>
    rw [wanted] at refuses
    simp only [Diagnostic.PointsAt, Fault.diagnostic, wanted, next]
    obtain ⟨opens, others, name, rfl, function⟩ := refuses
    have last : (others ++ [name]).getLast? = some name := List.getLast?_concat
    obtain ⟨_, apart⟩ := decomposition.previous_apart last
    refine ⟨others ++ [name], token, stands, rfl, ?_⟩
    rcases apart.kind_of_function function formed opens with kind | kind | kind | ⟨kind, run, text⟩
    · exact .inl kind
    · exact .inr (.inl kind)
    · exact .inr (.inr (.inl kind))
    · exact .inr (.inr (.inr (.inr
        ⟨kind, decomposition.getElem?_position text, name, last, function⟩)))
  | rightParen =>
    rw [wanted] at refuses
    simp only [Diagnostic.PointsAt, Fault.diagnostic, wanted, next]
    obtain ⟨c, run, text⟩ := List.exists_cons_of_ne_nil formed.text_ne_nil
    exact .inr ⟨c, decomposition.getElem?_position text,
      formed.first_ne text refuses.1 refuses.2⟩
  | finish =>
    rw [wanted] at refuses
    simp only [Diagnostic.PointsAt, Fault.diagnostic, wanted, next]
    refine ⟨taken, token, stands, rfl, fun kind => ?_, refuses.1⟩
    obtain ⟨op, some, _⟩ := formed.op?_eq_some kind
    rw [refuses.2] at some
    cases some
  | lessDepth =>
    simp only [Diagnostic.PointsAt, Fault.diagnostic, wanted, next]
    exact ⟨taken, token, stands, deep wanted⟩

/-- Where the tokens of an expression are not read, the fault stands within the characters and at
what it says. -/
theorem Fault.pointsAt {tokens : List Token} (scanned : calculator.tokens text = .ok tokens)
    (failed : Expr.ofTokens maxLevels tokens = .error fault) :
    fault.diagnostic.position ≤ (Text.withoutBlanks text).length ∧
      fault.diagnostic.PointsAt calculator text bindings memory := by
  obtain ⟨taken, rfl, inside, _⟩ := Expr.ofTokens_eq_error failed
  obtain ⟨taken', equal, refuses, deep⟩ := Expr.ofTokens_refuses failed
  obtain rfl := List.append_cancel_right equal
  obtain ⟨more, rest, decomposition⟩ := Calculator.exists_isDecomposition scanned inside
  have position : fault.diagnostic.position = (Token.current fault.rest).position := rfl
  cases more with
  | nil =>
    refine ⟨?_, refuses.pointsAt_finish bindings memory deep rest scanned⟩
    rw [position, rest]
    exact Nat.le_refl _
  | cons token after =>
    have next : Token.current fault.rest = token := by rw [rest]; rfl
    rw [next] at refuses
    rw [position, next]
    refine ⟨decomposition.position_le,
      refuses.pointsAt_token bindings memory deep next decomposition ⟨rfl, ?_⟩⟩
    rw [rest] at scanned
    exact ⟨_, scanned⟩

end Scanned

/-! ## What fails while it is evaluated -/

/-- A call begins with the name of a function and a parenthesis. -/
theorem Derives.exists_opening {name : Token} {arguments : List Token} {e : Expr}
    (derives : Derives .call (name :: arguments) e) :
    ∃ opening inner, arguments = opening :: inner ∧ name.kind = .function ∧
      opening.kind = .leftParen := by
  cases derives with
  | withoutArguments function opens => exact ⟨_, _, rfl, function, opens⟩
  | withArguments function opens => exact ⟨_, _, rfl, function, opens⟩

section Failing

variable {σ : Type} {scope : Scope σ} {memory memory' : σ} {name : String} {cause : CallFailure}
  {position : Nat}

/-- The named function was called, failed with the cause and left the memory behind. -/
def Scope.CallFailed (scope : Scope σ) (name : String) (cause : CallFailure) (memory' : σ) : Prop :=
  ∃ arguments memory, (scope.functions.invoke name arguments).run.run memory =
    (.error cause, memory')

/-- A call that fails at once fails because of the function. -/
theorem Scope.callFailed_of_call {values : List Float} {other : String} {place : Nat}
    (run : (scope.call other place values).run.run memory =
      (.error ⟨.failedCall name cause, position⟩, memory')) :
    scope.CallFailed name cause memory' := by
  cases called : (scope.functions.invoke other values).run.run memory with
  | mk result between =>
    have same : (result.mapError fun cause => (⟨.failedCall other cause, place⟩ : Diagnostic),
        between) = (.error ⟨.failedCall name cause, position⟩, memory') := by
      rw [← run, Scope.call, ExceptT.run_adapt, StateT.run_map, called]
      rfl
    cases result with
    | ok v => cases same
    | error cause' =>
      cases same
      exact ⟨values, memory, called⟩

/-- Trees fail because of a function when one of them does. -/
theorem Expr.callFailed_of_values {es : List Expr}
    (each : ∀ e ∈ es, ∀ {memory}, (e.value scope).run.run memory =
      (.error ⟨.failedCall name cause, position⟩, memory') → scope.CallFailed name cause memory')
    (run : (Expr.values scope es).run.run memory =
      (.error ⟨.failedCall name cause, position⟩, memory')) :
    scope.CallFailed name cause memory' := by
  induction es generalizing memory with
  | nil =>
    cases run
  | cons e es ih =>
    rw [List.forall_mem_cons] at each
    rw [Expr.values] at run
    rcases run_bind_eq_error.1 run with run | ⟨v, between, _, run⟩
    · exact each.1 run
    · rcases run_bind_eq_error.1 run with run | ⟨vs, between, _, run⟩
      · exact ih each.2 run
      · cases run

/-- A failed call that evaluating a tree ends with is a failure of the function. -/
theorem Expr.callFailed_of_value (e : Expr)
    (run : (e.value scope).run.run memory =
      (.error ⟨.failedCall name cause, position⟩, memory')) :
    scope.CallFailed name cause memory' := by
  induction e using Expr.induct generalizing memory with
  | literal text place =>
    rw [Expr.value] at run
    have failed := Fails.of_ofExcept ⟨memory, memory', run⟩
    rw [Scope.literal] at failed
    split at failed <;> cases failed
  | var other place =>
    rw [Expr.value] at run
    have failed := Fails.of_ofExcept ⟨memory, memory', run⟩
    rw [Scope.lookup] at failed
    split at failed <;> cases failed
  | call other place arguments ih =>
    rw [Expr.value] at run
    rcases run_bind_eq_error.1 run with run | ⟨values, between, _, run⟩
    · exact Expr.callFailed_of_values (fun e member _ => ih e member) run
    · exact Scope.callFailed_of_call run
  | grouped place inner ih =>
    rw [Expr.value] at run
    exact ih run
  | signed sign place operand ih =>
    rw [Expr.value] at run
    rcases run_bind_eq_error.1 run with run | ⟨v, between, _, run⟩
    · exact ih run
    · cases run
  | binary op place left right ihLeft ihRight =>
    rw [Expr.value] at run
    rcases run_bind_eq_error.1 run with run | ⟨x, between, _, run⟩
    · exact ihLeft run
    rcases run_bind_eq_error.1 run with run | ⟨y, between, _, run⟩
    · exact ihRight run
    · obtain ⟨_, same⟩ := Op.apply_eq_error (Fails.of_ofExcept ⟨between, memory', run⟩)
      cases same

end Failing

/-! ## Expressions -/

namespace Calculator

variable {σ : Type} {calculator : Calculator σ} {text : String} {bindings : Bindings}
  {taken rest : List Token} {d : Diagnostic} {memory memory' : σ}

/-- What fails among tokens of an expression while they are evaluated stands within its characters
and at what it says. -/
theorem pointsAt_of_within (scanned : calculator.tokens text = .ok (taken ++ rest))
    (inside : ∀ token ∈ taken, token.kind ≠ .endOfInput) (viable : Viable taken)
    (within : d.Within taken (Token.current rest))
    (first : d.IsAboutAtom →
      FirstFailing ⟨calculator.functions, bindings⟩ (Token.atoms taken) d)
    (called : ∀ name cause, d.problem = .failedCall name cause →
      Scope.CallFailed ⟨calculator.functions, bindings⟩ name cause memory') :
    d.position ≤ (Text.withoutBlanks text).length ∧
      d.PointsAt calculator text bindings memory' := by
  obtain ⟨more, _, decomposition⟩ := exists_isDecomposition scanned inside
  obtain ⟨problem, position⟩ := d
  cases problem with
  | malformedNumber =>
    obtain ⟨before, token, after, rfl, atom, failed, _⟩ := (first (.inl rfl)).exists_token
    obtain ⟨kind, rfl, none⟩ := Scope.atom_eq_malformedNumber atom failed
    rw [List.append_assoc, List.cons_append] at decomposition
    obtain ⟨_, _, formed, _⟩ := decomposition.at_position
    have point := formed.eq_point kind none
    refine ⟨decomposition.position_le, decomposition.getElem?_position point,
      .inr (decomposition.isLonePoint kind point fun previous last => ?_)⟩
    -- in what begins an expression no number follows a name
    exact (List.isChain_append.1 viable.isChain_standsApart).2.2 previous last token rfl kind
  | unknownVariable name =>
    obtain ⟨before, token, after, rfl, atom, failed, _⟩ := (first (.inr ⟨name, rfl⟩)).exists_token
    obtain ⟨kind, rfl, rfl, unbound⟩ := Scope.atom_eq_unknownVariable atom failed
    rw [List.append_assoc, List.cons_append] at decomposition
    obtain ⟨_, _, formed, _⟩ := decomposition.at_position
    rw [Token.WellFormed, kind] at formed
    exact ⟨decomposition.position_le, ⟨_, decomposition.isAt (.inl kind)⟩, formed.2, unbound⟩
  | failedCall name cause =>
    obtain ⟨before, token, arguments, after, e, rfl, derives, rfl, rfl⟩ := within
    obtain ⟨opening, inner, rfl, function, opens⟩ := derives.exists_opening
    simp only [List.append_assoc, List.cons_append] at decomposition
    obtain ⟨_, _, formed, _⟩ := decomposition.at_position
    refine ⟨decomposition.position_le, ⟨_, decomposition.isAt_opening function opens⟩, ?_⟩
    -- the name is that of a function, so it is its routine that was called
    rw [Token.WellFormed, function] at formed
    have found := formed.2
    rw [FunctionTable.has_eq_isSome] at found
    obtain ⟨routine, found⟩ := Option.isSome_iff_exists.1 found
    obtain ⟨values, between, run⟩ := called token.text cause rfl
    rw [FunctionTable.invoke, found] at run
    exact ⟨routine, values, between, found, run⟩
  | divisionByZero =>
    obtain ⟨before, slash, right, after, e, rfl, divide, rfl, _⟩ := within
    rw [List.append_assoc, List.cons_append] at decomposition
    obtain ⟨_, _, formed, _⟩ := decomposition.at_position
    obtain ⟨op, some, symbol⟩ := formed.op?_eq_some (Token.kind_of_op? divide)
    rw [divide] at some
    cases some
    exact ⟨decomposition.position_le, decomposition.getElem?_position symbol⟩
  | unknownCharacter => exact within.elim
  | missingRightParen => exact within.elim
  | trailing => exact within.elim
  | unexpected => exact within.elim
  | nestedTooDeeply => exact within.elim

/-- **Every diagnostic points at what it names.** Where calculating an expression fails, the
position is one of its characters other than blanks or the end of them, and there stands what the
diagnostic says. -/
theorem calculate_pointsAt (calculator : Calculator σ) (text : String) (bindings : Bindings)
    (run : (calculator.calculate text bindings).run.run memory = (.error d, memory')) :
    d.position ≤ (Text.withoutBlanks text).length ∧
      d.PointsAt calculator text bindings memory' := by
  cases scanned : calculator.tokens text with
  | error cause =>
    rw [calculate_of_error scanned] at run
    cases run
    obtain ⟨problem, position⟩ := d
    rcases Token.scan_eq_error scanned with
      ⟨c, rfl, character, number, name, none⟩ | ⟨rfl, second⟩
    · have within := (List.getElem?_eq_some_iff.1 character).1
      exact ⟨Nat.le_of_lt within, character, number, name, none⟩
    · have within := (List.getElem?_eq_some_iff.1 second.getElem?).1
      exact ⟨Nat.le_of_lt within, second.getElem?, .inl second⟩
  | ok tokens =>
    rw [calculate_of_tokens scanned] at run
    rcases evaluateWithin_eq_error run with
      ⟨fault, failed, rfl⟩ | ⟨taken, rest, trees, rfl, inside, viable, atoms, within, failed⟩
    · exact fault.pointsAt bindings memory' scanned failed
    · refine pointsAt_of_within scanned inside viable within (fun about => ?_) ?_
      · rw [atoms]
        exact (Expr.values_consults fun e _ => e.value_consults).failed
          ⟨memory, memory', failed⟩ about
      · rintro name cause problem
        obtain ⟨_, position⟩ := d
        cases problem
        exact Expr.callFailed_of_values (fun e _ _ => e.callFailed_of_value) failed

/-- In `(F .5)`, where `f` is a function, the number in place of its parenthesis is pointed at. -/
theorem calculate_pointsAt_number :
    let calculator : Calculator Unit := register ⟨.empty⟩ "f" .sum
    let d : Diagnostic := ⟨.unexpected .number, 2⟩
    (calculator.calculate "(F .5)" ∅).run.run () = (.error d, ()) ∧
      d.position ≤ (Text.withoutBlanks "(F .5)").length ∧
      d.PointsAt calculator "(F .5)" ∅ () := by
  intro calculator d
  have scanned : calculator.tokens "(F .5)" = .ok
      [⟨.leftParen, "(", 0⟩, ⟨.function, "F", 1⟩, ⟨.number, ".5", 2⟩, ⟨.rightParen, ")", 4⟩,
        .finish 5] := by decide +kernel
  have run : (calculator.calculate "(F .5)" ∅).run.run () = (.error d, ()) := by
    rw [calculate_of_tokens scanned]
    rfl
  exact ⟨run, calculate_pointsAt calculator "(F .5)" ∅ run⟩

end Calculator

end Reckoner
