/-! # Tokens

The pieces of an expression: a kind, the text as written, and the position of its first character
among the characters that are not blank. -/

namespace Reckoner

/-- The five binary operators; the first two are also signs. -/
inductive Op
  | plus
  | minus
  | times
  | divide
  | power
  deriving DecidableEq, Repr

namespace Op

/-- The symbol of an operator. -/
def symbol : Op → Char
  | .plus => '+'
  | .minus => '-'
  | .times => '*'
  | .divide => '/'
  | .power => '^'

/-- The operator written as the symbol. -/
def ofSymbol? (c : Char) : Option Op :=
  if c = '+' then some .plus
  else if c = '-' then some .minus
  else if c = '*' then some .times
  else if c = '/' then some .divide
  else if c = '^' then some .power
  else none

/-- The operator that a text consists of. -/
def ofText? (text : String) : Option Op :=
  match text.toList with
  | [c] => ofSymbol? c
  | _ => none

@[simp] theorem ofSymbol?_symbol (op : Op) : ofSymbol? op.symbol = some op := by
  cases op <;> rfl

/-- Only its own symbol is read as an operator. -/
theorem ofSymbol?_eq_some {c : Char} {op : Op} : ofSymbol? c = some op ↔ c = op.symbol := by
  constructor
  · unfold ofSymbol?
    intro h
    split at h
    · simp_all [symbol, ← Option.some.inj h]
    split at h
    · simp_all [symbol, ← Option.some.inj h]
    split at h
    · simp_all [symbol, ← Option.some.inj h]
    split at h
    · simp_all [symbol, ← Option.some.inj h]
    split at h
    · simp_all [symbol, ← Option.some.inj h]
    · exact absurd h (by simp)
  · rintro rfl
    exact ofSymbol?_symbol op

end Op

namespace Token

/-- What a token is. -/
inductive Kind
  | number
  | variable
  | operator
  | function
  | leftParen
  | rightParen
  | comma
  | endOfInput
  deriving DecidableEq, Repr

/-- The words for a kind in messages. -/
def Kind.describe : Kind → String
  | .number => "number"
  | .variable => "variable"
  | .operator => "operator"
  | .function => "function"
  | .leftParen => "'('"
  | .rightParen => "')'"
  | .comma => "','"
  | .endOfInput => "end of input"

end Token

/-- A token: its kind, its text as written and the position where it begins. -/
structure Token where
  kind : Token.Kind
  text : String
  position : Nat
  deriving DecidableEq, Repr

namespace Token

/-- The token after the last one of an expression. -/
def finish (position : Nat) : Token := ⟨.endOfInput, "", position⟩

/-- The operator that a token stands for. -/
def op? (token : Token) : Option Op :=
  match token.kind with
  | .operator => Op.ofText? token.text
  | _ => none

/-- The first of the tokens; past the last one stands the end of the input, at position zero. -/
def current : List Token → Token
  | [] => finish 0
  | token :: _ => token

@[simp] theorem current_nil : current [] = finish 0 := rfl

@[simp] theorem current_cons (token : Token) (tokens : List Token) :
    current (token :: tokens) = token := rfl

@[simp] theorem op?_finish (position : Nat) : (finish position).op? = none := rfl

/-- Only operator tokens stand for operators. -/
theorem kind_of_op? {token : Token} {op : Op} (h : token.op? = some op) :
    token.kind = .operator := by
  unfold op? at h
  split at h <;> simp_all

end Token

end Reckoner
