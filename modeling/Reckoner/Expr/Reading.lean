import Reckoner.Diagnostic
import Reckoner.Expr

/-! # Reading expressions from tokens

The grammar, from the loosest binding to the tightest:

* an expression is a chain of products joined by `+` and `-`,
* a product is a chain of powers joined by `*` and `/`,
* a power is a chain of operands joined by `^`,
* an operand is a sign and an operand, a number, a variable, a call or an expression in parentheses,
* a call is a function's name and expressions in parentheses, separated by commas.

Every chain is grouped from the left. A rule of the grammar takes the longest expression of its kind
from the front of the tokens and leaves fewer tokens than it was given (`Rule.shortens`); this is
why reading ends. The rules recurse through operands only, and the number of operands that can be
open at a time is bounded. Where a rule fails, `Fault` holds the expressions that were complete by
then, in the order in which they stand. -/

namespace Reckoner

/-- What a rule would have accepted at the token where it stopped. -/
inductive Wanted
  /-- The beginning of an operand. -/
  | operand
  /-- The parenthesis after the name of a function. -/
  | leftParen
  /-- The parenthesis that closes a group or a call. -/
  | rightParen
  /-- Nothing more. -/
  | finish
  /-- An operand at a lesser depth. -/
  | lessDepth
  deriving DecidableEq, Repr

/-- Why no expression could be read. -/
structure Fault where
  /-- The complete expressions before the fault that are no part of a greater one. -/
  parts : List Expr
  wanted : Wanted
  /-- The tokens from the one where the rule stopped. -/
  rest : List Token

namespace Fault

/-- The fault that stands after more expressions. -/
def after (parts : List Expr) (fault : Fault) : Fault :=
  { fault with parts := parts ++ fault.parts }

/-- The diagnostic of a fault. -/
def diagnostic (fault : Fault) : Diagnostic :=
  let token := Token.current fault.rest
  let problem : Problem := match fault.wanted with
    | .operand | .leftParen => .unexpected token.kind
    | .rightParen => .missingRightParen
    | .finish => .trailing token.kind
    | .lessDepth => .nestedTooDeeply
  ⟨problem, token.position⟩

end Fault

/-- A rule of the grammar. -/
structure Rule where
  /-- Takes an expression from the front of the tokens and gives it with the tokens after it. -/
  read : List Token → Except Fault (Expr × List Token)
  /-- An expression has at least one token. -/
  shortens : ∀ {tokens e rest}, read tokens = .ok (e, rest) → rest.length < tokens.length

namespace Rule

/-! ## Chains -/

/-- Joins further operands to `left` while an operator of the level comes next. -/
def extend (operand : Rule) (level : Level) (left : Expr) :
    List Token → Except Fault (Expr × List Token)
  | [] => .ok (left, [])
  | token :: tokens =>
    match token.op? with
    | none => .ok (left, token :: tokens)
    | some op =>
      -- an operator of another level is left to the chain around this one
      if op.level = level then
        match _h : operand.read tokens with
        | .error fault => .error (fault.after [left])
        | .ok (right, rest) => extend operand level (.binary op token.position left right) rest
      else .ok (left, token :: tokens)
termination_by tokens => tokens.length
decreasing_by exact Nat.lt_succ_of_lt (operand.shortens _h)

theorem extend_length {operand : Rule} {level : Level} {left e : Expr} {tokens rest : List Token}
    (h : extend operand level left tokens = .ok (e, rest)) : rest.length ≤ tokens.length := by
  fun_induction extend operand level left tokens with
  | case1 => cases h; exact Nat.le_refl _
  | case2 => cases h; exact Nat.le_refl _
  | case3 => cases h
  | case4 left token tokens op _ _ right rest' read ih =>
    have := operand.shortens read
    have := ih h
    simp only [List.length_cons]
    omega
  | case5 => cases h; exact Nat.le_refl _

/-- The chains of operands joined by the operators of a level. -/
def chain (level : Level) (operand : Rule) : Rule where
  read tokens :=
    match operand.read tokens with
    | .error fault => .error fault
    | .ok (left, rest) => extend operand level left rest
  shortens {tokens e rest} h := by
    split at h
    · cases h
    · rename_i read
      exact Nat.lt_of_le_of_lt (extend_length h) (operand.shortens read)

/-- The expressions over a kind of operands. -/
def expression (operand : Rule) : Rule :=
  chain .sum (chain .product (chain .power operand))

/-! ## Parentheses and arguments -/

/-- Passes a token of the wanted kind; `parts` are the expressions complete by then. -/
def expect (kind : Token.Kind) (wanted : Wanted) (parts : List Expr) :
    List Token → Except Fault (List Token)
  | [] => .error ⟨parts, wanted, []⟩
  | token :: tokens =>
    if token.kind = kind then .ok tokens else .error ⟨parts, wanted, token :: tokens⟩

/-- Adds further arguments to those of `done`, the last one first, while a comma comes next. -/
def moreArguments (argument : Rule) (done : List Expr) :
    List Token → Except Fault (List Expr × List Token)
  | [] => .ok (done.reverse, [])
  | token :: tokens =>
    if token.kind = .comma then
      match _h : argument.read tokens with
      | .error fault => .error (fault.after done.reverse)
      | .ok (e, rest) => moreArguments argument (e :: done) rest
    else .ok (done.reverse, token :: tokens)
termination_by tokens => tokens.length
decreasing_by exact Nat.lt_succ_of_lt (argument.shortens _h)

/-- The arguments of a call, up to the closing parenthesis. -/
def arguments (argument : Rule) (tokens : List Token) : Except Fault (List Expr × List Token) :=
  if (Token.current tokens).kind = .rightParen then .ok ([], tokens)
  else
    match argument.read tokens with
    | .error fault => .error fault
    | .ok (e, rest) => moreArguments argument [e] rest

/-- An expression in parentheses, after the opening one. -/
def group (inner : Rule) (opening : Token) (tokens : List Token) :
    Except Fault (Expr × List Token) := do
  let (e, rest) ← inner.read tokens
  let rest ← expect .rightParen .rightParen [e] rest
  return (.grouped opening.position e, rest)

/-- A call, after the name of the function. -/
def call (argument : Rule) (name : Token) (tokens : List Token) :
    Except Fault (Expr × List Token) := do
  let tokens ← expect .leftParen .leftParen [] tokens
  let (es, rest) ← arguments argument tokens
  let rest ← expect .rightParen .rightParen es rest
  return (.call name.text name.position es, rest)

theorem expect_length {kind : Token.Kind} {wanted : Wanted} {parts : List Expr}
    {tokens rest : List Token} (h : expect kind wanted parts tokens = .ok rest) :
    rest.length < tokens.length := by
  unfold expect at h
  split at h
  · cases h
  · split at h
    · cases h; exact Nat.lt_succ_self _
    · cases h

theorem moreArguments_length {argument : Rule} {done es : List Expr} {tokens rest : List Token}
    (h : moreArguments argument done tokens = .ok (es, rest)) : rest.length ≤ tokens.length := by
  fun_induction moreArguments argument done tokens with
  | case1 => cases h; exact Nat.le_refl _
  | case2 => cases h
  | case3 done token tokens _ e rest' read ih =>
    have := argument.shortens read
    have := ih h
    simp only [List.length_cons]
    omega
  | case4 => cases h; exact Nat.le_refl _

theorem arguments_length {argument : Rule} {es : List Expr} {tokens rest : List Token}
    (h : arguments argument tokens = .ok (es, rest)) : rest.length ≤ tokens.length := by
  unfold arguments at h
  split at h
  · cases h; exact Nat.le_refl _
  · split at h
    · cases h
    · rename_i read
      exact Nat.le_trans (moreArguments_length h) (Nat.le_of_lt (argument.shortens read))

theorem group_length {inner : Rule} {opening : Token} {e : Expr} {tokens rest : List Token}
    (h : group inner opening tokens = .ok (e, rest)) : rest.length < tokens.length := by
  unfold group at h
  cases read : inner.read tokens with
  | error => simp [read, bind, Except.bind] at h
  | ok piece =>
    cases closed : expect .rightParen .rightParen [piece.1] piece.2 with
    | error => simp [read, closed, bind, Except.bind] at h
    | ok rest' =>
      simp only [read, closed, bind, Except.bind, pure, Except.pure, Except.ok.injEq,
        Prod.mk.injEq] at h
      have := inner.shortens read
      have := expect_length closed
      have : rest'.length = rest.length := congrArg List.length h.2
      omega

theorem call_length {argument : Rule} {name : Token} {e : Expr} {tokens rest : List Token}
    (h : call argument name tokens = .ok (e, rest)) : rest.length < tokens.length := by
  unfold call at h
  cases opened : expect .leftParen .leftParen [] tokens with
  | error => simp [opened, bind, Except.bind] at h
  | ok inside =>
    cases read : arguments argument inside with
    | error => simp [opened, read, bind, Except.bind] at h
    | ok piece =>
      cases closed : expect .rightParen .rightParen piece.1 piece.2 with
      | error => simp [opened, read, closed, bind, Except.bind] at h
      | ok rest' =>
        simp only [opened, read, closed, bind, Except.bind, pure, Except.pure, Except.ok.injEq,
          Prod.mk.injEq] at h
        have := expect_length opened
        have := arguments_length read
        have := expect_length closed
        have : rest'.length = rest.length := congrArg List.length h.2
        omega

/-! ## Operands -/

/-- An operand without a sign, of which expressions in parentheses and arguments follow the rule
`inner`. -/
def unsigned (inner : Rule) : List Token → Except Fault (Expr × List Token)
  | [] => .error ⟨[], .operand, []⟩
  | token :: tokens =>
    match token.kind with
    | .number => .ok (.literal token.text token.position, tokens)
    | .variable => .ok (.variable token.text token.position, tokens)
    | .function => call inner token tokens
    | .leftParen => group inner token tokens
    | _ => .error ⟨[], .operand, token :: tokens⟩

/-- The operands that hold the given operands one level deeper. -/
def enclose (operand : Rule) : Rule where
  read tokens :=
    match (Token.current tokens).op?.bind Op.sign? with
    -- a sign takes one level, like the parentheses of a group or a call
    | some sign =>
      (operand.read tokens.tail).map fun (e, rest) =>
        (.signed sign (Token.current tokens).position e, rest)
    | none => unsigned (expression operand) tokens
  shortens {tokens e rest} h := by
    split at h
    · cases read : operand.read tokens.tail with
      | error => simp [read, Except.map] at h
      | ok piece =>
        simp only [read, Except.map, Except.ok.injEq, Prod.mk.injEq] at h
        have shorter := operand.shortens read
        rw [h.2, List.length_tail] at shorter
        omega
    · unfold unsigned at h
      split at h
      · cases h
      · split at h
        · cases h; exact Nat.lt_succ_self _
        · cases h; exact Nat.lt_succ_self _
        · exact Nat.lt_succ_of_lt (call_length h)
        · exact Nat.lt_succ_of_lt (group_length h)
        · cases h

/-- The operands of at most so many levels. -/
def operand : (levels : Nat) → Rule
  | 0 => ⟨fun tokens => .error ⟨[], .lessDepth, tokens⟩, fun h => by cases h⟩
  | levels + 1 => enclose (operand levels)

end Rule

namespace Expr

/-- Reads tokens that are one expression of at most so many levels, up to the end of the input. -/
def ofTokens (levels : Nat) (tokens : List Token) : Except Fault Expr := do
  let (e, rest) ← (Rule.expression (Rule.operand levels)).read tokens
  if (Token.current rest).kind = .endOfInput then return e
  else throw ⟨[e], .finish, rest⟩

end Expr

end Reckoner
