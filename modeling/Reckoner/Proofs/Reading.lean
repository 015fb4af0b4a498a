import Reckoner.Expr.Reading
import Reckoner.Proofs.Grammar
import Reckoner.Proofs.Nesting

/-! # Reading agrees with the grammar

A rule reads a phrase (`Rule.Reads`) when what it accepts are the derivations of the phrase that
nest no deeper than the levels and end where the phrase is complete. Operands are read, by induction
on the levels (`Rule.operand_reads`), and so are whole expressions (`Rule.whole_reads`). Since
reading is a function, tokens stand for one tree at most (`Derives.unique`). -/

namespace Reckoner

/-! ## How phrases begin -/

namespace Token

/-- Whether an operand can begin with the token. -/
def Begins (token : Token) : Prop :=
  token.kind = .number ∨ token.kind = .variable ∨ token.kind = .function ∨
    token.kind = .leftParen ∨ (token.op?.bind Op.sign?).isSome = true

/-- A token that begins an operand is no closing parenthesis. -/
theorem Begins.ne_rightParen {token : Token} (begins : token.Begins) :
    token.kind ≠ .rightParen := by
  intro closing
  rcases begins with kind | kind | kind | kind | sign
  · rw [closing] at kind; cases kind
  · rw [closing] at kind; cases kind
  · rw [closing] at kind; cases kind
  · rw [closing] at kind; cases kind
  · rw [op?, closing] at sign
    cases sign

/-- Only operators stand for operators. -/
theorem op?_eq_none {token : Token} (kind : token.kind ≠ .operator) : token.op? = none := by
  cases found : token.op? with
  | none => rfl
  | some op => exact absurd (kind_of_op? found) kind

end Token

/-- Every phrase begins like an operand. -/
theorem Derives.begins {phrase : Phrase} {tokens : List Token} {e : Expr}
    (derives : Derives phrase tokens e) :
    ∃ token rest, tokens = token :: rest ∧ token.Begins := by
  induction derives using Derives.induct with
  | chain derives parts =>
    clear derives
    induction parts with
    | first part => exact part.2
    | joined _ _ _ _ ih =>
      obtain ⟨token, rest, rfl, begins⟩ := ih
      exact ⟨token, _, rfl, begins⟩
  | signed sign _ _ => exact ⟨_, _, rfl, by simp [Token.Begins, sign]⟩
  | unsigned _ ih => exact ih
  | number kind => exact ⟨_, _, rfl, .inl kind⟩
  | var kind => exact ⟨_, _, rfl, .inr (.inl kind)⟩
  | call _ ih => exact ih
  | grouped opens _ _ _ => exact ⟨_, _, rfl, .inr (.inr (.inr (.inl opens)))⟩
  | withoutArguments function _ _ => exact ⟨_, _, rfl, .inr (.inr (.inl function))⟩
  | withArguments function _ _ _ _ => exact ⟨_, _, rfl, .inr (.inr (.inl function))⟩

/-! ## What each step of reading accepts -/

section Sequence

variable {ε α β : Type} {x : Except ε α} {f : α → Except ε β}

/-- Two steps succeed when both do. -/
theorem bind_eq_ok {b : β} : (x >>= f) = .ok b ↔ ∃ a, x = .ok a ∧ f a = .ok b := by
  cases x <;> simp [bind, Except.bind]

/-- Two steps fail when the first does or the second one after it. -/
theorem bind_eq_error {cause : ε} :
    (x >>= f) = .error cause ↔ x = .error cause ∨ ∃ a, x = .ok a ∧ f a = .error cause := by
  cases x <;> simp [bind, Except.bind]

end Sequence

namespace Rule

section Steps

variable {rule : Rule} {level : Level} {left right : Expr} {token opening name : Token} {op : Op}
  {tokens rest : List Token} {fault : Fault} {e : Expr} {es done : List Expr}

/-- A chain takes in an operator of its level and the operand after it. -/
theorem extend_joined (found : token.op? = some op) (same : op.level = level)
    (read : rule.read tokens = .ok (right, rest)) :
    extend rule level left (token :: tokens) =
      extend rule level (.binary op token.position left right) rest := by
  rw [extend]
  simp only [found, same, if_true]
  split
  · rename_i failed
    rw [failed] at read
    cases read
  · rename_i again
    rw [again] at read
    cases read
    rfl

/-- A chain fails where the operand after an operator of its level fails. -/
theorem extend_failed (found : token.op? = some op) (same : op.level = level)
    (failed : rule.read tokens = .error fault) :
    extend rule level left (token :: tokens) = .error (fault.after [left]) := by
  rw [extend]
  simp only [found, same, if_true]
  split
  · rename_i again
    rw [again] at failed
    cases failed
    rfl
  · rename_i read
    rw [read] at failed
    cases failed

/-- A chain ends where no operator of its level comes next. -/
theorem extend_ended
    (other : ∀ op, (Token.current tokens).op? = some op → op.level ≠ level) :
    extend rule level left tokens = .ok (left, tokens) := by
  cases tokens with
  | nil => rw [extend]
  | cons token tokens =>
    rw [extend]
    cases found : token.op? with
    | none => rfl
    | some op => simp only [if_neg (other op found)]

/-- After a comma comes a further argument. -/
theorem moreArguments_comma (comma : token.kind = .comma)
    (read : rule.read tokens = .ok (e, rest)) :
    moreArguments rule done (token :: tokens) = moreArguments rule (e :: done) rest := by
  rw [moreArguments, if_pos comma]
  split
  · rename_i failed
    rw [failed] at read
    cases read
  · rename_i again
    rw [again] at read
    cases read
    rfl

/-- The arguments fail where one of them fails. -/
theorem moreArguments_failed (comma : token.kind = .comma)
    (failed : rule.read tokens = .error fault) :
    moreArguments rule done (token :: tokens) = .error (fault.after done.reverse) := by
  rw [moreArguments, if_pos comma]
  split
  · rename_i again
    rw [again] at failed
    cases failed
    rfl
  · rename_i read
    rw [read] at failed
    cases failed

/-- The arguments end where no comma comes next. -/
theorem moreArguments_ended (other : (Token.current tokens).kind ≠ .comma) :
    moreArguments rule done tokens = .ok (done.reverse, tokens) := by
  cases tokens with
  | nil => rw [moreArguments]
  | cons token tokens =>
    rw [Token.current_cons] at other
    rw [moreArguments, if_neg other]

/-- Exactly a token of the wanted kind is passed. -/
theorem expect_eq_ok {kind : Token.Kind} {wanted : Wanted} {parts : List Expr} :
    expect kind wanted parts tokens = .ok rest ↔
      ∃ token, tokens = token :: rest ∧ token.kind = kind := by
  cases tokens with
  | nil => simp [expect]
  | cons token tokens =>
    by_cases same : token.kind = kind
    · simp [expect, same, and_assoc]
    · simp only [expect, if_neg same, reduceCtorEq, false_iff]
      rintro ⟨token, equal, passed⟩
      cases equal
      exact same passed

/-- Any other token is a fault. -/
theorem expect_eq_error {kind : Token.Kind} {wanted : Wanted} {parts : List Expr}
    (proper : kind ≠ .endOfInput) :
    expect kind wanted parts tokens = .error fault ↔
      (Token.current tokens).kind ≠ kind ∧ fault = ⟨parts, wanted, tokens⟩ := by
  cases tokens with
  | nil => simp [expect, Token.finish, proper.symm, eq_comm]
  | cons token tokens =>
    by_cases same : token.kind = kind <;> simp [expect, same, eq_comm]

/-- A group is an expression and the parenthesis that closes it. -/
theorem group_eq_ok :
    group rule opening tokens = .ok (e, rest) ↔
      ∃ inner closing, rule.read tokens = .ok (inner, closing :: rest) ∧
        closing.kind = .rightParen ∧ e = .grouped opening.position inner := by
  simp only [group, bind_eq_ok, Prod.exists, expect_eq_ok, pure, Except.pure, Except.ok.injEq,
    Prod.mk.injEq]
  constructor
  · rintro ⟨inner, _, read, _, ⟨closing, rfl, kind⟩, rfl, rfl⟩
    exact ⟨inner, closing, read, kind, rfl⟩
  · rintro ⟨inner, closing, read, kind, rfl⟩
    exact ⟨inner, _, read, rest, ⟨closing, rfl, kind⟩, rfl, rfl⟩

/-- A group fails in the expression or at what comes in place of the closing parenthesis. -/
theorem group_eq_error :
    group rule opening tokens = .error fault ↔
      rule.read tokens = .error fault ∨
      ∃ inner rest, rule.read tokens = .ok (inner, rest) ∧
        (Token.current rest).kind ≠ .rightParen ∧ fault = ⟨[inner], .rightParen, rest⟩ := by
  simp only [group, bind_eq_error, Prod.exists,
    expect_eq_error (by decide : Token.Kind.rightParen ≠ .endOfInput), pure, Except.pure,
    reduceCtorEq, and_false, exists_false, or_false]

/-- A call is the opening parenthesis, arguments and the closing parenthesis. -/
theorem call_eq_ok :
    call rule name tokens = .ok (e, rest) ↔
      ∃ opening inside es closing, tokens = opening :: inside ∧ opening.kind = .leftParen ∧
        arguments rule inside = .ok (es, closing :: rest) ∧ closing.kind = .rightParen ∧
        e = .call name.text name.position es := by
  simp only [call, bind_eq_ok, Prod.exists, expect_eq_ok, pure, Except.pure, Except.ok.injEq,
    Prod.mk.injEq]
  constructor
  · rintro ⟨inside, ⟨opening, rfl, opens⟩, es, _, read, _, ⟨closing, rfl, closes⟩, rfl, rfl⟩
    exact ⟨opening, inside, es, closing, rfl, opens, read, closes, rfl⟩
  · rintro ⟨opening, inside, es, closing, rfl, opens, read, closes, rfl⟩
    exact ⟨inside, ⟨opening, rfl, opens⟩, es, _, read, rest, ⟨closing, rfl, closes⟩, rfl, rfl⟩

/-- A call fails without its opening parenthesis, in an argument or without its closing
parenthesis. -/
theorem call_eq_error :
    call rule name tokens = .error fault ↔
      ((Token.current tokens).kind ≠ .leftParen ∧ fault = ⟨[], .leftParen, tokens⟩) ∨
      ∃ opening inside, tokens = opening :: inside ∧ opening.kind = .leftParen ∧
        (arguments rule inside = .error fault ∨
        ∃ es rest, arguments rule inside = .ok (es, rest) ∧
          (Token.current rest).kind ≠ .rightParen ∧ fault = ⟨es, .rightParen, rest⟩) := by
  simp only [call, bind_eq_error, Prod.exists, expect_eq_ok,
    expect_eq_error (by decide : Token.Kind.rightParen ≠ .endOfInput),
    expect_eq_error (by decide : Token.Kind.leftParen ≠ .endOfInput), pure, Except.pure,
    reduceCtorEq, and_false, exists_false, or_false]
  constructor
  · rintro (missing | ⟨inside, ⟨opening, rfl, opens⟩, failed⟩)
    · exact .inl missing
    · exact .inr ⟨opening, inside, rfl, opens, failed⟩
  · rintro (missing | ⟨opening, inside, rfl, opens, failed⟩)
    · exact .inl missing
    · exact .inr ⟨inside, ⟨opening, rfl, opens⟩, failed⟩

end Steps

/-! ## Rules and phrases -/

/-- A rule reads the phrases that nest no deeper than the levels, up to where they are complete. -/
structure Reads (rule : Rule) (levels : Nat) (phrase : Phrase) : Prop where
  complete : ∀ {taken e rest}, Derives phrase taken e → e.nesting ≤ levels →
    phrase.EndsBefore (Token.current rest) → rule.read (taken ++ rest) = .ok (e, rest)
  sound : ∀ {tokens e rest}, rule.read tokens = .ok (e, rest) →
    ∃ taken, tokens = taken ++ rest ∧ Derives phrase taken e ∧ e.nesting ≤ levels ∧
      phrase.EndsBefore (Token.current rest)

section Chains

variable {rule : Rule} {levels : Nat} {level : Level} {taken rest tokens : List Token} {e : Expr}

/-- A chain of parts is read up to the point where it might go on. -/
theorem chain_read_append (part : rule.Reads levels level.part)
    (joined : Chain level (Derives level.part) taken e) (shallow : e.nesting ≤ levels)
    (ends : level.part.EndsBefore (Token.current rest)) :
    (chain level rule).read (taken ++ rest) = extend rule level e rest := by
  induction joined generalizing rest with
  | first derives =>
    simp only [chain, part.complete derives shallow ends]
  | @joined before token op after left right _ found same derives ih =>
    rw [Expr.nesting, Nat.max_le] at shallow
    -- the part before the operator ends there, since parts leave the operators of the level alone
    have after : level.part.EndsBefore (Token.current (token :: (after ++ rest))) :=
      Phrase.part_endsBefore found same
    rw [List.append_assoc, List.cons_append, ih shallow.1 after]
    exact extend_joined found same (part.complete derives shallow.2 ends)

/-- What a chain is extended to is a longer chain, complete where extending ended. -/
theorem extend_sound (part : rule.Reads levels level.part) {before : List Token} {left : Expr}
    (joined : Chain level (Derives level.part) before left) (shallow : left.nesting ≤ levels)
    (ends : level.part.EndsBefore (Token.current tokens))
    (read : extend rule level left tokens = .ok (e, rest)) :
    ∃ taken, tokens = taken ++ rest ∧ Chain level (Derives level.part) (before ++ taken) e ∧
      e.nesting ≤ levels ∧ level.chain.EndsBefore (Token.current rest) := by
  fun_induction extend rule level left tokens generalizing before with
  | case1 left =>
    cases read
    exact ⟨[], rfl, by rwa [List.append_nil], shallow,
      Phrase.endsBefore_of_op?_eq_none (Token.op?_finish 0)⟩
  | case2 left token tokens none =>
    cases read
    exact ⟨[], rfl, by rwa [List.append_nil], shallow, Phrase.endsBefore_of_op?_eq_none none⟩
  | case3 => cases read
  | case4 left token tokens op found same right after again ih =>
    obtain ⟨taken, rfl, derives, shallowRight, endsRight⟩ := part.sound again
    obtain ⟨more, rfl, longer, shallow, ends⟩ := ih (joined.joined found same derives)
      (by rw [Expr.nesting]; exact Nat.max_le.2 ⟨shallow, shallowRight⟩) endsRight read
    exact ⟨token :: (taken ++ more), by simp, by simpa using longer, shallow, ends⟩
  | case5 left token tokens op found other =>
    cases read
    refine ⟨[], rfl, by rwa [List.append_nil], shallow, ends.chain ?_⟩
    intro op' found'
    rw [Token.current_cons, found, Option.some.injEq] at found'
    exact found' ▸ other

/-- Chains are read when their parts are. -/
theorem chain_reads (level : Level) (part : rule.Reads levels level.part) :
    (chain level rule).Reads levels level.chain where
  complete derives shallow ends := by
    rw [chain_read_append part (Derives.chain_iff.1 derives) shallow ends.part]
    -- an operator of the level next would be one that the chain takes in
    refine extend_ended fun op found same => ?_
    have apart := ends op found
    rw [← Bool.not_eq_true, Phrase.joins_chain] at apart
    exact apart (.inl same)
  sound {tokens e rest} read := by
    cases first : rule.read tokens with
    | error fault => simp [chain, first] at read
    | ok piece =>
      simp only [chain, first] at read
      obtain ⟨taken, rfl, derives, shallow, ends⟩ := part.sound first
      obtain ⟨more, equal, longer, shallow, ends⟩ :=
        extend_sound part (.first derives) shallow ends read
      exact ⟨taken ++ more, by rw [equal, List.append_assoc], Derives.chain_iff.2 longer, shallow,
        ends⟩

/-- Expressions are read when operands are. -/
theorem expression_reads (operand : rule.Reads levels .operand) :
    (expression rule).Reads levels .expression :=
  chain_reads .sum (chain_reads .product (chain_reads .power operand))

end Chains

section Operands

variable {rule : Rule} {levels : Nat} {taken rest tokens : List Token} {e : Expr} {es : List Expr}

/-- Arguments are read up to the point where there might be more. -/
theorem arguments_read_append (argument : rule.Reads levels .expression)
    (separated : Separated (Derives .expression) taken es) (shallow : ∀ e ∈ es, e.nesting ≤ levels)
    (ends : Phrase.EndsBefore .expression (Token.current rest)) :
    arguments rule (taken ++ rest) = moreArguments rule es.reverse rest := by
  induction separated generalizing rest with
  | @one tokens e derives =>
    have read := argument.complete derives (shallow e (List.mem_singleton_self e)) ends
    -- a list with an argument is not taken for an empty one
    obtain ⟨token, more, rfl, begins⟩ := derives.begins
    rw [arguments, if_neg (by simpa using begins.ne_rightParen), read]
    rfl
  | @more before es comma tokens e _ kind derives ih =>
    rw [List.forall_mem_append, List.forall_mem_singleton] at shallow
    have after : Phrase.EndsBefore .expression (Token.current (comma :: (tokens ++ rest))) :=
      Phrase.endsBefore_of_kind (by simp [kind])
    rw [List.append_assoc, List.cons_append, ih shallow.1 after,
      moreArguments_comma kind (argument.complete derives shallow.2 ends), List.reverse_append]
    rfl

/-- What more arguments give are the arguments so far and others, complete where they ended. -/
theorem moreArguments_sound (argument : rule.Reads levels .expression) {before : List Token}
    {done : List Expr} (separated : Separated (Derives .expression) before done.reverse)
    (shallow : ∀ e ∈ done, e.nesting ≤ levels)
    (ends : Phrase.EndsBefore .expression (Token.current tokens))
    (read : moreArguments rule done tokens = .ok (es, rest)) :
    ∃ taken, tokens = taken ++ rest ∧ Separated (Derives .expression) (before ++ taken) es ∧
      (∀ e ∈ es, e.nesting ≤ levels) ∧ Phrase.EndsBefore .expression (Token.current rest) ∧
      (Token.current rest).kind ≠ .comma := by
  fun_induction moreArguments rule done tokens generalizing before with
  | case1 done =>
    cases read
    exact ⟨[], rfl, by rwa [List.append_nil], by simpa using shallow, ends, by simp [Token.finish]⟩
  | case2 => cases read
  | case3 done token tokens comma e rest' again ih =>
    obtain ⟨taken, rfl, derives, shallowLast, endsLast⟩ := argument.sound again
    have longer :
        Separated (Derives .expression) (before ++ token :: taken) (e :: done).reverse := by
      rw [List.reverse_cons]
      exact .more separated comma derives
    obtain ⟨more, rfl, whole, shallow, ends, other⟩ := ih longer
      (List.forall_mem_cons.2 ⟨shallowLast, shallow⟩) endsLast read
    exact ⟨token :: (taken ++ more), by simp, by simpa using whole, shallow, ends, other⟩
  | case4 done token tokens other =>
    cases read
    exact ⟨[], rfl, by rwa [List.append_nil], by simpa using shallow, ends, other⟩

/-- There are no arguments before a closing parenthesis; else they are expressions separated by
commas, complete where they ended. -/
theorem arguments_sound (argument : rule.Reads levels .expression)
    (read : arguments rule tokens = .ok (es, rest)) :
    (es = [] ∧ tokens = rest ∧ (Token.current rest).kind = .rightParen) ∨
      ∃ taken, tokens = taken ++ rest ∧ Separated (Derives .expression) taken es ∧
        (∀ e ∈ es, e.nesting ≤ levels) ∧ Phrase.EndsBefore .expression (Token.current rest) ∧
        (Token.current rest).kind ≠ .comma := by
  rw [arguments] at read
  split at read
  · rename_i closing
    cases read
    exact .inl ⟨rfl, rfl, closing⟩
  · cases first : rule.read tokens with
    | error fault => simp [first] at read
    | ok piece =>
      simp only [first] at read
      obtain ⟨taken, rfl, derives, shallow, ends⟩ := argument.sound first
      have one : Separated (Derives .expression) taken [piece.1].reverse := .one derives
      obtain ⟨more, equal, separated, rest⟩ :=
        moreArguments_sound argument one (by simpa using shallow) ends read
      exact .inr ⟨taken ++ more, by rw [equal, List.append_assoc], separated, rest⟩

/-- An operand that begins with no operator has no sign. -/
theorem enclose_eq_unsigned (bare : (Token.current tokens).op? = none) :
    (enclose rule).read tokens = unsigned (expression rule) tokens := by
  simp only [enclose, bare, Option.bind_none]

/-- After an opening parenthesis comes a group. -/
theorem unsigned_leftParen {opening : Token} (opens : opening.kind = .leftParen) :
    unsigned rule (opening :: tokens) = group rule opening tokens := by
  simp only [unsigned, opens]

/-- After the name of a function comes a call. -/
theorem unsigned_function {name : Token} (function : name.kind = .function) :
    unsigned rule (name :: tokens) = call rule name tokens := by
  simp only [unsigned, function]

/-- An operand without a sign is read, and begins with no operator. -/
theorem unsigned_complete (inner : rule.Reads levels .expression)
    (derives : Derives .unsigned taken e) (shallow : e.nesting ≤ levels + 1) (rest : List Token) :
    (Token.current (taken ++ rest)).op? = none ∧
      unsigned rule (taken ++ rest) = .ok (e, rest) := by
  cases derives with
  | number kind => exact ⟨Token.op?_eq_none (by simp [kind]), by simp [unsigned, kind]⟩
  | var kind => exact ⟨Token.op?_eq_none (by simp [kind]), by simp [unsigned, kind]⟩
  | @grouped opening tokens e closing opens derives closes =>
    refine ⟨Token.op?_eq_none (by simp [opens]), ?_⟩
    have read : rule.read (tokens ++ closing :: rest) = .ok (e, closing :: rest) :=
      inner.complete derives (Nat.le_of_succ_le_succ shallow)
        (Phrase.endsBefore_of_kind (by simp [closes]))
    rw [List.cons_append, List.append_assoc, List.singleton_append, unsigned_leftParen opens]
    exact group_eq_ok.2 ⟨e, closing, read, closes, rfl⟩
  | call derives =>
    cases derives with
    | @withoutArguments name opening closing function opens closes =>
      refine ⟨Token.op?_eq_none (by simp [function]), ?_⟩
      refine (unsigned_function function).trans (call_eq_ok.2
        ⟨opening, closing :: rest, [], closing, rfl, opens, ?_, closes, rfl⟩)
      rw [arguments, if_pos (by simpa using closes)]
    | @withArguments name opening tokens es closing function opens separated closes =>
      refine ⟨Token.op?_eq_none (by simp [function]), ?_⟩
      rw [List.cons_append, List.cons_append, List.append_assoc, List.singleton_append,
        unsigned_function function]
      refine call_eq_ok.2
        ⟨opening, tokens ++ closing :: rest, es, closing, rfl, opens, ?_, closes, rfl⟩
      have ends : Phrase.EndsBefore .expression (Token.current (closing :: rest)) :=
        Phrase.endsBefore_of_kind (by simp [closes])
      rw [arguments_read_append inner separated
          (Expr.nestings_le.1 (Nat.le_of_succ_le_succ shallow)) ends,
        moreArguments_ended (by simp [closes]), List.reverse_reverse]

/-- What is read as an operand without a sign is one. -/
theorem unsigned_sound (inner : rule.Reads levels .expression)
    (read : unsigned rule tokens = .ok (e, rest)) :
    ∃ taken, tokens = taken ++ rest ∧ Derives .unsigned taken e ∧ e.nesting ≤ levels + 1 := by
  cases tokens with
  | nil => cases read
  | cons token tokens =>
    rw [unsigned] at read
    split at read
    · rename_i kind
      cases read
      exact ⟨[token], rfl, .number kind, Nat.le_add_left 1 levels⟩
    · rename_i kind
      cases read
      exact ⟨[token], rfl, .var kind, Nat.le_add_left 1 levels⟩
    · rename_i kind
      obtain ⟨opening, inside, es, closing, rfl, opens, list, closes, rfl⟩ := call_eq_ok.1 read
      rcases arguments_sound inner list with
        ⟨rfl, rfl, _⟩ | ⟨taken, rfl, separated, shallow, _, _⟩
      · exact ⟨[token, opening, closing], rfl, .call (.withoutArguments kind opens closes),
          Nat.le_add_left 1 levels⟩
      · exact ⟨token :: opening :: (taken ++ [closing]), by simp,
          .call (.withArguments kind opens separated closes),
          Nat.succ_le_succ (Expr.nestings_le.2 shallow)⟩
    · rename_i kind
      obtain ⟨e, closing, inside, closes, rfl⟩ := group_eq_ok.1 read
      obtain ⟨taken, rfl, derives, shallow, _⟩ := inner.sound inside
      exact ⟨token :: (taken ++ [closing]), by simp, .grouped kind derives closes,
        Nat.succ_le_succ shallow⟩
    · cases read

/-- Operands that hold given operands are read one level deeper. -/
theorem enclose_reads (operand : rule.Reads levels .operand) :
    (enclose rule).Reads (levels + 1) .operand where
  complete {taken e rest} derives shallow _ := by
    cases derives with
    | @signed token sign tokens e found derives =>
      have read : rule.read (tokens ++ rest) = .ok (e, rest) :=
        operand.complete derives (Nat.le_of_succ_le_succ shallow) (Phrase.operand_endsBefore _)
      simp only [enclose, List.cons_append, Token.current_cons, found, List.tail_cons, read,
        Except.map]
    | unsigned derives =>
      obtain ⟨bare, read⟩ := unsigned_complete (expression_reads operand) derives shallow rest
      rw [enclose_eq_unsigned bare, read]
  sound {tokens e rest} read := by
    simp only [enclose] at read
    split at read
    · rename_i sign found
      obtain ⟨token, tokens, rfl⟩ : ∃ token more, tokens = token :: more := by
        cases tokens with
        | nil => cases found
        | cons token more => exact ⟨token, more, rfl⟩
      cases inner : rule.read tokens with
      | error fault => simp [inner, Except.map] at read
      | ok piece =>
        simp only [List.tail_cons, inner, Except.map, Except.ok.injEq, Prod.mk.injEq] at read
        obtain ⟨rfl, rfl⟩ := read
        obtain ⟨taken, rfl, derives, shallow, _⟩ := operand.sound inner
        exact ⟨token :: taken, rfl, .signed found derives, Nat.succ_le_succ shallow,
          Phrase.operand_endsBefore _⟩
    · obtain ⟨taken, equal, derives, shallow⟩ := unsigned_sound (expression_reads operand) read
      exact ⟨taken, equal, .unsigned derives, shallow, Phrase.operand_endsBefore _⟩

/-- Operands of at most so many levels are read. -/
theorem operand_reads (levels : Nat) : (operand levels).Reads levels .operand := by
  induction levels with
  | zero =>
    exact ⟨fun _ shallow => absurd shallow (Nat.not_le_of_lt (Expr.nesting_pos _)),
      fun read => by cases read⟩
  | succ levels ih => exact enclose_reads ih

end Operands

end Rule

/-! ## Whole token sequences -/

/-- The rule that reads the expressions of at most so many levels. -/
theorem Rule.whole_reads (levels : Nat) :
    (Rule.expression (Rule.operand levels)).Reads levels .expression :=
  Rule.expression_reads (Rule.operand_reads levels)

/-- Tokens stand for one tree at most. -/
theorem Derives.unique {tokens : List Token} {e e' : Expr}
    (derives : Derives .expression tokens e) (derives' : Derives .expression tokens e') :
    e = e' := by
  have reads := Rule.whole_reads (max e.nesting e'.nesting)
  have ends : Phrase.EndsBefore .expression (Token.current []) :=
    Phrase.endsBefore_of_op?_eq_none (Token.op?_finish 0)
  have read := reads.complete derives (Nat.le_max_left _ _) ends
  rw [reads.complete derives' (Nat.le_max_right _ _) ends, Except.ok.injEq, Prod.mk.injEq] at read
  exact read.1.symm

end Reckoner
