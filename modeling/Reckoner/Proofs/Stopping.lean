import Reckoner.Proofs.Reading

/-! # Where reading stops

`Stops levels phrase taken parts wanted token` lists the ways in which reading a phrase within the
levels breaks off: the tokens taken so far begin the phrase, the parts are the trees complete among
them, and the token that comes next is none that is wanted. Exactly these are the faults of the
rules (`Rule.whole_stops`, `Stops.read_eq_error`). The tokens taken can always be completed to a
phrase (`Stops.completed`), whatever comes next. -/

namespace Reckoner

/-- Reading a phrase breaks off before a token. -/
inductive Stops : Nat → Phrase → List Token → List Expr → Wanted → Token → Prop
  /-- No level is left for an operand. -/
  | lessDepth {token} : Stops 0 .operand [] [] .lessDepth token
  /-- No operand begins with the token. -/
  | operand {levels token} : ¬ token.Begins → Stops (levels + 1) .operand [] [] .operand token
  /-- The operand of a sign breaks off. -/
  | signed {levels first sign taken parts wanted token} : first.op?.bind Op.sign? = some sign →
      Stops levels .operand taken parts wanted token →
      Stops (levels + 1) .operand (first :: taken) parts wanted token
  /-- The expression of a group breaks off. -/
  | inGroup {levels opening taken parts wanted token} : opening.kind = .leftParen →
      Stops levels .expression taken parts wanted token →
      Stops (levels + 1) .operand (opening :: taken) parts wanted token
  /-- A group is not closed. -/
  | groupEnd {levels opening taken e token} : opening.kind = .leftParen →
      Derives .expression taken e → e.nesting ≤ levels → Phrase.EndsBefore .expression token →
      token.kind ≠ .rightParen →
      Stops (levels + 1) .operand (opening :: taken) [e] .rightParen token
  /-- The name of a function has no arguments after it. -/
  | callStart {levels name token} : name.kind = .function → token.kind ≠ .leftParen →
      Stops (levels + 1) .operand [name] [] .leftParen token
  /-- The first argument breaks off. -/
  | inFirstArgument {levels name opening taken parts wanted token} : name.kind = .function →
      opening.kind = .leftParen → (Token.current (taken ++ [token])).kind ≠ .rightParen →
      Stops levels .expression taken parts wanted token →
      Stops (levels + 1) .operand (name :: opening :: taken) parts wanted token
  /-- A further argument breaks off. -/
  | inArgument {levels name opening before es comma taken parts wanted token} :
      name.kind = .function → opening.kind = .leftParen →
      Separated (Derives .expression) before es → (∀ e ∈ es, e.nesting ≤ levels) →
      comma.kind = .comma → Stops levels .expression taken parts wanted token →
      Stops (levels + 1) .operand (name :: opening :: (before ++ comma :: taken)) (es ++ parts)
        wanted token
  /-- A call is not closed. -/
  | callEnd {levels name opening taken es token} : name.kind = .function →
      opening.kind = .leftParen → Separated (Derives .expression) taken es →
      (∀ e ∈ es, e.nesting ≤ levels) → Phrase.EndsBefore .expression token →
      token.kind ≠ .comma → token.kind ≠ .rightParen →
      Stops (levels + 1) .operand (name :: opening :: taken) es .rightParen token
  /-- The first part of a chain breaks off. -/
  | inFirst {levels} {level : Level} {taken parts wanted token} :
      Stops levels level.part taken parts wanted token →
      Stops levels level.chain taken parts wanted token
  /-- A further part of a chain breaks off. -/
  | inPart {levels level before left joint op taken parts wanted token} :
      Chain level (Derives level.part) before left → left.nesting ≤ levels →
      joint.op? = some op → op.level = level → Stops levels level.part taken parts wanted token →
      Stops levels level.chain (before ++ joint :: taken) (left :: parts) wanted token

namespace Rule

/-! ## The faults of the rules -/

/-- The faults of a rule are places where reading the phrase breaks off. -/
def Stops (rule : Rule) (levels : Nat) (phrase : Phrase) : Prop :=
  ∀ tokens fault, rule.read tokens = .error fault →
    ∃ taken, tokens = taken ++ fault.rest ∧
      Reckoner.Stops levels phrase taken fault.parts fault.wanted (Token.current fault.rest)

variable {rule : Rule} {levels : Nat} {level : Level} {tokens before : List Token} {fault : Fault}
  {es done : List Expr}

/-- A chain breaks off in the part after one of its operators. -/
theorem extend_stops (reads : rule.Reads levels level.part) (stops : rule.Stops levels level.part)
    {left : Expr} (joined : Chain level (Derives level.part) before left)
    (shallow : left.nesting ≤ levels) (failed : extend rule level left tokens = .error fault) :
    ∃ taken, tokens = taken ++ fault.rest ∧
      Reckoner.Stops levels level.chain (before ++ taken) fault.parts fault.wanted
        (Token.current fault.rest) := by
  fun_induction extend rule level left tokens generalizing before with
  | case1 => cases failed
  | case2 => cases failed
  | case3 left token tokens op found same inner again =>
    -- the part after the operator breaks off
    cases failed
    obtain ⟨taken, rfl, broken⟩ := stops _ _ again
    exact ⟨token :: taken, rfl, .inPart joined shallow found same broken⟩
  | case4 left token tokens op found same right rest again ih =>
    -- the part is read and makes the chain longer, which breaks off later
    obtain ⟨taken, rfl, derives, shallowRight, _⟩ := reads.sound again
    obtain ⟨more, rfl, broken⟩ := ih (joined.joined found same derives)
      (by rw [Expr.nesting]; exact Nat.max_le.2 ⟨shallow, shallowRight⟩) failed
    exact ⟨token :: (taken ++ more), by simp, by simpa using broken⟩
  | case5 => cases failed

/-- Chains break off where their parts do. -/
theorem chain_stops (level : Level) (reads : rule.Reads levels level.part)
    (stops : rule.Stops levels level.part) : (chain level rule).Stops levels level.chain := by
  intro tokens fault failed
  cases first : rule.read tokens with
  | error cause =>
    simp only [chain, first] at failed
    cases failed
    obtain ⟨taken, equal, broken⟩ := stops _ _ first
    exact ⟨taken, equal, .inFirst broken⟩
  | ok piece =>
    simp only [chain, first] at failed
    obtain ⟨taken, rfl, derives, shallow, _⟩ := reads.sound first
    obtain ⟨more, equal, broken⟩ := extend_stops reads stops (.first derives) shallow failed
    exact ⟨taken ++ more, by rw [equal, List.append_assoc], broken⟩

/-- Expressions break off where operands do. -/
theorem expression_stops (reads : rule.Reads levels .operand) (stops : rule.Stops levels .operand) :
    (expression rule).Stops levels .expression :=
  have power := chain_stops .power reads stops
  have product := chain_stops .product (chain_reads .power reads) power
  chain_stops .sum (chain_reads .product (chain_reads .power reads)) product

/-- The arguments of a call that come before a place in them. -/
theorem moreArguments_stops (reads : rule.Reads levels .expression)
    (stops : rule.Stops levels .expression) {name opening : Token}
    (function : name.kind = .function) (opens : opening.kind = .leftParen)
    (separated : Separated (Derives .expression) before done.reverse)
    (shallow : ∀ e ∈ done, e.nesting ≤ levels)
    (failed : moreArguments rule done tokens = .error fault) :
    ∃ taken, tokens = taken ++ fault.rest ∧
      Reckoner.Stops (levels + 1) .operand (name :: opening :: (before ++ taken)) fault.parts
        fault.wanted (Token.current fault.rest) := by
  fun_induction moreArguments rule done tokens generalizing before with
  | case1 => cases failed
  | case2 done token tokens comma inner again =>
    cases failed
    obtain ⟨taken, rfl, broken⟩ := stops _ _ again
    exact ⟨token :: taken, rfl,
      .inArgument function opens separated (by simpa using shallow) comma broken⟩
  | case3 done token tokens comma e rest again ih =>
    obtain ⟨taken, rfl, derives, shallowLast, _⟩ := reads.sound again
    have longer :
        Separated (Derives .expression) (before ++ token :: taken) (e :: done).reverse := by
      rw [List.reverse_cons]
      exact .more separated comma derives
    obtain ⟨more, rfl, broken⟩ := ih longer (List.forall_mem_cons.2 ⟨shallowLast, shallow⟩) failed
    exact ⟨token :: (taken ++ more), by simp, by simpa using broken⟩
  | case4 => cases failed

/-- The arguments of a call break off in one of them. -/
theorem arguments_stops (reads : rule.Reads levels .expression)
    (stops : rule.Stops levels .expression) {name opening : Token}
    (function : name.kind = .function) (opens : opening.kind = .leftParen)
    (failed : arguments rule tokens = .error fault) :
    ∃ taken, tokens = taken ++ fault.rest ∧
      Reckoner.Stops (levels + 1) .operand (name :: opening :: taken) fault.parts fault.wanted
        (Token.current fault.rest) := by
  rw [arguments] at failed
  split at failed
  · cases failed
  · rename_i proper
    cases first : rule.read tokens with
    | error cause =>
      simp only [first] at failed
      cases failed
      obtain ⟨taken, rfl, broken⟩ := stops _ _ first
      refine ⟨taken, rfl, .inFirstArgument function opens ?_ broken⟩
      cases taken <;> exact proper
    | ok piece =>
      simp only [first] at failed
      obtain ⟨taken, rfl, derives, shallow, _⟩ := reads.sound first
      have one : Separated (Derives .expression) taken [piece.1].reverse := .one derives
      obtain ⟨more, equal, broken⟩ :=
        moreArguments_stops reads stops function opens one (by simpa using shallow) failed
      exact ⟨taken ++ more, by rw [equal, List.append_assoc], broken⟩

/-- An operand without a sign breaks off at its first token or inside its parentheses. -/
theorem unsigned_stops (reads : rule.Reads levels .expression)
    (stops : rule.Stops levels .expression)
    (bare : (Token.current tokens).op?.bind Op.sign? = none)
    (failed : unsigned rule tokens = .error fault) :
    ∃ taken, tokens = taken ++ fault.rest ∧
      Reckoner.Stops (levels + 1) .operand taken fault.parts fault.wanted
        (Token.current fault.rest) := by
  cases tokens with
  | nil =>
    cases failed
    exact ⟨[], rfl, .operand (by simp [Token.Begins, Token.finish, Token.op?])⟩
  | cons token tokens =>
    rw [unsigned] at failed
    split at failed
    · cases failed
    · cases failed
    · rename_i function
      rcases call_eq_error.1 failed with
        ⟨other, rfl⟩ | ⟨opening, inside, rfl, opens, failed | ⟨es, rest, list, other, rfl⟩⟩
      · exact ⟨[token], rfl, .callStart function other⟩
      · obtain ⟨taken, rfl, broken⟩ := arguments_stops reads stops function opens failed
        exact ⟨token :: opening :: taken, rfl, broken⟩
      · rcases arguments_sound reads list with
          ⟨_, _, closes⟩ | ⟨taken, rfl, separated, shallow, ends, noComma⟩
        · exact absurd closes other
        · exact ⟨token :: opening :: taken, rfl,
            .callEnd function opens separated shallow ends noComma other⟩
    · rename_i opens
      rcases group_eq_error.1 failed with failed | ⟨e, rest, read, other, rfl⟩
      · obtain ⟨taken, rfl, broken⟩ := stops _ _ failed
        exact ⟨token :: taken, rfl, .inGroup opens broken⟩
      · obtain ⟨taken, rfl, derives, shallow, ends⟩ := reads.sound read
        exact ⟨token :: taken, rfl, .groupEnd opens derives shallow ends other⟩
    · -- what begins like no operand
      rename_i number var function opens
      cases failed
      refine ⟨[], rfl, .operand ?_⟩
      rintro (kind | kind | kind | kind | sign)
      · exact number kind
      · exact var kind
      · exact function kind
      · exact opens kind
      · rw [Token.current_cons] at bare sign
        rw [bare] at sign
        cases sign

/-- Operands that hold given operands break off one level deeper. -/
theorem enclose_stops (reads : rule.Reads levels .operand) (stops : rule.Stops levels .operand) :
    (enclose rule).Stops (levels + 1) .operand := by
  intro tokens fault failed
  simp only [enclose] at failed
  split at failed
  · rename_i sign found
    obtain ⟨token, tokens, rfl⟩ : ∃ token more, tokens = token :: more := by
      cases tokens with
      | nil => cases found
      | cons token more => exact ⟨token, more, rfl⟩
    cases inner : rule.read tokens with
    | ok piece => simp [inner, Except.map] at failed
    | error cause =>
      simp only [List.tail_cons, inner, Except.map, Except.error.injEq] at failed
      subst failed
      obtain ⟨taken, rfl, broken⟩ := stops _ _ inner
      exact ⟨token :: taken, rfl, .signed found broken⟩
  · rename_i bare
    exact unsigned_stops (expression_reads reads) (expression_stops reads stops) bare failed

/-- Operands of at most so many levels break off in one of the ways. -/
theorem operand_stops (levels : Nat) : (operand levels).Stops levels .operand := by
  induction levels with
  | zero =>
    intro tokens fault failed
    cases failed
    exact ⟨[], rfl, .lessDepth⟩
  | succ levels ih => exact enclose_stops (operand_reads levels) ih

/-- Expressions of at most so many levels break off in one of the ways. -/
theorem whole_stops (levels : Nat) : (expression (operand levels)).Stops levels .expression :=
  expression_stops (operand_reads levels) (operand_stops levels)

end Rule

/-! ## Breaking off is a fault -/

namespace Rule

variable {levels : Nat} {token : Token} {tokens : List Token}

/-- A sign takes a level, and its operand has the others. -/
theorem operand_sign {sign : Sign} (found : token.op?.bind Op.sign? = some sign) :
    (operand (levels + 1)).read (token :: tokens) =
      ((operand levels).read tokens).map fun piece =>
        (.signed sign token.position piece.1, piece.2) := by
  simp only [operand, enclose, Token.current_cons, found, List.tail_cons]

/-- An opening parenthesis takes a level, and the group has the others. -/
theorem operand_leftParen (opens : token.kind = .leftParen) :
    (operand (levels + 1)).read (token :: tokens) =
      group (expression (operand levels)) token tokens := by
  have bare : (Token.current (token :: tokens)).op? = none := Token.op?_eq_none (by simp [opens])
  rw [operand, enclose_eq_unsigned bare, unsigned_leftParen opens]

/-- The name of a function takes a level, and the arguments have the others. -/
theorem operand_function (function : token.kind = .function) :
    (operand (levels + 1)).read (token :: tokens) =
      call (expression (operand levels)) token tokens := by
  have bare : (Token.current (token :: tokens)).op? = none :=
    Token.op?_eq_none (by simp [function])
  rw [operand, enclose_eq_unsigned bare, unsigned_function function]

/-- No operand is read where none begins. -/
theorem operand_failed (other : ¬ (Token.current tokens).Begins) :
    (operand (levels + 1)).read tokens = .error ⟨[], .operand, tokens⟩ := by
  have bare : (Token.current tokens).op?.bind Op.sign? = none := by
    rw [← Option.not_isSome_iff_eq_none]
    exact fun sign => other (.inr (.inr (.inr (.inr sign))))
  simp only [operand, enclose, bare]
  cases tokens with
  | nil => rfl
  | cons token tokens =>
    rw [unsigned]
    split
    · rename_i number
      exact absurd (.inl number) other
    · rename_i var
      exact absurd (.inr (.inl var)) other
    · rename_i function
      exact absurd (.inr (.inr (.inl function))) other
    · rename_i opens
      exact absurd (.inr (.inr (.inr (.inl opens)))) other
    · rfl

end Rule

namespace Phrase

/-- The rule for chains and operands of at most so many levels. -/
def rule (levels : Nat) : Phrase → Rule
  | .expression => .expression (.operand levels)
  | .product => .chain .product (.chain .power (.operand levels))
  | .power => .chain .power (.operand levels)
  | _ => .operand levels

/-- The rule for the chains of a level is made from the rule for their parts. -/
theorem rule_chain (levels : Nat) (level : Level) :
    level.chain.rule levels = .chain level (level.part.rule levels) := by
  cases level <;> rfl

/-- The parts of chains are read by their rule. -/
theorem rule_part_reads (levels : Nat) (level : Level) :
    (level.part.rule levels).Reads levels level.part := by
  have operand := Rule.operand_reads levels
  cases level with
  | sum => exact Rule.chain_reads .product (Rule.chain_reads .power operand)
  | product => exact Rule.chain_reads .power operand
  | power => exact operand

end Phrase

namespace Stops

variable {levels : Nat} {phrase : Phrase} {taken : List Token} {parts : List Expr}
  {wanted : Wanted} {token : Token}

/-- Where reading breaks off for want of anything but levels, more levels are of no use. -/
theorem mono (stops : Stops levels phrase taken parts wanted token) (other : wanted ≠ .lessDepth)
    (more : Nat) : Stops (more + levels) phrase taken parts wanted token := by
  have deeper {nesting levels : Nat} (le : nesting ≤ levels) : nesting ≤ more + levels :=
    Nat.le_trans le (Nat.le_add_left levels more)
  induction stops with
  | lessDepth => exact absurd rfl other
  | operand none => exact .operand none
  | signed found _ ih => exact .signed found (ih other)
  | inGroup opens _ ih => exact .inGroup opens (ih other)
  | groupEnd opens derives shallow ends open_ =>
    exact .groupEnd opens derives (deeper shallow) ends open_
  | callStart function open_ => exact .callStart function open_
  | inFirstArgument function opens proper _ ih =>
    exact .inFirstArgument function opens proper (ih other)
  | inArgument function opens separated shallow comma _ ih =>
    exact .inArgument function opens separated (fun e member => deeper (shallow e member)) comma
      (ih other)
  | callEnd function opens separated shallow ends noComma open_ =>
    exact .callEnd function opens separated (fun e member => deeper (shallow e member)) ends noComma
      open_
  | inFirst _ ih => exact .inFirst (ih other)
  | inPart joined shallow found same _ ih =>
    exact .inPart joined (deeper shallow) found same (ih other)

/-- The rules fail where reading breaks off. -/
theorem read_eq_error (stops : Stops levels phrase taken parts wanted token) (rest : List Token)
    (next : Token.current rest = token) :
    (phrase.rule levels).read (taken ++ rest) = .error ⟨parts, wanted, rest⟩ := by
  induction stops with
  | lessDepth => rfl
  | operand other =>
    subst next
    exact Rule.operand_failed other
  | signed found _ ih =>
    have inner : (Rule.operand _).read _ = .error ⟨_, _, rest⟩ := ih next
    rw [List.cons_append]
    refine (Rule.operand_sign found).trans ?_
    rw [inner]
    rfl
  | inGroup opens _ ih =>
    exact (Rule.operand_leftParen opens).trans (Rule.group_eq_error.2 (.inl (ih next)))
  | groupEnd opens derives shallow ends other =>
    subst next
    have read := (Rule.whole_reads _).complete derives shallow ends
    exact (Rule.operand_leftParen opens).trans
      (Rule.group_eq_error.2 (.inr ⟨_, rest, read, other, rfl⟩))
  | callStart function other =>
    subst next
    exact (Rule.operand_function function).trans (Rule.call_eq_error.2 (.inl ⟨other, rfl⟩))
  | @inFirstArgument _ _ _ taken _ _ _ function opens proper _ ih =>
    subst next
    refine (Rule.operand_function function).trans
      (Rule.call_eq_error.2 (.inr ⟨_, taken ++ rest, rfl, opens, .inl ?_⟩))
    have proper : (Token.current (taken ++ rest)).kind ≠ .rightParen := by
      cases taken <;> exact proper
    have failed := ih rfl
    rw [Phrase.rule] at failed
    rw [Rule.arguments, if_neg proper, failed]
  | @inArgument _ _ _ before _ found taken _ _ _ function opens separated shallow comma _ ih =>
    refine (Rule.operand_function function).trans (Rule.call_eq_error.2
      (.inr ⟨_, before ++ found :: taken ++ rest, rfl, opens, .inl ?_⟩))
    rw [List.append_assoc, List.cons_append]
    refine (Rule.arguments_read_append (Rule.whole_reads _) separated shallow
      (Phrase.endsBefore_of_kind (by simp [comma]))).trans ?_
    have failed := ih next
    rw [Phrase.rule] at failed
    rw [Rule.moreArguments_failed comma failed, List.reverse_reverse]
    rfl
  | @callEnd _ _ _ taken _ _ function opens separated shallow ends noComma other =>
    subst next
    refine (Rule.operand_function function).trans (Rule.call_eq_error.2
      (.inr ⟨_, taken ++ rest, rfl, opens, .inr ⟨_, rest, ?_, other, rfl⟩⟩))
    rw [Rule.arguments_read_append (Rule.whole_reads _) separated shallow ends,
      Rule.moreArguments_ended noComma, List.reverse_reverse]
  | inFirst stops ih =>
    rw [Phrase.rule_chain]
    simp only [Rule.chain, ih next]
  | @inPart _ level _ _ joint _ taken _ _ _ joined shallow found same stops ih =>
    have apart : level.part.EndsBefore (Token.current (joint :: (taken ++ rest))) :=
      Phrase.part_endsBefore found same
    rw [Phrase.rule_chain, List.append_assoc, List.cons_append]
    refine (Rule.chain_read_append (Phrase.rule_part_reads _ _) joined shallow apart).trans ?_
    rw [Rule.extend_failed found same (ih next)]
    rfl

/-- What is taken where reading breaks off begins a phrase. -/
theorem completed (stops : Stops levels phrase taken parts wanted token) :
    ∃ more e, Derives phrase (taken ++ more) e := by
  induction stops with
  -- a number completes what has not begun, closing parentheses complete what is open
  | lessDepth => exact ⟨[⟨.number, "0", 0⟩], _, .unsigned (.number rfl)⟩
  | operand _ => exact ⟨[⟨.number, "0", 0⟩], _, .unsigned (.number rfl)⟩
  | signed found _ ih =>
    obtain ⟨more, e, derives⟩ := ih
    exact ⟨more, _, .signed found derives⟩
  | @inGroup _ opening taken _ _ _ opens _ ih =>
    obtain ⟨more, e, derives⟩ := ih
    have closed : Derives .operand (opening :: (taken ++ more ++ [⟨.rightParen, ")", 0⟩])) _ :=
      .unsigned (.grouped opens derives rfl)
    exact ⟨more ++ [⟨.rightParen, ")", 0⟩], _, by simpa using closed⟩
  | @groupEnd _ opening taken _ _ opens derives _ _ _ =>
    have closed : Derives .operand (opening :: (taken ++ [⟨.rightParen, ")", 0⟩])) _ :=
      .unsigned (.grouped opens derives rfl)
    exact ⟨_, _, closed⟩
  | @callStart _ name _ function _ =>
    have closed : Derives .operand (name :: [⟨.leftParen, "(", 0⟩, ⟨.rightParen, ")", 0⟩]) _ :=
      .unsigned (.call (.withoutArguments function rfl rfl))
    exact ⟨_, _, closed⟩
  | @inFirstArgument _ name opening taken _ _ _ function opens _ _ ih =>
    obtain ⟨more, e, derives⟩ := ih
    have closed : Derives .operand
        (name :: opening :: (taken ++ more ++ [⟨.rightParen, ")", 0⟩])) _ :=
      .unsigned (.call (.withArguments function opens (.one derives) rfl))
    exact ⟨more ++ [⟨.rightParen, ")", 0⟩], _, by simpa using closed⟩
  | @inArgument _ name opening before es comma taken _ _ _ function opens separated _ found _ ih =>
    obtain ⟨more, e, derives⟩ := ih
    have closed : Derives .operand
        (name :: opening :: (before ++ comma :: (taken ++ more) ++ [⟨.rightParen, ")", 0⟩])) _ :=
      .unsigned (.call (.withArguments function opens (.more separated found derives) rfl))
    exact ⟨more ++ [⟨.rightParen, ")", 0⟩], _, by simpa using closed⟩
  | @callEnd _ name opening taken _ _ function opens separated _ _ _ _ =>
    have closed : Derives .operand (name :: opening :: (taken ++ [⟨.rightParen, ")", 0⟩])) _ :=
      .unsigned (.call (.withArguments function opens separated rfl))
    exact ⟨_, _, closed⟩
  | inFirst _ ih =>
    obtain ⟨more, e, derives⟩ := ih
    exact ⟨more, e, Derives.chain_iff.2 (.first derives)⟩
  | inPart joined _ found same _ ih =>
    obtain ⟨more, e, derives⟩ := ih
    have longer := Chain.joined joined found same derives
    exact ⟨more, _, Derives.chain_iff.2 (by simpa using longer)⟩

end Stops

end Reckoner
