import Reckoner.Evaluation
import Reckoner.Proofs.Reading

/-! # Evaluating tokens is evaluating their tree

Tokens are read up to the first end of the input. Where they are an expression, their value is that
of its tree, evaluated from left to right within the levels (`evaluateWithin_eq_valueWithin`), and
only there they have a value (`evaluate_refines_grammar`). What is nested too deeply is not read to
its end: `Rule.Cuts` says that the fault which stops reading raises just what the evaluation of the
tree within the levels raises. -/

namespace Reckoner

namespace Fault

variable {σ α β : Type} (scope : Scope σ) (fault : Fault)

/-- Evaluates what is complete before a fault and ends with its diagnostic. -/
def raise : Evaluation σ α := do
  let _ ← Expr.values scope fault.parts
  throw fault.diagnostic

/-- Nothing happens after a fault. -/
@[simp] theorem raise_bind (next : α → Evaluation σ β) :
    (fault.raise scope >>= next) = fault.raise scope := by
  simp [raise]

/-- Nothing happens after a fault. -/
@[simp] theorem map_raise (next : α → β) : (next <$> fault.raise scope) = fault.raise scope := by
  rw [map_eq_pure_bind, raise_bind]

/-- A fault ends with what fails before it or with its own diagnostic. -/
theorem run_raise (memory : σ) : ∃ d memory',
    (fault.raise scope : Evaluation σ α).run.run memory = (.error d, memory') ∧
      ((Expr.values scope fault.parts).run.run memory = (.error d, memory') ∨
        d = fault.diagnostic) := by
  rw [raise, ExceptT.run_bind, StateT.run_bind]
  cases run : (Expr.values scope fault.parts).run.run memory with
  | mk result between =>
    cases result with
    | error d => exact ⟨d, between, rfl, .inl rfl⟩
    | ok values => exact ⟨fault.diagnostic, between, rfl, .inr rfl⟩

end Fault

namespace Expr

variable {σ : Type} (scope : Scope σ)

/-- The values of two lists of trees are those of the first and then those of the second. -/
theorem values_append (es fs : List Expr) :
    values scope (es ++ fs) = do
      let vs ← values scope es
      let ws ← values scope fs
      return vs ++ ws := by
  induction es with
  | nil => simp [values]
  | cons e es ih => simp [values, ih]

/-- The values of two lists of trees are those of the first and then those of the second. -/
theorem valuesWithin_append (levels : Nat) (es fs : List Expr) :
    valuesWithin scope levels (es ++ fs) = do
      let vs ← valuesWithin scope levels es
      let ws ← valuesWithin scope levels fs
      return vs ++ ws := by
  induction es with
  | nil => simp [valuesWithin]
  | cons e es ih => simp [valuesWithin, ih]

end Expr

/-- What stands before a fault is evaluated first. -/
theorem Fault.raise_after {σ α : Type} (scope : Scope σ) (parts : List Expr) (fault : Fault) :
    ((fault.after parts).raise scope : Evaluation σ α) =
      (Expr.values scope parts >>= fun _ => fault.raise scope) := by
  have same : (fault.after parts).diagnostic = fault.diagnostic := rfl
  rw [raise, same]
  simp [raise, after, Expr.values_append]

/-! ## Trees nested too deeply -/

namespace Rule

/-- A phrase that nests deeper than the levels is not read: the rule stops with a fault that raises
what the evaluation of the tree within the levels raises. -/
def Cuts (rule : Rule) (levels : Nat) (phrase : Phrase) : Prop :=
  ∀ taken e rest, Derives phrase taken e → levels < e.nesting →
    phrase.EndsBefore (Token.current rest) →
    ∃ fault, rule.read (taken ++ rest) = .error fault ∧
      ∀ {σ : Type} (scope : Scope σ), e.valueWithin scope levels = fault.raise scope

variable {rule : Rule} {levels : Nat} {level : Level} {taken rest : List Token} {e : Expr}
  {es : List Expr}

/-- A chain of parts is cut in the first part that is nested too deeply. -/
theorem chain_cut (reads : rule.Reads levels level.part) (cuts : rule.Cuts levels level.part)
    (joined : Chain level (Derives level.part) taken e) (deep : levels < e.nesting)
    (ends : level.part.EndsBefore (Token.current rest)) :
    ∃ fault, (chain level rule).read (taken ++ rest) = .error fault ∧
      ∀ {σ : Type} (scope : Scope σ), e.valueWithin scope levels = fault.raise scope := by
  induction joined generalizing rest with
  | first derives =>
    obtain ⟨fault, failed, same⟩ := cuts _ _ _ derives deep ends
    exact ⟨fault, by simp only [chain, failed], same⟩
  | @joined before token op after left right joined found level_eq derives ih =>
    have after_left : level.part.EndsBefore (Token.current (token :: (after ++ rest))) :=
      Phrase.part_endsBefore found level_eq
    by_cases shallow : left.nesting ≤ levels
    · -- the left side is read, and its value comes before the fault of the right side
      rw [Expr.nesting] at deep
      obtain ⟨fault, failed, same⟩ := cuts _ _ _ derives (by omega) ends
      refine ⟨fault.after [left], ?_, fun scope => ?_⟩
      · rw [List.append_assoc, List.cons_append,
          chain_read_append reads joined shallow after_left, extend_failed found level_eq failed]
      · rw [Expr.valueWithin, Expr.valueWithin_eq_value scope shallow, same, Fault.raise_after]
        simp [Expr.values]
    · obtain ⟨fault, failed, same⟩ := ih (by omega) after_left
      refine ⟨fault, by rw [List.append_assoc, List.cons_append, failed], fun scope => ?_⟩
      rw [Expr.valueWithin, same]
      simp

/-- Chains are cut when their parts are. -/
theorem chain_cuts (level : Level) (reads : rule.Reads levels level.part)
    (cuts : rule.Cuts levels level.part) : (chain level rule).Cuts levels level.chain :=
  fun _ _ _ derives deep ends => chain_cut reads cuts (Derives.chain_iff.1 derives) deep ends.part

/-- Expressions are cut when operands are. -/
theorem expression_cuts (reads : rule.Reads levels .operand) (cuts : rule.Cuts levels .operand) :
    (expression rule).Cuts levels .expression :=
  have power := chain_cuts .power reads cuts
  have product := chain_cuts .product (chain_reads .power reads) power
  chain_cuts .sum (chain_reads .product (chain_reads .power reads)) product

/-- Arguments are cut in the first one that is nested too deeply. -/
theorem arguments_cut (reads : rule.Reads levels .expression) (cuts : rule.Cuts levels .expression)
    (separated : Separated (Derives .expression) taken es) (deep : levels < Expr.nestings es)
    (ends : Phrase.EndsBefore .expression (Token.current rest)) :
    ∃ fault, arguments rule (taken ++ rest) = .error fault ∧
      ∀ {σ : Type} (scope : Scope σ), Expr.valuesWithin scope levels es = fault.raise scope := by
  induction separated generalizing rest with
  | @one tokens e derives =>
    rw [Expr.nestings, Expr.nestings, Nat.max_zero] at deep
    obtain ⟨fault, failed, same⟩ := cuts _ _ _ derives deep ends
    obtain ⟨token, more, rfl, begins⟩ := derives.begins
    refine ⟨fault, ?_, fun scope => ?_⟩
    · rw [arguments, if_neg (by simpa using begins.ne_rightParen), failed]
    · simp [Expr.valuesWithin, same]
  | @more before es comma tokens e separated kind derives ih =>
    have after : Phrase.EndsBefore .expression (Token.current (comma :: (tokens ++ rest))) :=
      Phrase.endsBefore_of_kind (by simp [kind])
    by_cases shallow : Expr.nestings es ≤ levels
    · -- the arguments before are read, and their values come before the fault
      have each := Expr.nestings_le.1 shallow
      have last : levels < e.nesting := by
        rw [Expr.nestings_append, Expr.nestings, Expr.nestings] at deep
        omega
      obtain ⟨fault, failed, same⟩ := cuts _ _ _ derives last ends
      refine ⟨fault.after es, ?_, fun scope => ?_⟩
      · rw [List.append_assoc, List.cons_append, arguments_read_append reads separated each after,
          moreArguments_failed kind failed, List.reverse_reverse]
      · rw [Expr.valuesWithin_append, Fault.raise_after, Expr.valuesWithin_eq_values scope
          fun e member => Expr.valueWithin_eq_value scope (each e member)]
        simp [Expr.valuesWithin, same]
    · obtain ⟨fault, failed, same⟩ := ih (by omega) after
      refine ⟨fault, by rw [List.append_assoc, List.cons_append, failed], fun scope => ?_⟩
      rw [Expr.valuesWithin_append, same]
      simp

/-- An operand without a sign is cut where something inside it is. -/
theorem unsigned_cut (reads : rule.Reads levels .expression) (cuts : rule.Cuts levels .expression)
    (derives : Derives .unsigned taken e) (deep : levels + 1 < e.nesting) (rest : List Token) :
    (Token.current (taken ++ rest)).op? = none ∧
      ∃ fault, unsigned rule (taken ++ rest) = .error fault ∧
        ∀ {σ : Type} (scope : Scope σ), e.valueWithin scope (levels + 1) = fault.raise scope := by
  have ends {closing : Token} (closes : closing.kind = .rightParen) :
      Phrase.EndsBefore .expression (Token.current (closing :: rest)) :=
    Phrase.endsBefore_of_kind (by simp [closes])
  cases derives with
  | number kind => exact absurd deep (by simp [Expr.nesting])
  | var kind => exact absurd deep (by simp [Expr.nesting])
  | @grouped opening tokens e closing opens derives closes =>
    refine ⟨Token.op?_eq_none (by simp [opens]), ?_⟩
    obtain ⟨fault, failed, same⟩ :=
      cuts _ _ _ derives (Nat.lt_of_succ_lt_succ deep) (ends closes)
    refine ⟨fault, ?_, fun scope => by rw [Expr.valueWithin, Expr.enter_succ, same]⟩
    rw [List.cons_append, List.append_assoc, List.singleton_append, unsigned_leftParen opens]
    exact group_eq_error.2 (.inl failed)
  | call derives =>
    cases derives with
    | withoutArguments function opens closes =>
      exact absurd deep (by simp [Expr.nesting, Expr.nestings])
    | @withArguments name opening tokens es closing function opens separated closes =>
      refine ⟨Token.op?_eq_none (by simp [function]), ?_⟩
      obtain ⟨fault, failed, same⟩ :=
        arguments_cut reads cuts separated (Nat.lt_of_succ_lt_succ deep) (ends closes)
      refine ⟨fault, ?_, fun scope => ?_⟩
      · rw [List.cons_append, List.cons_append, List.append_assoc, List.singleton_append,
          unsigned_function function]
        exact call_eq_error.2 (.inr ⟨opening, _, rfl, opens, .inl failed⟩)
      · rw [Expr.valueWithin, Expr.enter_succ, same]
        simp

/-- Operands that hold given operands are cut one level deeper. -/
theorem enclose_cuts (reads : rule.Reads levels .operand) (cuts : rule.Cuts levels .operand) :
    (enclose rule).Cuts (levels + 1) .operand := by
  intro taken e rest derives deep _
  cases derives with
  | @signed token sign tokens e found derives =>
    obtain ⟨fault, failed, same⟩ := cuts _ _ rest derives (Nat.lt_of_succ_lt_succ deep)
      (Phrase.operand_endsBefore _)
    refine ⟨fault, ?_, fun scope => ?_⟩
    · simp only [enclose, List.cons_append, Token.current_cons, found, List.tail_cons, failed,
        Except.map]
    · rw [Expr.valueWithin, Expr.enter_succ, same]
      simp
  | unsigned derives =>
    obtain ⟨bare, fault, failed, same⟩ :=
      unsigned_cut (expression_reads reads) (expression_cuts reads cuts) derives deep rest
    exact ⟨fault, by rw [enclose_eq_unsigned bare, failed], same⟩

end Rule

/-- Without levels left an operand fails at its first token. -/
theorem Derives.valueWithin_zero {σ : Type} (scope : Scope σ) {taken : List Token} {e : Expr}
    (derives : Derives .operand taken e) (rest : List Token) :
    e.valueWithin scope 0 =
      throw ⟨.nestedTooDeeply, (Token.current (taken ++ rest)).position⟩ := by
  cases derives with
  | signed => rfl
  | unsigned derives =>
    cases derives with
    | number => rfl
    | var => rfl
    | grouped => rfl
    | call derives => cases derives <;> rfl

/-- Operands that nest deeper than the levels are cut. -/
theorem Rule.operand_cuts (levels : Nat) : (Rule.operand levels).Cuts levels .operand := by
  induction levels with
  | zero =>
    intro taken e rest derives _ _
    refine ⟨_, rfl, fun scope => ?_⟩
    rw [derives.valueWithin_zero scope rest]
    simp [Fault.raise, Fault.diagnostic, Expr.values]
  | succ levels ih => exact Rule.enclose_cuts (Rule.operand_reads levels) ih

/-- The rule for whole expressions cuts those that nest too deeply. -/
theorem Rule.whole_cuts (levels : Nat) :
    (Rule.expression (Rule.operand levels)).Cuts levels .expression :=
  Rule.expression_cuts (Rule.operand_reads levels) (Rule.operand_cuts levels)

/-! ## Token sequences -/

/-- The trees read are those that the tokens before the end of the input stand for, if they nest no
deeper than the levels. -/
theorem Expr.ofTokens_eq_ok {levels : Nat} {tokens : List Token} {e : Expr} :
    Expr.ofTokens levels tokens = .ok e ↔
      Derives .expression (Token.beforeEnd tokens) e ∧ e.nesting ≤ levels := by
  have reads := Rule.whole_reads levels
  simp only [Expr.ofTokens, bind_eq_ok, Prod.exists]
  constructor
  · rintro ⟨e', rest, read, finish⟩
    by_cases ends : (Token.current rest).kind = .endOfInput
    · rw [if_pos ends] at finish
      cases finish
      obtain ⟨taken, rfl, derives, shallow, _⟩ := reads.sound read
      rw [Token.beforeEnd_append derives.kind_ne_endOfInput ends]
      exact ⟨derives, shallow⟩
    · rw [if_neg ends] at finish
      cases finish
  · rintro ⟨derives, shallow⟩
    have ends := Token.current_fromEnd tokens
    have read : _ = Except.ok (e, Token.fromEnd tokens) :=
      reads.complete derives shallow (Phrase.endsBefore_of_kind (by simp [ends]))
    rw [Token.beforeEnd_append_fromEnd] at read
    exact ⟨e, _, read, if_pos ends⟩

variable {σ : Type} (scope : Scope σ)

/-- Tokens that are an expression have the value of its tree. -/
theorem evaluateWithin_eq_valueWithin {levels : Nat} {tokens : List Token} {e : Expr}
    (derives : Derives .expression (Token.beforeEnd tokens) e) :
    evaluateWithin levels scope tokens = e.valueWithin scope levels := by
  by_cases shallow : e.nesting ≤ levels
  · have read := Expr.ofTokens_eq_ok.2 ⟨derives, shallow⟩
    rw [evaluateWithin, read, Expr.valueWithin_eq_value scope shallow]
  · have ends := Token.current_fromEnd tokens
    obtain ⟨fault, failed, same⟩ := Rule.whole_cuts levels _ _ (Token.fromEnd tokens) derives
      (Nat.lt_of_not_le shallow) (Phrase.endsBefore_of_kind (by simp [ends]))
    rw [Token.beforeEnd_append_fromEnd] at failed
    have failed : Expr.ofTokens levels tokens = .error fault := bind_eq_error.2 (.inl failed)
    rw [evaluateWithin, failed, same]
    rfl

/-- A fault gives no value. -/
theorem Fault.raise_ne_ok (fault : Fault) (memory memory' : σ) (v : Float) :
    (fault.raise scope).run.run memory ≠ (.ok v, memory') := by
  intro valued
  obtain ⟨d, between, failed, _⟩ := fault.run_raise scope memory
  rw [failed] at valued
  cases valued

/-- Tokens have a value only where they are read as a tree, and then it is the tree's. -/
theorem evaluateWithin_eq_ok {levels : Nat} {tokens : List Token} {v : Float}
    {memory memory' : σ} :
    (evaluateWithin levels scope tokens).run.run memory = (.ok v, memory') ↔
      ∃ e, Derives .expression (Token.beforeEnd tokens) e ∧ e.nesting ≤ levels ∧
        (e.value scope).run.run memory = (.ok v, memory') := by
  cases read : Expr.ofTokens levels tokens with
  | error fault =>
    have raised : evaluateWithin levels scope tokens = fault.raise scope := by
      rw [evaluateWithin, read]
      rfl
    rw [raised]
    refine iff_of_false (fault.raise_ne_ok scope memory memory' v) ?_
    rintro ⟨e, derives, shallow, _⟩
    rw [Expr.ofTokens_eq_ok.2 ⟨derives, shallow⟩] at read
    cases read
  | ok e =>
    have value : evaluateWithin levels scope tokens = e.value scope := by
      rw [evaluateWithin, read]
    rw [value]
    obtain ⟨derives, shallow⟩ := Expr.ofTokens_eq_ok.1 read
    constructor
    · exact fun valued => ⟨e, derives, shallow, valued⟩
    · rintro ⟨e', derives', _, valued⟩
      rwa [derives.unique derives']

/-- **Evaluating tokens refines the grammar and the evaluation of its trees.** The tokens before the
end of the input stand for one tree at most. Tokens have a value exactly when they stand for a tree
that nests no deeper than the limit and has the value. Whatever tree they stand for, evaluating them
is evaluating the tree from left to right within the limit, and simply evaluating it where it nests
no deeper. -/
theorem evaluate_refines_grammar (tokens : List Token) :
    (∀ (memory memory' : σ) (v : Float),
      (evaluate scope tokens).run.run memory = (.ok v, memory') ↔
        ∃ e, Derives .expression (Token.beforeEnd tokens) e ∧ e.nesting ≤ maxLevels ∧
          (e.value scope).run.run memory = (.ok v, memory')) ∧
      (∀ e e', Derives .expression (Token.beforeEnd tokens) e →
        Derives .expression (Token.beforeEnd tokens) e' → e = e') ∧
      (∀ e, Derives .expression (Token.beforeEnd tokens) e →
        evaluate scope tokens = e.valueWithin scope maxLevels ∧
        (e.nesting ≤ maxLevels → evaluate scope tokens = e.value scope)) := by
  refine ⟨fun memory memory' v => evaluateWithin_eq_ok scope, fun e e' => Derives.unique, ?_⟩
  intro e derives
  have same : evaluate scope tokens = e.valueWithin scope maxLevels :=
    evaluateWithin_eq_valueWithin scope derives
  refine ⟨same, fun shallow => ?_⟩
  rw [same, Expr.valueWithin_eq_value scope shallow]

end Reckoner
