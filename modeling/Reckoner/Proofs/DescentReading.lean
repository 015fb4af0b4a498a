import Reckoner.Proofs.Descent

/-! # Descending is reading and evaluating

Evaluating tokens by descent is reading them and evaluating what has been read
(`Descent.evaluate_eq_evaluateWithin`): the value of a tree is made as soon as its last token is
taken, and a failure comes before whatever is wrong with the tokens after it. A computation that
gives a value and the tokens after it describes a part of an evaluation if, whatever frames are
below, the evaluation comes to leave the part with just that (`Follows`). For every procedure this
is the computation that `readValue` makes of what the rule reads. -/

namespace Reckoner.Descent

open Evaluation

variable {σ : Type} {limit : ℕ∞} {scope : Scope σ}

/-- The value of what has been read and the tokens after it. Where nothing could be read, what is
complete before the fault is evaluated and the fault raised. -/
def readValue (scope : Scope σ) :
    Except Fault (Expr × List Token) → Evaluation σ (Float × List Token)
  | .ok (e, rest) => do
    let v ← e.value scope
    return (v, rest)
  | .error fault => fault.raise scope

/-! ## Parts of an evaluation -/

/-- From the states, whatever frames are below and whatever the memory, the evaluation comes to
leave with what the computation ends with. -/
structure Follows (limit : ℕ∞) (scope : Scope σ) (begin : List Frame → σ → State σ) (depth : Nat)
    (x : Evaluation σ (Float × List Token)) : Prop where
  value : ∀ {frames memory v rest memory'}, x.run.run memory = (.ok (v, rest), memory') →
    Runs limit scope (begin frames memory) ⟨.leave (.ok v), frames, rest, depth, memory'⟩
  failure : ∀ {frames memory d memory'}, x.run.run memory = (.error d, memory') →
    ∃ rest, Runs limit scope (begin frames memory) ⟨.leave (.error d), frames, rest, depth, memory'⟩

/-- The states that enter a procedure. -/
def entering (procedure : Procedure) (tokens : List Token) (depth : Nat) (frames : List Frame)
    (memory : σ) : State σ :=
  ⟨.enter procedure, frames, tokens, depth, memory⟩

namespace Follows

variable {begin : List Frame → σ → State σ} {depth depth' : Nat} {rest tokens : List Token}
  {x : Evaluation σ (Float × List Token)} {e : Expr} {f : Float → Evaluation σ (Float × List Token)}
  {fault : Fault}

/-- A step may come before. -/
theorem step {begin' : List Frame → σ → State σ}
    (stepped : ∀ frames memory,
      Descent.step limit scope (begin frames memory) = .inl (begin' frames memory))
    (follows : Follows limit scope begin' depth x) : Follows limit scope begin depth x where
  value ran := .head (stepped _ _) (follows.value ran)
  failure ran := by
    obtain ⟨rest, runs⟩ := follows.failure ran
    exact ⟨rest, .head (stepped _ _) runs⟩

/-- Only the states matter. -/
theorem congr {begin' : List Frame → σ → State σ}
    (same : ∀ frames memory, begin frames memory = begin' frames memory)
    (follows : Follows limit scope begin' depth x) : Follows limit scope begin depth x := by
  have equal : begin = begin' := funext fun frames => funext fun memory => same frames memory
  rwa [equal]

/-- What is left with a value follows the value. -/
theorem pure (v : Float) :
    Follows limit scope (fun frames memory => ⟨.leave (.ok v), frames, rest, depth, memory⟩) depth
      (Pure.pure (v, rest)) where
  value ran := by
    cases ran
    exact .refl
  failure ran := by cases ran

/-- What is left with a failure follows the failure. -/
theorem throw (d : Diagnostic) (rest : List Token) :
    Follows limit scope (fun frames memory => ⟨.leave (.error d), frames, rest, depth, memory⟩)
      depth (MonadExcept.throw d) where
  value ran := by cases ran
  failure ran := by
    cases ran
    exact ⟨rest, .refl⟩

/-- What is left with the result of a computation follows the computation. -/
theorem computed (y : Evaluation σ Float) (rest : List Token) :
    Follows limit scope (fun frames memory =>
      ⟨.leave (y.run.run memory).1, frames, rest, depth, (y.run.run memory).2⟩) depth
      (y >>= fun v => Pure.pure (v, rest)) where
  value := by
    intro frames memory v rest' memory' ran
    obtain ⟨w, between, first, second⟩ := run_bind_eq_ok.1 ran
    cases second
    rw [first]
  failure := by
    intro frames memory d memory' ran
    rcases run_bind_eq_error.1 ran with failed | ⟨w, between, _, second⟩
    · rw [failed]
      exact ⟨rest, .refl⟩
    · cases second

/-- A procedure that waits for what fails is left. -/
theorem under_fault (frame : Frame) (counted : depth' - frame.counted = depth)
    (inner : Follows limit scope (entering frame.inner tokens depth') depth'
      (readValue scope (.error fault))) :
    Follows limit scope (fun frames => entering frame.inner tokens depth' (frame :: frames)) depth
      (readValue scope (.error fault)) where
  value := by
    intro frames memory v rest memory' ran
    obtain ⟨d, between, failed, _⟩ := @Fault.run_raise σ (Float × List Token) scope fault memory
    rw [readValue, failed] at ran
    cases ran
  failure := by
    intro frames memory d memory' ran
    obtain ⟨rest, runs⟩ := @inner.failure (frame :: frames) _ _ _ ran
    subst counted
    refine ⟨rest, runs.tail ?_⟩
    cases frame <;> rfl

/-- A procedure that waits for the value of what is read goes on with the value. -/
theorem under (frame : Frame) (counted : depth' - frame.counted = depth)
    (inner : Follows limit scope (entering frame.inner tokens depth') depth'
      (readValue scope (.ok (e, rest))))
    (next : ∀ v, Follows limit scope
      (fun frames memory => resume scope v ⟨.leave (.ok v), frames, rest, depth', memory⟩ frame)
      depth (f v)) :
    Follows limit scope (fun frames => entering frame.inner tokens depth' (frame :: frames)) depth
      (e.value scope >>= f) where
  value := by
    intro frames memory v rest' memory' ran
    obtain ⟨w, between, first, second⟩ := run_bind_eq_ok.1 ran
    have runs := @inner.value (frame :: frames) memory w rest between
      (run_bind_eq_ok.2 ⟨w, between, first, rfl⟩)
    exact (runs.tail rfl).trans ((next w).value second)
  failure := by
    intro frames memory d memory' ran
    rcases run_bind_eq_error.1 ran with failed | ⟨w, between, first, second⟩
    · obtain ⟨rest, runs⟩ := @inner.failure (frame :: frames) memory d memory'
        (run_bind_eq_error.2 (.inl failed))
      subst counted
      refine ⟨rest, runs.tail ?_⟩
      cases frame <;> rfl
    · have runs := @inner.value (frame :: frames) memory w rest between
        (run_bind_eq_ok.2 ⟨w, between, first, rfl⟩)
      obtain ⟨rest', later⟩ := @Follows.failure _ _ _ _ _ _ (next w) frames _ _ _ second
      exact ⟨rest', (runs.tail rfl).trans later⟩

end Follows

/-! ## Chains -/

/-- At the depth the procedure describes what the rule reads. -/
def Agrees (limit : ℕ∞) (scope : Scope σ) (procedure : Procedure) (depth : Nat)
    (read : List Token → Except Fault (Expr × List Token)) : Prop :=
  ∀ tokens, Follows limit scope (entering procedure tokens depth) depth
    (readValue scope (read tokens))

section Rules

variable {rule : Rule} {level : Level} {depth : Nat} {tokens : List Token}

/-- What is complete before a fault is evaluated before what is complete after it. -/
theorem readValue_after_singleton (left : Expr) (fault : Fault) :
    readValue scope (.error (fault.after [left])) =
      left.value scope >>= fun _ => readValue scope (.error fault) := by
  rw [readValue, Fault.raise_after]
  simp [Expr.values, readValue]

/-- A chain goes on with the value of its left side, whatever tree has the value. -/
theorem exists_follows_extend (agrees : Agrees limit scope (.part level) depth rule.read)
    (left : Expr) (tokens : List Token) :
    ∃ tail : Float → Evaluation σ (Float × List Token),
      readValue scope (Rule.extend rule level left tokens) = left.value scope >>= tail ∧
      ∀ mode v, Follows limit scope
        (fun frames memory => goOn level v ⟨mode, frames, tokens, depth, memory⟩) depth
        (tail v) := by
  fun_induction Rule.extend rule level left tokens with
  | case1 left => exact ⟨fun v => pure (v, []), rfl, fun mode v => .pure v⟩
  | case2 left token tokens none =>
    refine ⟨fun v => pure (v, token :: tokens), rfl, fun mode v => ?_⟩
    simp only [goOn, Token.current_cons, none]
    exact .pure v
  | case3 left token tokens op found same fault failed =>
    refine ⟨fun _ => readValue scope (.error fault), readValue_after_singleton left fault,
      fun mode v => ?_⟩
    simp only [goOn, Token.current_cons, found, same, if_true]
    have inner := agrees tokens
    rw [failed] at inner
    exact inner.under_fault (.next level v op token.position) rfl
  | case4 left token tokens op found same right rest read ih =>
    obtain ⟨tail, equal, follows⟩ := ih
    refine ⟨fun v => right.value scope >>= fun r =>
      ofExcept (op.apply token.position v r) >>= tail, ?_, fun mode v => ?_⟩
    · rw [equal, Expr.value]
      simp only [bind_assoc]
    · simp only [goOn, Token.current_cons, found, same, if_true]
      have inner := agrees tokens
      rw [read] at inner
      refine inner.under (.next level v op token.position) rfl fun r => ?_
      simp only [resume]
      cases op.apply token.position v r with
      | ok joined => exact follows _ joined
      | error d => exact .throw d rest
  | case5 left token tokens op found other =>
    refine ⟨fun v => pure (v, token :: tokens), rfl, fun mode v => ?_⟩
    simp only [goOn, Token.current_cons, found, other, if_false]
    exact .pure v

/-- Chains agree when their parts do. -/
theorem chain_agrees (level : Level) (agrees : Agrees limit scope (.part level) depth rule.read) :
    Agrees limit scope (.chain level) depth (Rule.chain level rule).read := by
  intro tokens
  have inner := agrees tokens
  refine .step (fun _ _ => rfl) ?_
  simp only [Rule.chain]
  cases first : rule.read tokens with
  | error fault =>
    rw [first] at inner
    exact inner.under_fault (.first level) rfl
  | ok piece =>
    obtain ⟨left, rest⟩ := piece
    rw [first] at inner
    obtain ⟨tail, equal, follows⟩ := exists_follows_extend agrees left rest
    simp only [equal]
    exact inner.under (.first level) rfl fun v => follows _ v

/-- Expressions agree when operands do. -/
theorem expression_agrees (agrees : Agrees limit scope .operand depth rule.read) :
    Agrees limit scope (.chain .sum) depth (Rule.expression rule).read :=
  chain_agrees .sum (chain_agrees .product (chain_agrees .power agrees))

/-! ## Calls and groups -/

/-- A group agrees when the expression in it does. -/
theorem group_agrees (agrees : Agrees limit scope (.chain .sum) depth rule.read) (opening : Token)
    (tokens : List Token) :
    Follows limit scope (fun frames => entering (.chain .sum) tokens depth (.group :: frames)) depth
      (readValue scope (Rule.group rule opening tokens)) := by
  have inner := agrees tokens
  cases read : rule.read tokens with
  | error fault =>
    rw [Rule.group_eq_error.2 (.inl read)]
    rw [read] at inner
    exact inner.under_fault .group rfl
  | ok piece =>
    obtain ⟨e, rest⟩ := piece
    rw [read] at inner
    by_cases closes : (Token.current rest).kind = .rightParen
    · have some : (Token.current rest).kind ≠ .endOfInput := by simp [closes]
      obtain ⟨closing, rest, rfl⟩ := exists_eq_cons some
      rw [Rule.group_eq_ok.2 ⟨e, closing, read, closes, rfl⟩]
      refine inner.under .group rfl fun v => ?_
      exact .congr (fun _ _ => if_pos closes) (.pure v)
    · rw [Rule.group_eq_error.2 (.inr ⟨e, rest, read, closes, rfl⟩)]
      have raised : readValue scope (.error ⟨[e], .rightParen, rest⟩) =
          e.value scope >>= fun _ =>
            throw ⟨.missingRightParen, (Token.current rest).position⟩ := by
        simp [readValue, Fault.raise, Fault.diagnostic, Expr.values]
      rw [raised]
      refine inner.under .group rfl fun v => ?_
      exact .congr (fun _ _ => if_neg closes)
        (.throw ⟨.missingRightParen, (Token.current rest).position⟩ rest)

/-- What is read of a call when its arguments are read. -/
def closeCall (name : Token) (es : List Expr) (rest : List Token) :
    Except Fault (Expr × List Token) := do
  let rest ← Rule.expect .rightParen .rightParen es rest
  return (.call name.text name.position es, rest)

/-- A function is called with the values of the arguments, whatever trees have them. -/
theorem exists_follows_invoke (limit : ℕ∞) (scope : Scope σ) (name : Token) (es : List Expr)
    (rest : List Token) (depth : Nat) :
    ∃ tail : List Float → Evaluation σ (Float × List Token),
      readValue scope (closeCall name es rest) = Expr.values scope es >>= tail ∧
      ∀ mode vs, Follows limit scope
        (fun frames memory => invoke scope name vs ⟨mode, frames, rest, depth, memory⟩) depth
        (tail vs) := by
  by_cases closes : (Token.current rest).kind = .rightParen
  · have some : (Token.current rest).kind ≠ .endOfInput := by simp [closes]
    obtain ⟨closing, rest, rfl⟩ := exists_eq_cons some
    have read : closeCall name es (closing :: rest) =
        .ok (.call name.text name.position es, rest) :=
      bind_eq_ok.2 ⟨rest, Rule.expect_eq_ok.2 ⟨closing, rfl, closes⟩, rfl⟩
    refine ⟨fun vs => scope.call name.text name.position vs >>= fun v => pure (v, rest), ?_,
      fun mode vs => ?_⟩
    · rw [read, readValue, Expr.value]
      simp only [bind_assoc]
    · exact .congr (fun _ _ => if_pos closes)
        (.computed (scope.call name.text name.position vs) rest)
  · have read : closeCall name es rest = .error ⟨es, .rightParen, rest⟩ :=
      bind_eq_error.2 (.inl ((Rule.expect_eq_error (by decide)).2 ⟨closes, rfl⟩))
    refine ⟨fun _ => throw ⟨.missingRightParen, (Token.current rest).position⟩, ?_,
      fun mode vs => ?_⟩
    · rw [read]
      rfl
    · exact .congr (fun _ _ => if_neg closes)
        (.throw ⟨.missingRightParen, (Token.current rest).position⟩ rest)

/-- A call goes on with the values of its arguments, whatever trees have them. -/
theorem exists_follows_moreArguments (agrees : Agrees limit scope (.chain .sum) depth rule.read)
    (name : Token) (done : List Expr) (tokens : List Token) :
    ∃ tail : List Float → Evaluation σ (Float × List Token),
      readValue scope (Rule.moreArguments rule done tokens >>= fun piece =>
          closeCall name piece.1 piece.2) =
        Expr.values scope done.reverse >>= tail ∧
      ∀ mode vs, Follows limit scope
        (fun frames memory => goOnArguments scope name vs ⟨mode, frames, tokens, depth, memory⟩)
        depth (tail vs.reverse) := by
  fun_induction Rule.moreArguments rule done tokens with
  | case1 done =>
    obtain ⟨tail, equal, follows⟩ := exists_follows_invoke limit scope name done.reverse [] depth
    exact ⟨tail, equal, fun mode vs => follows mode vs.reverse⟩
  | case2 done token tokens comma fault failed =>
    refine ⟨fun _ => readValue scope (.error fault), ?_, fun mode vs => ?_⟩
    · exact Fault.raise_after scope done.reverse fault
    · have inner := agrees tokens
      rw [failed] at inner
      exact .congr (fun _ _ => if_pos comma) (inner.under_fault (.argument name vs) rfl)
  | case3 done token tokens comma e rest read ih =>
    obtain ⟨tail, equal, follows⟩ := ih
    refine ⟨fun vs => e.value scope >>= fun v => tail (vs ++ [v]), ?_, fun mode vs => ?_⟩
    · rw [equal, List.reverse_cons, Expr.values_append]
      simp [Expr.values]
    · have inner := agrees tokens
      rw [read] at inner
      refine .congr (fun _ _ => if_pos comma) (inner.under (.argument name vs) rfl fun v => ?_)
      rw [← List.reverse_cons]
      exact follows _ (v :: vs)
  | case4 done token tokens other =>
    obtain ⟨tail, equal, follows⟩ :=
      exists_follows_invoke limit scope name done.reverse (token :: tokens) depth
    exact ⟨tail, equal, fun mode vs => .congr (fun _ _ => if_neg other) (follows mode vs.reverse)⟩

/-- A call agrees when expressions do. -/
theorem call_agrees (agrees : Agrees limit scope (.chain .sum) depth rule.read) (name : Token)
    (tokens : List Token) :
    Follows limit scope (entering .call (name :: tokens) depth) depth
      (readValue scope (Rule.call rule name tokens)) := by
  refine .step (fun _ _ => rfl) ?_
  by_cases opens : (Token.current tokens).kind = .leftParen
  · have some : (Token.current tokens).kind ≠ .endOfInput := by simp [opens]
    obtain ⟨opening, inside, rfl⟩ := exists_eq_cons some
    have passed : Rule.expect .leftParen .leftParen [] (opening :: inside) = .ok inside :=
      Rule.expect_eq_ok.2 ⟨opening, rfl, opens⟩
    have call : Rule.call rule name (opening :: inside) =
        Rule.arguments rule inside >>= fun piece => closeCall name piece.1 piece.2 := by
      rw [Rule.call, passed]
      rfl
    rw [call, Rule.arguments]
    by_cases closes : (Token.current inside).kind = .rightParen
    · obtain ⟨tail, equal, follows⟩ := exists_follows_invoke limit scope name [] inside depth
      have last : (Except.ok ([], inside) >>= fun piece : List Expr × List Token =>
          closeCall name piece.1 piece.2) = closeCall name [] inside := rfl
      rw [if_pos closes, last, equal]
      exact .congr (fun _ _ => (if_pos opens).trans (if_pos closes)) (follows _ [])
    · rw [if_neg closes]
      refine .congr (fun _ _ => (if_pos opens).trans (if_neg closes)) ?_
      have inner := agrees inside
      cases read : rule.read inside with
      | error fault =>
        rw [read] at inner
        exact inner.under_fault (.argument name []) rfl
      | ok piece =>
        obtain ⟨e, rest⟩ := piece
        rw [read] at inner
        obtain ⟨tail, equal, follows⟩ := exists_follows_moreArguments agrees name [e] rest
        have first : readValue scope (Rule.moreArguments rule [e] rest >>= fun piece =>
            closeCall name piece.1 piece.2) = e.value scope >>= fun v => tail [v] := by
          rw [equal]
          simp [Expr.values]
        simp only [first]
        exact inner.under (.argument name []) rfl fun v => follows _ [v]
  · have call : Rule.call rule name tokens = .error ⟨[], .leftParen, tokens⟩ :=
      Rule.call_eq_error.2 (.inl ⟨opens, rfl⟩)
    rw [call]
    exact .congr (fun _ _ => if_neg opens)
      (.throw ⟨.unexpected (Token.current tokens).kind, (Token.current tokens).position⟩ tokens)

/-! ## Operands -/

/-- A procedure that only waits for another one agrees with it. -/
theorem Follows.through {depth' : Nat} {read : Except Fault (Expr × List Token)} (frame : Frame)
    (counted : depth' - frame.counted = depth)
    (passes : ∀ v frames rest memory, resume scope v ⟨.leave (.ok v), frames, rest, depth', memory⟩
      frame = ⟨.leave (.ok v), frames, rest, depth, memory⟩)
    (inner : Follows limit scope (entering frame.inner tokens depth') depth'
      (readValue scope read)) :
    Follows limit scope (fun frames => entering frame.inner tokens depth' (frame :: frames)) depth
      (readValue scope read) := by
  cases read with
  | error fault => exact inner.under_fault frame counted
  | ok piece =>
    exact inner.under frame counted fun v => .congr (fun _ _ => passes v _ _ _) (.pure v)

/-- Unsigned operands agree when expressions do. -/
theorem unsigned_agrees (agrees : Agrees limit scope (.chain .sum) depth rule.read) :
    Agrees limit scope .unsigned depth (Rule.unsigned rule) := by
  intro tokens
  refine .step (fun _ _ => rfl) ?_
  cases tokens with
  | nil => exact .throw ⟨.unexpected .endOfInput, 0⟩ []
  | cons token tokens =>
    have atom (result : Except Diagnostic Float) : Follows limit scope
        (fun frames memory => ⟨.leave result, frames, tokens, depth, memory⟩) depth
        (ofExcept result >>= fun v => pure (v, tokens)) := by
      cases result with
      | ok v => exact .pure v
      | error d => exact .throw d tokens
    have refused : readValue scope (.error ⟨[], .operand, token :: tokens⟩) =
        throw ⟨.unexpected token.kind, token.position⟩ := rfl
    simp only [enter, enterUnsigned, entering, Rule.unsigned, Token.current_cons]
    cases kind : token.kind with
    | number =>
      simp only [readValue, Expr.value]
      exact atom (Scope.literal token.text token.position)
    | «variable» =>
      simp only [readValue, Expr.value]
      exact atom (scope.lookup token.text token.position)
    | function => exact .through .callee rfl (fun _ _ _ _ => rfl) (call_agrees agrees token tokens)
    | leftParen => exact group_agrees agrees token tokens
    | _ =>
      simp only [refused, kind]
      exact .throw _ (token :: tokens)

/-- Signed operands agree when the operands in them do. -/
theorem enclose_agrees (agrees : Agrees limit scope .operand depth rule.read) :
    Agrees limit scope .signed depth (Rule.enclose rule).read := by
  intro tokens
  refine .step (fun _ _ => rfl) ?_
  simp only [enter, entering, Rule.enclose]
  cases found : (Token.current tokens).op?.bind Op.sign? with
  | none =>
    exact .through .plain rfl (fun _ _ _ _ => rfl)
      (unsigned_agrees (expression_agrees agrees) tokens)
  | some sign =>
    have inner := agrees tokens.tail
    cases read : rule.read tokens.tail with
    | error fault =>
      rw [read] at inner
      exact inner.under_fault (.sign sign) rfl
    | ok piece =>
      obtain ⟨e, rest⟩ := piece
      rw [read] at inner
      have signed : readValue scope (.ok (.signed sign (Token.current tokens).position e, rest)) =
          e.value scope >>= fun v => pure (sign.apply v, rest) := by
        simp [readValue, Expr.value]
      simp only [Except.map, signed]
      exact inner.under (.sign sign) rfl fun v => .pure (sign.apply v)

/-- Operands of at most so many levels agree where so many are left below the limit. -/
theorem operand_agrees {limit : Nat} (scope : Scope σ) {levels depth : Nat}
    (left : depth + levels = limit) :
    Agrees limit scope .operand depth (Rule.operand levels).read := by
  induction levels generalizing depth with
  | zero =>
    intro tokens
    have full : (depth : ℕ∞) = limit := congrArg Nat.cast left
    refine .step (fun _ _ => rfl) (.congr (fun _ _ => if_pos full) ?_)
    exact .throw ⟨.nestedTooDeeply, (Token.current tokens).position⟩ tokens
  | succ levels ih =>
    intro tokens
    have free : (depth : ℕ∞) ≠ limit := by
      rw [Ne, Nat.cast_inj]
      omega
    have inner := enclose_agrees (ih (by omega : depth + 1 + levels = limit)) tokens
    refine .step (fun _ _ => rfl) (.congr (fun _ _ => if_neg free) ?_)
    exact .through .operand rfl (fun _ _ _ _ => rfl) inner

end Rules

/-! ## Token sequences -/

/-- What comes after an expression is complained about when the expression has been evaluated. -/
theorem evaluateWithin_eq_bind (levels : Nat) (scope : Scope σ) (tokens : List Token) :
    evaluateWithin levels scope tokens =
      readValue scope ((Rule.expression (Rule.operand levels)).read tokens) >>= fun piece =>
        if (Token.current piece.2).kind = .endOfInput then pure piece.1
        else throw ⟨.trailing (Token.current piece.2).kind, (Token.current piece.2).position⟩ := by
  cases read : (Rule.expression (Rule.operand levels)).read tokens with
  | error fault =>
    have failed : Expr.ofTokens levels tokens = .error fault := bind_eq_error.2 (.inl read)
    rw [evaluateWithin, failed, readValue, Fault.raise_bind]
    rfl
  | ok piece =>
    obtain ⟨e, rest⟩ := piece
    have whole : Expr.ofTokens levels tokens =
        if (Token.current rest).kind = .endOfInput then .ok e
        else .error ⟨[e], .finish, rest⟩ := by
      rw [Expr.ofTokens, read]
      rfl
    rw [evaluateWithin, whole]
    by_cases ends : (Token.current rest).kind = .endOfInput
    · simp [readValue, ends]
    · simp [readValue, ends, Expr.values, Fault.diagnostic]

/-- **Descending is reading and evaluating.** Evaluating tokens by descent within a limit gives the
same value, the same diagnostic and the same memory as reading them within so many levels and
evaluating what has been read. -/
theorem evaluate_eq_evaluateWithin (levels : Nat) (scope : Scope σ) (tokens : List Token) :
    evaluate levels scope tokens = evaluateWithin levels scope tokens := by
  have follows := expression_agrees (operand_agrees scope (Nat.zero_add levels)) tokens
  rw [evaluateWithin_eq_bind]
  refine ExceptT.ext (StateT.ext fun memory => ?_)
  show (run levels scope (entering (.chain .sum) tokens 0 [] memory)).finish = _
  cases ran : (readValue scope ((Rule.expression (Rule.operand levels)).read tokens)).run.run
      memory with
  | mk result memory' =>
    cases result with
    | error d =>
      obtain ⟨rest, runs⟩ := @Follows.failure _ _ _ _ _ _ follows [] memory d memory' ran
      rw [run_bind_eq_error.2 (.inl ran), Runs.run_eq runs, run_leave_error]
      rfl
    | ok piece =>
      obtain ⟨v, rest⟩ := piece
      have runs := @Follows.value _ _ _ _ _ _ follows [] memory v rest memory' ran
      rw [run_bind_of_ok ran, Runs.run_eq runs, run_of_end rfl, Outcome.finish]
      by_cases ends : (Token.current rest).kind = .endOfInput
      · simp only [if_pos ends]
        rfl
      · simp only [if_neg ends]
        rfl

end Reckoner.Descent
