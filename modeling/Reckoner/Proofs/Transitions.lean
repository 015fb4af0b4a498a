import Reckoner.Proofs.Descent

/-! # Steps and the tokens they take

A step of an evaluation takes a few tokens from the front, and possibly makes one call.
`Transition limit scope s own calls s'` lists what a step can do in these terms: which tokens it
takes, which call it makes, and what it has to know of the token that comes next. Every step of an
evaluation is a transition (`Transition.of_step`), and every transition is a step
(`Transition.step`). `Trace` joins transitions, so that the tokens taken and the calls made so far
can be spoken of at every moment (`Runs.trace`); the calls made from a state on are its
`invocations`. No end of the input is ever taken (`Trace.kind_ne_endOfInput`). -/

namespace Reckoner

/-- The tokens that a procedure takes before it waits for the first time, and what it has seen of
the token that comes next. -/
inductive Frame.Opens : Frame → List Token → Token → Prop
  | first {level next} : Opens (.first level) [] next
  | operand {next} : Opens .operand [] next
  | sign {token sign next} : token.op?.bind Op.sign? = some sign → Opens (.sign sign) [token] next
  | plain {next} : next.op?.bind Op.sign? = none → Opens .plain [] next
  | group {opening next} : opening.kind = .leftParen → Opens .group [opening] next
  | callee {next} : next.kind = .function → Opens .callee [] next
  | argument {name opening next} : name.kind = .function → opening.kind = .leftParen →
      next.kind ≠ .rightParen → Opens (.argument name []) [name, opening] next

/-- The value so far of a chain of the level, when the part it has waited for has the value `v`. -/
inductive Frame.Joins : Frame → Level → Float → Float → Prop
  | first {level v} : Joins (.first level) level v v
  | next {level left op position v w} : op.apply position left v = .ok w →
      Joins (.next level left op position) level v w

/-- The tokens that a procedure takes and the value that it is left with, after it has waited for
the value `v`, and what it has seen of the token that comes next. -/
inductive Frame.Passes : Frame → Float → List Token → Token → Float → Prop
  | chain {frame level v w next} : Joins frame level v w →
      (∀ op, next.op? = some op → op.level ≠ level) → Passes frame v [] next w
  | operand {v next} : Passes .operand v [] next v
  | sign {sign v next} : Passes (.sign sign) v [] next (sign.apply v)
  | plain {v next} : Passes .plain v [] next v
  | callee {v next} : Passes .callee v [] next v
  | group {v closing next} : closing.kind = .rightParen → Passes .group v [closing] next v

namespace Descent

/-- A call of a function: its name where it is written, and the values of the arguments. -/
structure Invocation where
  name : Token
  arguments : List Float

variable {σ : Type}

/-- What a call ends with. -/
def Invocation.result (scope : Scope σ) (memory : σ) (call : Invocation) :
    Except Diagnostic Float × σ :=
  (scope.call call.name.text call.name.position call.arguments).run.run memory

/-- What calls made one after the other leave in the memory. -/
def effects (scope : Scope σ) (calls : List Invocation) (memory : σ) : σ :=
  calls.foldl (fun memory call => (call.result scope memory).2) memory

/-- Without calls the memory is left alone. -/
@[simp] theorem effects_nil (scope : Scope σ) (memory : σ) : effects scope [] memory = memory := rfl

/-- Further calls begin with what the calls before them have left. -/
@[simp] theorem effects_append (scope : Scope σ) (calls more : List Invocation) (memory : σ) :
    effects scope (calls ++ more) memory = effects scope more (effects scope calls memory) :=
  List.foldl_append

/-- One call leaves what its function leaves. -/
@[simp] theorem effects_singleton (scope : Scope σ) (call : Invocation) (memory : σ) :
    effects scope [call] memory = (call.result scope memory).2 := rfl

/-! ## What a step can do -/

/-- The call that is made when the tokens come next, and the procedure that has waited for its last
argument, if it has arguments. -/
inductive Mode.Calls : Mode → List Frame → List Token → Invocation → Prop
  | arguments {v name done closing} : closing.kind = .rightParen →
      Calls (.leave (.ok v)) [.argument name done] [closing] ⟨name, (v :: done).reverse⟩
  | empty {name opening closing} : name.kind = .function → opening.kind = .leftParen →
      closing.kind = .rightParen → Calls (.enter .call) [] [name, opening, closing] ⟨name, []⟩

/-- What is wrong with the token that comes next when the tokens have been taken, and the procedure
that has waited, if one has. -/
inductive Mode.Complains (limit : ℕ∞) :
    Mode → List Frame → Nat → List Token → Token → Problem → Prop
  | depth {depth : Nat} {next} : (depth : ℕ∞) = limit →
      Complains limit (.enter .operand) [] depth [] next .nestedTooDeeply
  | operand {depth next} : next.kind ≠ .number → next.kind ≠ .variable → next.kind ≠ .function →
      next.kind ≠ .leftParen →
      Complains limit (.enter .unsigned) [] depth [] next (.unexpected next.kind)
  | opening {depth name next} : name.kind = .function → next.kind ≠ .leftParen →
      Complains limit (.enter .call) [] depth [name] next (.unexpected next.kind)
  | group {depth v next} : next.kind ≠ .rightParen →
      Complains limit (.leave (.ok v)) [.group] depth [] next .missingRightParen
  | call {depth v name done next} : next.kind ≠ .comma → next.kind ≠ .rightParen →
      Complains limit (.leave (.ok v)) [.argument name done] depth [] next .missingRightParen

/-- What a step can do, with the tokens that it takes and the calls that it makes. -/
inductive Transition (limit : ℕ∞) (scope : Scope σ) :
    State σ → List Token → List Invocation → State σ → Prop
  /-- A procedure waits for another one, which is entered. -/
  | wait {frames own rest memory} {depth : Nat} (frame : Frame)
      (opens : frame.Opens own (Token.current rest))
      (free : frame = .operand → (depth : ℕ∞) ≠ limit) :
      Transition limit scope ⟨.enter frame.procedure, frames, own ++ rest, depth, memory⟩ own []
        ⟨.enter frame.inner, frame :: frames, rest, depth + frame.counted, memory⟩
  /-- A number is read. -/
  | number {token frames rest depth memory} (kind : token.kind = .number) :
      Transition limit scope ⟨.enter .unsigned, frames, token :: rest, depth, memory⟩ [token] []
        ⟨.leave (Scope.literal token.text token.position), frames, rest, depth, memory⟩
  /-- A variable is looked up. -/
  | variable {token frames rest depth memory} (kind : token.kind = .variable) :
      Transition limit scope ⟨.enter .unsigned, frames, token :: rest, depth, memory⟩ [token] []
        ⟨.leave (scope.lookup token.text token.position), frames, rest, depth, memory⟩
  /-- A function is called. -/
  | call {mode waiting own call frames rest depth memory}
      (calls : Mode.Calls mode waiting own call) :
      Transition limit scope ⟨mode, waiting ++ frames, own ++ rest, depth, memory⟩ own [call]
        ⟨.leave (call.result scope memory).1, frames, rest, depth, (call.result scope memory).2⟩
  /-- The next token is refused. -/
  | complain {mode waiting own problem frames rest depth memory}
      (complains : Mode.Complains limit mode waiting depth own (Token.current rest) problem) :
      Transition limit scope ⟨mode, waiting ++ frames, own ++ rest, depth, memory⟩ own []
        ⟨.leave (.error ⟨problem, (Token.current rest).position⟩), frames, rest, depth, memory⟩
  /-- Two values cannot be joined. -/
  | divide {level left op position v d frames rest depth memory}
      (fails : op.apply position left v = .error d) :
      Transition limit scope
        ⟨.leave (.ok v), .next level left op position :: frames, rest, depth, memory⟩ [] []
        ⟨.leave (.error d), frames, rest, depth, memory⟩
  /-- A chain goes on behind an operator. -/
  | goOn {frame level v w token op frames rest depth memory} (joins : Frame.Joins frame level v w)
      (found : token.op? = some op) (same : op.level = level) :
      Transition limit scope ⟨.leave (.ok v), frame :: frames, token :: rest, depth, memory⟩ [token]
        [] ⟨.enter (.part level), .next level w op token.position :: frames, rest, depth, memory⟩
  /-- A call goes on behind a comma. -/
  | separate {name done v comma frames rest depth memory} (kind : comma.kind = .comma) :
      Transition limit scope
        ⟨.leave (.ok v), .argument name done :: frames, comma :: rest, depth, memory⟩ [comma] []
        ⟨.enter (.chain .sum), .argument name (v :: done) :: frames, rest, depth, memory⟩
  /-- A procedure that has waited is left with a value. -/
  | pass {frame v own w frames rest depth memory}
      (passes : frame.Passes v own (Token.current rest) w) :
      Transition limit scope ⟨.leave (.ok v), frame :: frames, own ++ rest, depth, memory⟩ own []
        ⟨.leave (.ok w), frames, rest, depth - frame.counted, memory⟩
  /-- A procedure that has waited is left with the failure of the one that it has waited for. -/
  | fail {d frame frames rest depth memory} :
      Transition limit scope ⟨.leave (.error d), frame :: frames, rest, depth, memory⟩ [] []
        ⟨.leave (.error d), frames, rest, depth - frame.counted, memory⟩

/-- A call is entered at the name of a function only. -/
def State.Named (s : State σ) : Prop :=
  s.mode = .enter .call → (Token.current s.rest).kind = .function

/-- Where the current token is of a kind other than the end of the input, there is one of the kind.
-/
theorem exists_cons_of_kind {tokens : List Token} {kind : Token.Kind}
    (found : (Token.current tokens).kind = kind) (other : kind ≠ .endOfInput) :
    ∃ token more, tokens = token :: more ∧ token.kind = kind := by
  obtain ⟨token, more, rfl⟩ := exists_eq_cons (found ▸ other)
  exact ⟨token, more, rfl, found⟩

/-- A call whose arguments are closed is left with its result. -/
theorem invoke_closed (scope : Scope σ) {name closing : Token} {arguments : List Float}
    {mode : Mode} {frames : List Frame} {rest : List Token} {depth : Nat} {memory : σ}
    (closes : closing.kind = .rightParen) :
    invoke scope name arguments ⟨mode, frames, closing :: rest, depth, memory⟩ =
      ⟨.leave (Invocation.result scope memory ⟨name, arguments⟩).1, frames, rest, depth,
        (Invocation.result scope memory ⟨name, arguments⟩).2⟩ :=
  if_pos closes

/-! ## Every step is a transition -/

/-- The first state comes to the second one by a transition, and no call is entered anywhere but at
the name of a function. -/
def Turns (limit : ℕ∞) (scope : Scope σ) (s s' : State σ) : Prop :=
  (∃ own calls, Transition limit scope s own calls s') ∧ s'.Named

namespace Turns

variable {limit : ℕ∞} {scope : Scope σ} {mode : Mode} {frames : List Frame} {rest : List Token}
  {depth : Nat} {memory : σ} {v : Float}

/-- What has been left enters no call. -/
theorem left {s : State σ} {own : List Token} {calls : List Invocation}
    {result : Except Diagnostic Float}
    (transition : Transition limit scope s own calls ⟨.leave result, frames, rest, depth, memory⟩) :
    Turns limit scope s ⟨.leave result, frames, rest, depth, memory⟩ :=
  ⟨⟨own, calls, transition⟩, fun entered => by cases entered⟩

/-- A procedure other than a call is entered anywhere. -/
theorem entered {s : State σ} {own : List Token} {calls : List Invocation} {procedure : Procedure}
    (transition : Transition limit scope s own calls
      ⟨.enter procedure, frames, rest, depth, memory⟩) (other : procedure ≠ .call) :
    Turns limit scope s ⟨.enter procedure, frames, rest, depth, memory⟩ :=
  ⟨⟨own, calls, transition⟩, fun entered => absurd (Mode.enter.inj entered) other⟩

/-- A chain goes on behind an operator or is left. -/
theorem goOn {frame : Frame} {level : Level} {w : Float} (joins : frame.Joins level v w)
    (uncounted : frame.counted = 0) :
    Turns limit scope ⟨.leave (.ok v), frame :: frames, rest, depth, memory⟩
      (Descent.goOn level w ⟨.leave (.ok v), frames, rest, depth, memory⟩) := by
  have ended (ends : ∀ op, (Token.current rest).op? = some op → op.level ≠ level) :
      Turns limit scope ⟨.leave (.ok v), frame :: frames, rest, depth, memory⟩
        ⟨.leave (.ok w), frames, rest, depth, memory⟩ := by
    have passes : Transition limit scope ⟨.leave (.ok v), frame :: frames, rest, depth, memory⟩ []
        [] ⟨.leave (.ok w), frames, rest, depth - frame.counted, memory⟩ :=
      .pass (.chain joins ends)
    rw [uncounted] at passes
    exact left passes
  rw [Descent.goOn]
  cases found : (Token.current rest).op? with
  | none => exact ended (by simp [found])
  | some op =>
    by_cases same : op.level = level
    · obtain ⟨token, rest, rfl⟩ := exists_eq_cons (kind_ne_of_op? found)
      simp only [if_pos same]
      exact entered (.goOn joins found same) (Procedure.part_ne_call level)
    · simp only [if_neg same]
      exact ended (by simp [found, same])

/-- A call goes on behind a comma, or its function is called. -/
theorem goOnArguments (name : Token) (done : List Float) :
    Turns limit scope ⟨.leave (.ok v), .argument name done :: frames, rest, depth, memory⟩
      (Descent.goOnArguments scope name (v :: done)
        ⟨.leave (.ok v), frames, rest, depth, memory⟩) := by
  rw [Descent.goOnArguments]
  by_cases separates : (Token.current rest).kind = .comma
  · obtain ⟨comma, rest, rfl, kind⟩ := exists_cons_of_kind separates (by decide)
    rw [if_pos separates]
    exact entered (.separate kind) (by simp [Frame.inner])
  · rw [if_neg separates]
    by_cases closes : (Token.current rest).kind = .rightParen
    · obtain ⟨closing, rest, rfl, kind⟩ := exists_cons_of_kind closes (by decide)
      rw [invoke_closed scope kind]
      exact left (.call (.arguments kind))
    · rw [Descent.invoke, if_neg closes]
      exact left (.complain (.call separates closes))

/-- An operand without a sign is entered. -/
theorem enterUnsigned :
    Turns limit scope ⟨.enter .unsigned, frames, rest, depth, memory⟩
      (Descent.enterUnsigned scope ⟨.enter .unsigned, frames, rest, depth, memory⟩) := by
  have refused (number : (Token.current rest).kind ≠ .number)
      (var : (Token.current rest).kind ≠ .variable)
      (function : (Token.current rest).kind ≠ .function)
      (opens : (Token.current rest).kind ≠ .leftParen) :
      Turns limit scope ⟨.enter .unsigned, frames, rest, depth, memory⟩
        ⟨.leave (.error ⟨.unexpected (Token.current rest).kind, (Token.current rest).position⟩),
          frames, rest, depth, memory⟩ :=
    left (.complain (.operand number var function opens))
  rw [Descent.enterUnsigned]
  cases kind : (Token.current rest).kind with
  | number =>
    obtain ⟨token, rest, rfl, kind⟩ := exists_cons_of_kind kind (by decide)
    exact left (.number kind)
  | «variable» =>
    obtain ⟨token, rest, rfl, kind⟩ := exists_cons_of_kind kind (by decide)
    exact left (.variable kind)
  | function => exact ⟨⟨[], [], .wait .callee (.callee kind) (by simp)⟩, fun _ => kind⟩
  | leftParen =>
    obtain ⟨opening, rest, rfl, kind⟩ := exists_cons_of_kind kind (by decide)
    exact entered (.wait .group (.group kind) (by simp)) (by simp [Frame.inner])
  | _ =>
    rw [kind] at refused
    exact refused (by decide) (by decide) (by decide) (by decide)

/-- A call is entered. -/
theorem enterCall (function : (Token.current rest).kind = .function) :
    Turns limit scope ⟨.enter .call, frames, rest, depth, memory⟩
      (Descent.enterCall scope ⟨.enter .call, frames, rest, depth, memory⟩) := by
  obtain ⟨name, inside, rfl, named⟩ := exists_cons_of_kind function (by decide)
  rw [Descent.enterCall]
  by_cases opens : (Token.current inside).kind = .leftParen
  · obtain ⟨opening, rest, rfl, kind⟩ := exists_cons_of_kind opens (by decide)
    rw [List.tail_cons, List.tail_cons, if_pos opens]
    by_cases closes : (Token.current rest).kind = .rightParen
    · obtain ⟨closing, rest, rfl, last⟩ := exists_cons_of_kind closes (by decide)
      rw [if_pos closes, invoke_closed scope last]
      exact left (.call (.empty named kind last))
    · rw [if_neg closes]
      exact entered (.wait (.argument name []) (.argument named kind closes) (by simp))
        (by simp [Frame.inner])
  · rw [List.tail_cons, if_neg opens]
    exact left (.complain (.opening named opens))

/-- A procedure is entered. -/
theorem enter (procedure : Procedure)
    (named : (⟨.enter procedure, frames, rest, depth, memory⟩ : State σ).Named) :
    Turns limit scope ⟨.enter procedure, frames, rest, depth, memory⟩
      (Descent.enter limit scope ⟨.enter procedure, frames, rest, depth, memory⟩ procedure) := by
  cases procedure with
  | chain level =>
    exact entered (.wait (.first level) .first (by simp)) (Procedure.part_ne_call level)
  | operand =>
    rw [Descent.enter]
    by_cases full : (depth : ℕ∞) = limit
    · rw [if_pos full]
      exact left (.complain (.depth full))
    · rw [if_neg full]
      exact entered (.wait .operand .operand fun _ => full) (by simp [Frame.inner])
  | signed =>
    rw [Descent.enter]
    cases found : (Token.current rest).op?.bind Op.sign? with
    | none => exact entered (.wait .plain (.plain found) (by simp)) (by simp [Frame.inner])
    | some sign =>
      obtain ⟨op, some, _⟩ := Option.bind_eq_some_iff.1 found
      obtain ⟨token, rest, rfl⟩ := exists_eq_cons (kind_ne_of_op? some)
      exact entered (.wait (.sign sign) (.sign found) (by simp)) (by simp [Frame.inner])
  | unsigned => exact enterUnsigned
  | call => exact enterCall (named rfl)

/-- A procedure that has waited goes on with a value. -/
theorem resume (frame : Frame) :
    Turns limit scope ⟨.leave (.ok v), frame :: frames, rest, depth, memory⟩
      (Descent.resume scope v ⟨.leave (.ok v), frames, rest, depth, memory⟩ frame) := by
  cases frame with
  | first level => exact goOn .first rfl
  | next level left' op position =>
    rw [Descent.resume]
    cases applied : op.apply position left' v with
    | ok w => exact goOn (.next applied) rfl
    | error d => exact left (.divide applied)
  | operand => exact left (.pass .operand)
  | sign sign => exact left (.pass .sign)
  | plain => exact left (.pass .plain)
  | callee => exact left (.pass .callee)
  | group =>
    rw [Descent.resume]
    by_cases closes : (Token.current rest).kind = .rightParen
    · obtain ⟨closing, rest, rfl, kind⟩ := exists_cons_of_kind closes (by decide)
      simp only [if_pos closes]
      exact left (.pass (.group kind))
    · simp only [if_neg closes]
      exact left (.complain (.group closes))
  | argument name done => exact goOnArguments name done

end Turns

variable {limit : ℕ∞} {scope : Scope σ} {s s' t : State σ} {own taken : List Token}
  {new calls : List Invocation}

/-- **Every step is a transition**, if calls are entered at the names of functions only. -/
theorem turns_of_step (named : s.Named) (stepped : step limit scope s = .inl s') :
    Turns limit scope s s' := by
  obtain ⟨mode, frames, rest, depth, memory⟩ := s
  cases mode with
  | enter procedure =>
    cases stepped
    exact .enter procedure named
  | leave result =>
    cases frames with
    | nil => cases result <;> cases stepped
    | cons frame frames =>
      cases result with
      | ok v =>
        cases stepped
        exact .resume frame
      | error d =>
        cases stepped
        have fails : Turns limit scope ⟨.leave (.error d), frame :: frames, rest, depth, memory⟩
            ⟨.leave (.error d), frames, rest, depth - frame.counted, memory⟩ := .left .fail
        cases frame <;> exact fails

/-! ## Every transition is a step -/

/-- A chain that no operator of its level follows is left. -/
theorem goOn_of_ends {level : Level} {w : Float} {s : State σ}
    (ends : ∀ op, (Token.current s.rest).op? = some op → op.level ≠ level) :
    goOn level w s = s.leave (.ok w) s.rest := by
  rw [goOn]
  cases found : (Token.current s.rest).op? with
  | none => rfl
  | some op => exact if_neg (ends op found)

/-- A procedure waits for another one after the tokens that it opens with. -/
theorem enter_of_opens {frame : Frame} {frames : List Frame} {rest : List Token} {depth : Nat}
    {memory : σ} (opens : frame.Opens own (Token.current rest))
    (free : frame = .operand → (depth : ℕ∞) ≠ limit) :
    enter limit scope ⟨.enter frame.procedure, frames, own ++ rest, depth, memory⟩
        frame.procedure =
      ⟨.enter frame.inner, frame :: frames, rest, depth + frame.counted, memory⟩ := by
  cases opens with
  | first => rfl
  | operand => exact if_neg (free rfl)
  | sign found => simp [enter, Frame.procedure, found, State.descend, Frame.counted]
  | plain none => simp [enter, Frame.procedure, none, State.descend, Frame.counted]
  | group opens => simp [enter, Frame.procedure, enterUnsigned, opens, State.descend, Frame.counted]
  | callee function =>
    simp [enter, Frame.procedure, enterUnsigned, function, State.descend, Frame.counted]
  | argument function opens other =>
    simp [enter, Frame.procedure, enterCall, opens, other, State.descend, Frame.counted]

/-- **Every transition is a step.** -/
theorem Transition.step (transition : Transition limit scope s own new s') :
    Descent.step limit scope s = .inl s' := by
  cases transition with
  | wait frame opens free => exact congrArg Sum.inl (enter_of_opens opens free)
  | number kind => simp [Descent.step, enter, enterUnsigned, kind, State.leave]
  | «variable» kind => simp [Descent.step, enter, enterUnsigned, kind, State.leave]
  | call calls =>
    cases calls with
    | arguments closes =>
      simp [Descent.step, resume, goOnArguments, closes, invoke_closed scope closes]
    | empty function opens closes =>
      simp [Descent.step, enter, enterCall, opens, closes, invoke_closed scope closes]
  | complain complains =>
    cases complains with
    | depth full => exact congrArg Sum.inl (if_pos full)
    | operand number var function opens =>
      simp [Descent.step, enter, enterUnsigned, State.leave]
    | opening function other => simp [Descent.step, enter, enterCall, other, State.leave]
    | group other => simp [Descent.step, resume, other, State.leave]
    | call comma closes =>
      simp [Descent.step, resume, goOnArguments, invoke, comma, closes, State.leave]
  | divide fails => simp [Descent.step, resume, fails, State.leave]
  | goOn joins found same =>
    cases joins with
    | first => simp [Descent.step, resume, Descent.goOn, found, same, State.descend, Frame.inner]
    | next applied =>
      simp [Descent.step, resume, Descent.goOn, applied, found, same, State.descend, Frame.inner]
  | separate kind =>
    simp [Descent.step, resume, goOnArguments, kind, State.descend, Frame.inner]
  | pass passes =>
    cases passes with
    | chain joins ends =>
      cases joins with
      | first => exact congrArg Sum.inl (goOn_of_ends ends)
      | next applied =>
        simp only [Descent.step, resume, applied]
        exact congrArg Sum.inl (goOn_of_ends ends)
    | group closes => simp [Descent.step, resume, closes, State.leave, Frame.counted]
    | _ => rfl
  | @fail d frame => cases frame <;> rfl

/-! ## The tokens taken and the calls made -/

/-- A transition takes its tokens from the front. -/
theorem Transition.rest_eq (transition : Transition limit scope s own new s') :
    s.rest = own ++ s'.rest := by
  cases transition <;> rfl

/-- A transition makes its calls and leaves the memory alone otherwise. -/
theorem Transition.memory_eq (transition : Transition limit scope s own new s') :
    s'.memory = effects scope new s.memory := by
  cases transition <;> rfl

/-- No transition takes the end of the input. -/
theorem Transition.kind_ne_endOfInput (transition : Transition limit scope s own new s') :
    ∀ token ∈ own, token.kind ≠ .endOfInput := by
  cases transition with
  | wait frame opens =>
    cases opens with
    | sign found =>
      obtain ⟨op, some, _⟩ := Option.bind_eq_some_iff.1 found
      simpa using kind_ne_of_op? some
    | _ => simp_all
  | call calls => cases calls <;> simp_all
  | complain complains => cases complains <;> simp_all
  | goOn _ found => simpa using kind_ne_of_op? found
  | pass passes => cases passes <;> simp_all
  | _ => simp_all

/-- From a state an evaluation comes to another one, taking the tokens and making the calls on the
way. -/
inductive Trace (limit : ℕ∞) (scope : Scope σ) (s : State σ) :
    List Token → List Invocation → State σ → Prop
  | start : Trace limit scope s [] [] s
  | step {taken calls t own new u} : Trace limit scope s taken calls t →
      Transition limit scope t own new u → Trace limit scope s (taken ++ own) (calls ++ new) u

namespace Trace

/-- What is left comes behind what has been taken. -/
theorem rest_eq (trace : Trace limit scope s taken calls t) : s.rest = taken ++ t.rest := by
  induction trace with
  | start => rfl
  | step _ transition ih => rw [ih, transition.rest_eq, List.append_assoc]

/-- The memory is what the calls have left in it. -/
theorem memory_eq (trace : Trace limit scope s taken calls t) :
    t.memory = effects scope calls s.memory := by
  induction trace with
  | start => rfl
  | step _ transition ih => rw [transition.memory_eq, ih, effects_append]

/-- **The end of the input is never taken.** -/
theorem kind_ne_endOfInput (trace : Trace limit scope s taken calls t) :
    ∀ token ∈ taken, token.kind ≠ .endOfInput := by
  induction trace with
  | start => simp
  | step _ transition ih => exact List.forall_mem_append.2 ⟨ih, transition.kind_ne_endOfInput⟩

/-- A trace is a run. -/
theorem runs (trace : Trace limit scope s taken calls t) : Runs limit scope s t := by
  induction trace with
  | start => exact .refl
  | step _ transition ih => exact ih.tail transition.step

end Trace

/-- **What an evaluation comes to, it comes to by a trace.** -/
theorem Runs.trace (runs : Runs limit scope s t) (named : s.Named) :
    (∃ taken calls, Trace limit scope s taken calls t) ∧ t.Named := by
  induction runs with
  | refl => exact ⟨⟨[], [], .start⟩, named⟩
  | tail _ stepped ih =>
    obtain ⟨⟨taken, calls, trace⟩, named⟩ := ih
    obtain ⟨⟨own, new, transition⟩, named⟩ := turns_of_step named stepped
    exact ⟨⟨taken ++ own, calls ++ new, .step trace transition⟩, named⟩

/-- At the start no call is entered. -/
theorem named_start (tokens : List Token) (memory : σ) : (start tokens memory).Named :=
  fun entered => by cases entered

/-! ## The calls of an evaluation -/

/-- The call that the next step makes. -/
def State.invocation? (s : State σ) : Option Invocation :=
  match s.mode, s.frames with
  | .leave (.ok v), .argument name done :: _ =>
    if (Token.current s.rest).kind = .rightParen then some ⟨name, (v :: done).reverse⟩ else none
  | .enter .call, _ =>
    let inside := s.rest.tail
    if (Token.current inside).kind = .leftParen ∧
        (Token.current inside.tail).kind = .rightParen then
      some ⟨Token.current s.rest, []⟩
    else none
  | _, _ => none

/-- The calls that an evaluation makes from a state on, in their order. -/
def invocations (limit : ℕ∞) (scope : Scope σ) (s : State σ) : List Invocation :=
  match _h : step limit scope s with
  | .inl s' => s.invocation?.toList ++ invocations limit scope s'
  | .inr _ => []
termination_by s.potential
decreasing_by exact (move_of_step _h).potential_lt

/-- A transition makes the call that the step before it announces. -/
theorem Transition.invocation?_eq (transition : Transition limit scope s own new s') :
    s.invocation?.toList = new := by
  cases transition with
  | wait frame opens =>
    cases opens with
    | argument function opens other => simp [State.invocation?, Frame.procedure, other]
    | _ => rfl
  | call calls => cases calls <;> simp_all [State.invocation?]
  | complain complains => cases complains <;> simp_all [State.invocation?]
  | goOn joins => cases joins <;> rfl
  | pass passes =>
    cases passes with
    | chain joins => cases joins <;> rfl
    | _ => rfl
  | separate kind => simp [State.invocation?, kind]
  | _ => rfl

/-- The calls of a step come before those of the states after it. -/
theorem invocations_of_step (stepped : step limit scope s = .inl s') :
    invocations limit scope s = s.invocation?.toList ++ invocations limit scope s' := by
  rw [invocations]
  split
  · rename_i again
    rw [stepped] at again
    cases again
    rfl
  · rename_i ended
    rw [stepped] at ended
    cases ended

/-- Where no step is left no call is made. -/
theorem invocations_of_end {outcome : Outcome σ} (ended : step limit scope s = .inr outcome) :
    invocations limit scope s = [] := by
  rw [invocations]
  split
  · rename_i stepped
    rw [ended] at stepped
    cases stepped
  · rfl

/-- The calls on the way come first. -/
theorem Trace.invocations_eq (trace : Trace limit scope s taken calls t) :
    invocations limit scope s = calls ++ invocations limit scope t := by
  induction trace with
  | start => rfl
  | step _ transition ih =>
    rw [ih, invocations_of_step transition.step, transition.invocation?_eq, List.append_assoc]

/-- The tokens that the evaluation of tokens takes until it ends. -/
def takenFrom (limit : ℕ∞) (scope : Scope σ) (tokens : List Token) (memory : σ) : List Token :=
  tokens.take (tokens.length - (run limit scope (start tokens memory)).rest.length)

/-- An evaluation comes to its end by the trace of its tokens and its calls. -/
theorem exists_trace (limit : ℕ∞) (scope : Scope σ) (tokens : List Token) (memory : σ) :
    let outcome := run limit scope (start tokens memory)
    ∃ depth, Trace limit scope (start tokens memory) (takenFrom limit scope tokens memory)
      (invocations limit scope (start tokens memory))
      ⟨.leave outcome.result, [], outcome.rest, depth, outcome.memory⟩ := by
  intro outcome
  obtain ⟨depth, runs⟩ := exists_runs_leave limit scope (start tokens memory)
  obtain ⟨⟨taken, calls, trace⟩, _⟩ := Runs.trace runs (named_start tokens memory)
  have none : invocations limit scope
      ⟨.leave outcome.result, [], outcome.rest, depth, outcome.memory⟩ = [] :=
    invocations_of_end rfl
  have made := trace.invocations_eq
  rw [none, List.append_nil] at made
  have written : tokens = taken ++ outcome.rest := trace.rest_eq
  have length : tokens.length - outcome.rest.length = taken.length := by
    rw [written, List.length_append, Nat.add_sub_cancel]
  have front : takenFrom limit scope tokens memory = taken := by
    rw [takenFrom, length]
    exact (congrArg (List.take taken.length) written).trans List.take_left
  rw [made, front]
  exact ⟨depth, trace⟩

end Descent

end Reckoner
