import Reckoner.Proofs.Accounts
import Reckoner.Proofs.DescentReading

/-! # The operations of an evaluation

During an evaluation values are joined by operators, and functions are called with values
(`Operation`, `State.Next`). An operation that fails is what the evaluation ends with
(`Performs.fails`), so that where there is a value every operation has succeeded
(`Performs.succeeds`), and no other failure comes from values (`exists_performs_of_error`). Every
operation belongs to a phrase of the tokens that has been taken whole, and a call has as many values
as arguments are written (`Performs.writtenIn`); the invariant behind this, `State.Tracks`, says
which tokens each of the open procedures has taken. A call with a variable is followed through to
its value at the end. -/

namespace Reckoner

/-- The tokens that a procedure has taken before the one that it waits for. -/
inductive Frame.Took : Frame → List Token → Prop
  | first {level} : Took (.first level) []
  | next {level tokens e token op v} : Derives level.chain tokens e → token.op? = some op →
      op.level = level → Took (.next level v op token.position) (tokens ++ [token])
  | operand : Took .operand []
  | sign {token sign} : token.op?.bind Op.sign? = some sign → Took (.sign sign) [token]
  | plain : Took .plain []
  | group {opening} : opening.kind = .leftParen → Took .group [opening]
  | callee : Took .callee []
  | argument {name opening} : name.kind = .function → opening.kind = .leftParen →
      Took (.argument name []) [name, opening]
  | arguments {name opening tokens es comma done} : name.kind = .function →
      opening.kind = .leftParen → Separated (Derives .expression) tokens es →
      es.length = done.length → comma.kind = .comma →
      Took (.argument name done) (name :: opening :: (tokens ++ [comma]))

/-- With one more argument, a call has taken arguments that are separated by commas. -/
theorem Frame.Took.separated {name : Token} {done : List Float} {own tokens : List Token}
    {e : Expr} (took : (Frame.argument name done).Took own)
    (argument : Derives .expression tokens e) :
    ∃ opening taken es, own ++ tokens = name :: opening :: taken ∧ name.kind = .function ∧
      opening.kind = .leftParen ∧ Separated (Derives .expression) taken es ∧
      es.length = done.length + 1 := by
  cases took with
  | argument function opens => exact ⟨_, _, _, rfl, function, opens, .one argument, rfl⟩
  | arguments function opens arguments length comma =>
    exact ⟨_, _, _, by simp, function, opens, .more arguments comma argument, by simp [length]⟩

/-- What a procedure holds the values of, it has taken. -/
theorem Frame.Holds.took {σ : Type} {scope : Scope σ} {frame : Frame} {own : List Token}
    {memory memory' : σ} (holds : frame.Holds scope own memory memory') : frame.Took own := by
  cases holds with
  | opens opens => cases opens <;> constructor <;> assumption
  | next derives _ found same => exact .next derives found same
  | arguments function opens arguments values comma =>
    refine .arguments function opens arguments ?_ comma
    rw [← Expr.length_of_values values, List.length_reverse]

namespace Descent

variable {σ : Type} {limit : ℕ∞} {scope : Scope σ}

/-- What is done with values. -/
inductive Operation
  /-- Two values are joined by the operator at a position. -/
  | join (op : Op) (position : Nat) (left right : Float)
  /-- The function of a name is called. -/
  | call (name : Token) (arguments : List Float)

/-- What an operation ends with. -/
def Operation.result (scope : Scope σ) (memory : σ) : Operation → Except Diagnostic Float × σ
  | .join op position left right => (op.apply position left right, memory)
  | .call name arguments => (scope.call name.text name.position arguments).run.run memory

/-- The operation comes next: both values are there, or the arguments are and are closed. -/
inductive State.Next : State σ → Operation → Prop
  | join {v level left op position frames rest depth memory} :
      Next ⟨.leave (.ok v), .next level left op position :: frames, rest, depth, memory⟩
        (.join op position left v)
  | call {v name done frames closing rest depth memory} : closing.kind = .rightParen →
      Next ⟨.leave (.ok v), .argument name done :: frames, closing :: rest, depth, memory⟩
        (.call name (v :: done).reverse)
  | empty {name opening closing frames rest depth memory} : opening.kind = .leftParen →
      closing.kind = .rightParen →
      Next ⟨.enter .call, frames, name :: opening :: closing :: rest, depth, memory⟩
        (.call name [])

/-- The operation is performed in the evaluation of the tokens. -/
def Performs (limit : ℕ∞) (scope : Scope σ) (tokens : List Token) (memory : σ)
    (operation : Operation) : Prop :=
  ∃ s, Runs limit scope (start tokens memory) s ∧ s.Next operation

/-! ## Operations that fail -/

/-- A call that is closed is left with its result. -/
theorem invoke_of_closed {name closing : Token} {arguments : List Float} {mode : Mode}
    {frames : List Frame} {rest : List Token} {depth : Nat} {memory : σ}
    (closes : closing.kind = .rightParen) :
    invoke scope name arguments ⟨mode, frames, closing :: rest, depth, memory⟩ =
      ⟨.leave (Operation.result scope memory (.call name arguments)).1, frames, rest, depth,
        (Operation.result scope memory (.call name arguments)).2⟩ :=
  invoke_closed scope closes

/-- After an operation that fails the procedure is left with the failure. -/
theorem step_of_next (limit : ℕ∞) {s : State σ} {operation : Operation}
    (next : s.Next operation) {d : Diagnostic} {memory' : σ}
    (failed : operation.result scope s.memory = (.error d, memory')) :
    ∃ frames rest depth,
      step limit scope s = .inl ⟨.leave (.error d), frames, rest, depth, memory'⟩ := by
  cases next with
  | @join v level left op position frames rest depth memory =>
    obtain ⟨applied, rfl⟩ := Prod.mk.inj failed
    refine ⟨frames, rest, depth, ?_⟩
    simp only [step, resume, applied]
    rfl
  | @call v name done frames closing rest depth memory closes =>
    refine ⟨frames, rest, depth, ?_⟩
    have other : (Token.current (closing :: rest)).kind ≠ .comma := by simp [closes]
    simp only [step, resume, goOnArguments, if_neg other]
    rw [invoke_of_closed closes, failed]
  | @empty name opening closing frames rest depth memory opens closes =>
    refine ⟨frames, rest, depth, ?_⟩
    have entered : enterCall scope
        ⟨.enter .call, frames, name :: opening :: closing :: rest, depth, memory⟩ =
        invoke scope name [] ⟨.enter .call, frames, closing :: rest, depth, memory⟩ :=
      (if_pos opens).trans (if_pos closes)
    simp only [step, enter, entered]
    rw [invoke_of_closed closes, failed]

variable {tokens : List Token} {memory : σ} {operation : Operation}

/-- **An operation that fails is what the evaluation ends with.** -/
theorem Performs.fails (performs : Performs limit scope tokens memory operation) {d : Diagnostic}
    (failed : ∀ memory, (operation.result scope memory).1 = .error d) :
    ((evaluate limit scope tokens).run.run memory).1 = .error d := by
  obtain ⟨s, runs, next⟩ := performs
  obtain ⟨frames, rest, depth, stepped⟩ :=
    step_of_next limit next (Prod.ext (failed s.memory) rfl)
  show (run limit scope (start tokens memory)).finish.1 = .error d
  rw [runs.run_eq, run_of_step stepped, run_leave_error]
  rfl

/-- Where there is a value, every operation has had one. -/
theorem Performs.succeeds (performs : Performs limit scope tokens memory operation) {v : Float}
    (valued : ((evaluate limit scope tokens).run.run memory).1 = .ok v) :
    ∃ between w, (operation.result scope between).1 = .ok w := by
  obtain ⟨s, runs, next⟩ := performs
  cases result : (operation.result scope s.memory).1 with
  | ok w => exact ⟨s.memory, w, result⟩
  | error d =>
    obtain ⟨frames, rest, depth, stepped⟩ :=
      step_of_next limit next (Prod.ext result rfl)
    have ended : (run limit scope (start tokens memory)).finish.1 = .ok v := valued
    rw [runs.run_eq, run_of_step stepped, run_leave_error] at ended
    cases ended

/-! ## Failures that come from values -/

/-- The failure comes from values: a zero to divide by, or arguments without a result. -/
def OfValues (d : Diagnostic) : Prop :=
  d.problem = .divisionByZero ∨ ∃ name cause, d.problem = .failedCall name cause

/-- A transition that fails because of values passes a failure on or performs an operation. -/
theorem Transition.exists_next {s s' : State σ} {own : List Token} {new : List Invocation}
    {d : Diagnostic} (transition : Transition limit scope s own new s')
    (failed : s'.mode = .leave (.error d)) (values : OfValues d) :
    s.mode = .leave (.error d) ∨
      ∃ operation, s.Next operation ∧ (operation.result scope s.memory).1 = .error d := by
  cases transition with
  | number =>
    rw [Scope.literal] at failed
    split at failed <;> cases failed
    simp [OfValues] at values
  | «variable» =>
    rw [Scope.lookup] at failed
    split at failed <;> cases failed
    simp [OfValues] at values
  | call calls =>
    have result := Mode.leave.inj failed
    cases calls with
    | arguments closes => exact .inr ⟨_, .call closes, result⟩
    | empty _ opens closes => exact .inr ⟨_, .empty opens closes, result⟩
  | complain complains =>
    cases complains <;> cases failed <;> simp [OfValues] at values
  | divide fails =>
    cases failed
    exact .inr ⟨_, .join, fails⟩
  | fail => exact .inl failed
  | _ => cases failed

/-- **What fails because of values is an operation.** -/
theorem exists_performs_of_error {d : Diagnostic} (values : OfValues d)
    (failed : ((evaluate limit scope tokens).run.run memory).1 = .error d) :
    ∃ operation between, Performs limit scope tokens memory operation ∧
      (operation.result scope between).1 = .error d := by
  -- wherever the failure is on its way, the operation has been performed
  have performed {s : State σ} (runs : Runs limit scope (start tokens memory) s)
      (left : s.mode = .leave (.error d)) :
      ∃ operation between, Performs limit scope tokens memory operation ∧
        (operation.result scope between).1 = .error d := by
    induction runs with
    | refl => cases left
    | @tail s s' runs stepped ih =>
      obtain ⟨_, named⟩ := Runs.trace runs (named_start tokens memory)
      obtain ⟨⟨own, new, transition⟩, _⟩ := turns_of_step named stepped
      rcases transition.exists_next left values with before | ⟨operation, next, result⟩
      · exact ih before
      · exact ⟨operation, s.memory, ⟨s, runs, next⟩, result⟩
  obtain ⟨depth, runs⟩ := exists_runs_leave limit scope (start tokens memory)
  replace failed : (run limit scope (start tokens memory)).finish.1 = .error d := failed
  generalize run limit scope (start tokens memory) = outcome at runs failed
  obtain ⟨result, rest, memory'⟩ := outcome
  cases result with
  | ok v =>
    simp only [Outcome.finish] at failed
    split at failed
    · cases failed
    · cases failed
      simp [OfValues] at values
  | error d' =>
    cases failed
    exact performed runs rfl

/-! ## The tokens that open procedures have taken -/

/-- The frames have taken the tokens, one after the other and the outermost first, and the innermost
one waits for the procedure. -/
inductive Waiting : List Frame → Procedure → List Token → Prop
  | outermost : Waiting [] (.chain .sum) []
  | inside {frames frame before own} : Waiting frames frame.procedure before → frame.Took own →
      Waiting (frame :: frames) frame.inner (before ++ own)

/-- The tokens are those that the open procedures have taken and those that are left; what has been
left with a value has taken a phrase. -/
inductive State.Tracks (tokens : List Token) : State σ → Prop
  | enter {procedure frames before rest depth memory} : Waiting frames procedure before →
      tokens = before ++ rest →
      (procedure = .call → (Token.current rest).kind = .function) →
      Tracks tokens ⟨.enter procedure, frames, rest, depth, memory⟩
  | value {v procedure frames before own e rest depth memory} : Waiting frames procedure before →
      Derives procedure.phrase own e → tokens = before ++ (own ++ rest) →
      Tracks tokens ⟨.leave (.ok v), frames, rest, depth, memory⟩
  | failure {d frames rest depth memory} :
      Tracks tokens ⟨.leave (.error d), frames, rest, depth, memory⟩

/-- What waits has taken the tokens. -/
theorem Held.waiting {frames : List Frame} {procedure : Procedure} {taken : List Token}
    {calls : List Invocation} (held : Held scope memory frames procedure taken calls) :
    Waiting frames procedure taken := by
  induction held with
  | outermost => exact .outermost
  | inside _ holds _ same _ ih =>
    subst same
    exact .inside ih holds.took

/-- The tokens are kept track of throughout an evaluation. -/
theorem Runs.tracks {s : State σ} (runs : Runs limit scope (start tokens memory) s) :
    s.Tracks tokens := by
  obtain ⟨⟨taken, calls, trace⟩, named⟩ := Runs.trace runs (named_start tokens memory)
  have same : tokens = taken ++ s.rest := trace.rest_eq
  cases trace.accounts with
  | enter held => exact .enter held.waiting same fun call => named (congrArg Mode.enter call)
  | value valued =>
    obtain ⟨held, derives, _, _, written, _⟩ := valued
    exact .value held.waiting derives (by rw [same, written, List.append_assoc])
  | failure => exact .failure

/-! ## Where operations are written -/

/-- The operation belongs to a phrase of the tokens. -/
inductive Operation.WrittenIn (tokens : List Token) : Operation → Prop
  /-- A chain of the operator's level and a part of it stand at its sides. -/
  | join {before left token right after op e e'} {v w : Float} :
      tokens = before ++ (left ++ token :: right) ++ after → token.op? = some op →
      Derives op.level.chain left e → Derives op.level.part right e' →
      WrittenIn tokens (.join op token.position v w)
  /-- A call of the function is written with as many arguments. -/
  | call {before name written after es} {arguments : List Float} :
      tokens = before ++ (name :: written) ++ after →
      Derives .call (name :: written) (.call name.text name.position es) →
      es.length = arguments.length → WrittenIn tokens (.call name arguments)

/-- Every operation belongs to a phrase of the tokens. -/
theorem Performs.writtenIn (performs : Performs limit scope tokens memory operation) :
    operation.WrittenIn tokens := by
  obtain ⟨s, runs, next⟩ := performs
  have tracks := Runs.tracks runs
  cases next with
  | @join v level left op position frames rest =>
    obtain _ | @⟨_, _, _, _, own, _, _, _, _, waiting, part, same⟩ := tracks
    obtain _ | @⟨_, _, before, _, _, took⟩ := waiting
    cases took with
    | @next _ tokens' e token _ _ chain found level' =>
      subst level'
      rw [Frame.inner, Procedure.phrase_part] at part
      have written : tokens = before ++ (tokens' ++ token :: own) ++ rest := by simp [same]
      exact .join written found chain part
  | @call v name done frames closing rest depth memory closes =>
    obtain _ | ⟨waiting, argument, same⟩ := tracks
    obtain _ | @⟨_, _, before, _, _, took⟩ := waiting
    obtain ⟨opening, taken, es, written, function, opens, arguments, length⟩ :=
      took.separated argument
    have whole : tokens = before ++ (name :: opening :: (taken ++ [closing])) ++ rest := by
      rw [same, List.append_assoc, ← List.append_assoc _ _ (closing :: rest), written]
      simp
    refine .call whole (.withArguments function opens arguments closes) ?_
    simp [length]
  | @empty name opening closing frames rest depth memory opens closes =>
    obtain @⟨_, _, before, _, _, _, waiting, same, function⟩ := tracks
    have written : tokens = before ++ [name, opening, closing] ++ rest := by simp [same]
    exact .call written (.withoutArguments (function rfl) opens closes) rfl

/-! ## A call with a variable -/

section Variable

variable {frames : List Frame} {rest : List Token} {depth : Nat} {v x : Float}
  {name opening inner closing : Token}

/-- The procedures that are open in an expression when its first operand begins. -/
def firstOperand (frames : List Frame) : List Frame :=
  .plain :: .operand :: .first .power :: .first .product :: .first .sum :: frames

/-- An expression that begins without a sign comes to its first operand. -/
theorem runs_to_operand (free : (depth : ℕ∞) ≠ limit)
    (unsigned : (Token.current rest).kind ≠ .operator) :
    Runs limit scope ⟨.enter (.chain .sum), frames, rest, depth, memory⟩
      ⟨.enter .unsigned, firstOperand frames, rest, depth + 1, memory⟩ := by
  have operand (frames : List Frame) :
      step limit scope ⟨.enter .operand, frames, rest, depth, memory⟩ =
        .inl ⟨.enter .signed, .operand :: frames, rest, depth + 1, memory⟩ :=
    congrArg Sum.inl (if_neg free)
  have signed (frames : List Frame) :
      step limit scope ⟨.enter .signed, frames, rest, depth + 1, memory⟩ =
        .inl ⟨.enter .unsigned, .plain :: frames, rest, depth + 1, memory⟩ := by
    simp only [step, enter, Token.op?_eq_none unsigned]
    rfl
  -- the three chains enter their first parts before the operand is counted
  exact .head rfl (.head rfl (.head rfl (.head (operand _) (.head (signed _) .refl))))

/-- Before a token that is no operator the first operand is the expression. -/
theorem runs_from_operand (ends : (Token.current rest).kind ≠ .operator) :
    Runs limit scope ⟨.leave (.ok v), firstOperand frames, rest, depth + 1, memory⟩
      ⟨.leave (.ok v), frames, rest, depth, memory⟩ := by
  have chain (level : Level) (frames : List Frame) :
      step limit scope ⟨.leave (.ok v), .first level :: frames, rest, depth, memory⟩ =
        .inl ⟨.leave (.ok v), frames, rest, depth, memory⟩ := by
    simp only [step, resume, goOn, Token.op?_eq_none ends]
    rfl
  -- the operand is uncounted before the three chains are left
  exact .head rfl (.head rfl (.head (chain _ _) (.head (chain _ _) (.head (chain _ _) .refl))))

/-- A variable that no operator follows is an expression with its value. -/
theorem runs_variable (free : (depth : ℕ∞) ≠ limit) (named : inner.kind = .variable)
    (bound : scope.bindings[inner.text]? = some x)
    (ends : (Token.current rest).kind ≠ .operator) :
    Runs limit scope ⟨.enter (.chain .sum), frames, inner :: rest, depth, memory⟩
      ⟨.leave (.ok x), frames, rest, depth, memory⟩ := by
  have value : step limit scope
      ⟨.enter .unsigned, firstOperand frames, inner :: rest, depth + 1, memory⟩ =
      .inl ⟨.leave (.ok x), firstOperand frames, rest, depth + 1, memory⟩ := by
    simp [step, enter, enterUnsigned, named, Scope.lookup, bound, State.leave]
  have unsigned : (Token.current (inner :: rest)).kind ≠ .operator := by simp [named]
  exact ((runs_to_operand free unsigned).tail value).trans (runs_from_operand ends)

variable (function : name.kind = .function) (opens : opening.kind = .leftParen)
  (named : inner.kind = .variable) (closes : closing.kind = .rightParen)
  (bound : scope.bindings[inner.text]? = some x) (room : 1 < limit)

include function opens named closes bound room

/-- A call with a variable as its argument comes to the variable's value. -/
theorem runs_call_variable (rest : List Token) (memory : σ) :
    Runs limit scope (start (name :: opening :: inner :: closing :: rest) memory)
      ⟨.leave (.ok x), .argument name [] :: .callee :: firstOperand [], closing :: rest, 1,
        memory⟩ := by
  have free (depth : Nat) (few : depth ≤ 1) : (depth : ℕ∞) ≠ limit :=
    ne_of_lt (lt_of_le_of_lt (by exact_mod_cast few) room)
  have entered (frames : List Frame) : step limit scope
      ⟨.enter .unsigned, frames, name :: opening :: inner :: closing :: rest, 1, memory⟩ =
      .inl ⟨.enter .call, .callee :: frames, name :: opening :: inner :: closing :: rest, 1,
        memory⟩ := by
    simp only [step, enter, enterUnsigned, Token.current_cons, function]
    rfl
  have argument (frames : List Frame) : step limit scope
      ⟨.enter .call, frames, name :: opening :: inner :: closing :: rest, 1, memory⟩ =
      .inl ⟨.enter (.chain .sum), .argument name [] :: frames, inner :: closing :: rest, 1,
        memory⟩ := by
    simp [step, enter, enterCall, opens, named, State.descend, Frame.inner]
  have valued (frames : List Frame) :
      Runs limit scope ⟨.enter (.chain .sum), frames, inner :: closing :: rest, 1, memory⟩
        ⟨.leave (.ok x), frames, closing :: rest, 1, memory⟩ :=
    runs_variable (free 1 (Nat.le_refl 1)) named bound (by simp [closes])
  have begins : Runs limit scope (start (name :: opening :: inner :: closing :: rest) memory)
      ⟨.enter .unsigned, firstOperand [], name :: opening :: inner :: closing :: rest, 1,
        memory⟩ :=
    runs_to_operand (free 0 (Nat.zero_le 1)) (by simp [function])
  exact ((begins.tail (entered _)).tail (argument _)).trans (valued _)

/-- A function is called with the value of the variable that is its argument. -/
theorem performs_call_variable (rest : List Token) (memory : σ) :
    Performs limit scope (name :: opening :: inner :: closing :: rest) memory (.call name [x]) :=
  ⟨_, runs_call_variable function opens named closes bound room rest memory, .call closes⟩

/-- What the function gives is the value of the expression that ends with the call. -/
theorem evaluate_call_variable (ends : (Token.current rest).kind = .endOfInput) {w : Float}
    {memory' : σ} (called : Operation.result scope memory (.call name [x]) = (.ok w, memory')) :
    (evaluate limit scope (name :: opening :: inner :: closing :: rest)).run.run memory =
      (.ok w, memory') := by
  have runs := runs_call_variable function opens named closes bound room rest memory
  have other : (Token.current (closing :: rest)).kind ≠ .comma := by simp [closes]
  have left (frames : List Frame) :
      step limit scope ⟨.leave (.ok x), .argument name [] :: frames, closing :: rest, 1, memory⟩ =
        .inl ⟨.leave (.ok w), frames, rest, 1, memory'⟩ := by
    have invoked : invoke scope name [x] ⟨.leave (.ok x), frames, closing :: rest, 1, memory⟩ =
        ⟨.leave (.ok w), frames, rest, 1, memory'⟩ := by
      rw [invoke_of_closed closes, called]
    simp only [step, resume, goOnArguments, if_neg other, List.reverse_singleton, invoked]
  have last : Runs limit scope
      ⟨.leave (.ok w), .callee :: firstOperand [], rest, 1, memory'⟩
      ⟨.leave (.ok w), [], rest, 0, memory'⟩ :=
    .head rfl (runs_from_operand (by simp [ends]))
  show (run limit scope (start _ memory)).finish = _
  rw [Runs.run_eq ((runs.tail (left _)).trans last), run_of_end rfl]
  exact if_pos ends

end Variable

end Descent

end Reckoner
