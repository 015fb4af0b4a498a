import Mathlib.Data.ENat.Basic
import Mathlib.Logic.Relation
import Reckoner.Proofs.Location

/-! # Evaluation by descent

Tokens can be evaluated without building a tree: for every rule of the grammar there is a procedure
that takes the tokens of a phrase and gives their value, and that waits while the procedures it has
entered run. A counter of the operands that are open is compared with a limit whenever one more is
entered. The waiting procedures are kept as a list of frames, so that every moment of an evaluation
is a state and the evaluation is a sequence of steps (`Descent.step`). What a step can do is said
once, in `Move`; every invariant is derived from it. Each step uses something up (`Move.potential`),
so every evaluation ends (`Descent.run`). -/

namespace Reckoner

/-- The procedures, one for each rule of the grammar. -/
inductive Procedure
  /-- A chain of the operators of a level. -/
  | chain (level : Level)
  /-- An operand, which is counted. -/
  | operand
  /-- An operand with a sign, or one without. -/
  | signed
  /-- A number, a variable, a call or a group. -/
  | unsigned
  /-- A function's name and its arguments. -/
  | call

/-- The procedure for the parts of a chain. -/
def Procedure.part : Level → Procedure
  | .sum => .chain .product
  | .product => .chain .power
  | .power => .operand

/-- The parts of a chain are no calls. -/
theorem Procedure.part_ne_call (level : Level) : part level ≠ .call := by
  cases level <;> simp [part]

/-- A procedure that is open and waits for the one that it has entered. -/
inductive Frame
  /-- A chain, for its first part. -/
  | first (level : Level)
  /-- A chain, for the part after an operator. -/
  | next (level : Level) (left : Float) (op : Op) (position : Nat)
  /-- An operand that has been counted. -/
  | operand
  /-- A signed operand, for what has the sign. -/
  | sign (sign : Sign)
  /-- A signed operand, for one without a sign. -/
  | plain
  /-- A group, for the expression in it. -/
  | group
  /-- An unsigned operand, for a call. -/
  | callee
  /-- A call, for an argument after those of `done`, the last one first. -/
  | argument (name : Token) (done : List Float)

namespace Frame

/-- The procedure that waits. -/
def procedure : Frame → Procedure
  | .first level | .next level _ _ _ => .chain level
  | .operand => .operand
  | .sign _ | .plain => .signed
  | .group | .callee => .unsigned
  | .argument _ _ => .call

/-- The procedure that it waits for. -/
def inner : Frame → Procedure
  | .first level | .next level _ _ _ => .part level
  | .operand => .signed
  | .sign _ => .operand
  | .plain => .unsigned
  | .group => .chain .sum
  | .callee => .call
  | .argument _ _ => .chain .sum

/-- How many open operands the frame is. -/
def counted : Frame → Nat
  | .operand => 1
  | _ => 0

end Frame

/-- The number of operands that are open. -/
def opened (frames : List Frame) : Nat := (frames.map Frame.counted).sum

namespace Descent

/-- Whether a procedure is entered or has been left. -/
inductive Mode
  | enter (procedure : Procedure)
  | leave (result : Except Diagnostic Float)

/-- A moment of an evaluation. -/
structure State (σ : Type) where
  mode : Mode
  /-- The procedures that wait, the innermost one first. -/
  frames : List Frame
  /-- The tokens that have not been taken. -/
  rest : List Token
  /-- The counter of open operands. -/
  depth : Nat
  memory : σ

/-- What an evaluation ends with. -/
structure Outcome (σ : Type) where
  result : Except Diagnostic Float
  /-- The tokens that have not been taken. -/
  rest : List Token
  memory : σ

variable {σ : Type}

/-- Evaluation begins with an expression. -/
def start (tokens : List Token) (memory : σ) : State σ :=
  ⟨.enter (.chain .sum), [], tokens, 0, memory⟩

/-- After the expression nothing more may come. -/
def Outcome.finish (outcome : Outcome σ) : Except Diagnostic Float × σ :=
  match outcome.result with
  | .error d => (.error d, outcome.memory)
  | .ok v =>
    let token := Token.current outcome.rest
    if token.kind = .endOfInput then (.ok v, outcome.memory)
    else (.error ⟨.trailing token.kind, token.position⟩, outcome.memory)

namespace State

/-- The procedure waits, and the one that it waits for is entered. -/
def descend (s : State σ) (frame : Frame) (rest : List Token) : State σ :=
  { s with mode := .enter frame.inner, frames := frame :: s.frames, rest }

/-- The procedure is left. -/
def leave (s : State σ) (result : Except Diagnostic Float) (rest : List Token) : State σ :=
  { s with mode := .leave result, rest }

end State

/-! ## Steps -/

/-- The chain goes on with an operator of its level or is left. -/
def goOn (level : Level) (v : Float) (s : State σ) : State σ :=
  let token := Token.current s.rest
  match token.op? with
  | none => s.leave (.ok v) s.rest
  | some op =>
    if op.level = level then s.descend (.next level v op token.position) s.rest.tail
    else s.leave (.ok v) s.rest

/-- The function is called when its arguments are closed. -/
def invoke (scope : Scope σ) (name : Token) (arguments : List Float) (s : State σ) : State σ :=
  let token := Token.current s.rest
  if token.kind = .rightParen then
    let (result, memory) := (scope.call name.text name.position arguments).run.run s.memory
    { s with mode := .leave result, rest := s.rest.tail, memory }
  else s.leave (.error ⟨.missingRightParen, token.position⟩) s.rest

/-- The call goes on with a further argument or calls the function. -/
def goOnArguments (scope : Scope σ) (name : Token) (done : List Float) (s : State σ) : State σ :=
  if (Token.current s.rest).kind = .comma then s.descend (.argument name done) s.rest.tail
  else invoke scope name done.reverse s

/-- An operand without a sign is entered. -/
def enterUnsigned (scope : Scope σ) (s : State σ) : State σ :=
  let token := Token.current s.rest
  match token.kind with
  | .number => s.leave (Scope.literal token.text token.position) s.rest.tail
  | .variable => s.leave (scope.lookup token.text token.position) s.rest.tail
  | .function => s.descend .callee s.rest
  | .leftParen => s.descend .group s.rest.tail
  | kind => s.leave (.error ⟨.unexpected kind, token.position⟩) s.rest

/-- A call is entered. -/
def enterCall (scope : Scope σ) (s : State σ) : State σ :=
  let name := Token.current s.rest
  let inside := s.rest.tail
  let opening := Token.current inside
  if opening.kind = .leftParen then
    if (Token.current inside.tail).kind = .rightParen then
      invoke scope name [] { s with rest := inside.tail }
    else s.descend (.argument name []) inside.tail
  else s.leave (.error ⟨.unexpected opening.kind, opening.position⟩) inside

/-- A procedure is entered. -/
def enter (limit : ℕ∞) (scope : Scope σ) (s : State σ) : Procedure → State σ
  | .chain level => s.descend (.first level) s.rest
  | .operand =>
    if s.depth = limit then
      s.leave (.error ⟨.nestedTooDeeply, (Token.current s.rest).position⟩) s.rest
    else { s.descend .operand s.rest with depth := s.depth + 1 }
  | .signed =>
    match (Token.current s.rest).op?.bind Op.sign? with
    | some sign => s.descend (.sign sign) s.rest.tail
    | none => s.descend .plain s.rest
  | .unsigned => enterUnsigned scope s
  | .call => enterCall scope s

/-- The procedure that has waited goes on with the value it has waited for. -/
def resume (scope : Scope σ) (v : Float) (s : State σ) : Frame → State σ
  | .first level => goOn level v s
  | .next level left op position =>
    match op.apply position left v with
    | .ok joined => goOn level joined s
    | .error d => s.leave (.error d) s.rest
  | .operand => { s.leave (.ok v) s.rest with depth := s.depth - 1 }
  | .sign sign => s.leave (.ok (sign.apply v)) s.rest
  | .plain => s.leave (.ok v) s.rest
  | .group =>
    let token := Token.current s.rest
    if token.kind = .rightParen then s.leave (.ok v) s.rest.tail
    else s.leave (.error ⟨.missingRightParen, token.position⟩) s.rest
  | .callee => s.leave (.ok v) s.rest
  | .argument name done => goOnArguments scope name (v :: done) s

/-- The procedure that has waited is left with the failure of the one that it has waited for. -/
def fail (d : Diagnostic) (s : State σ) : Frame → State σ
  | .operand => { s.leave (.error d) s.rest with depth := s.depth - 1 }
  | _ => s.leave (.error d) s.rest

/-- The next moment of an evaluation, or what it ends with. -/
def step (limit : ℕ∞) (scope : Scope σ) (s : State σ) : State σ ⊕ Outcome σ :=
  match s.mode, s.frames with
  | .enter procedure, _ => .inl (enter limit scope s procedure)
  | .leave result, [] => .inr ⟨result, s.rest, s.memory⟩
  | .leave (.ok v), frame :: frames => .inl (resume scope v { s with frames } frame)
  | .leave (.error d), frame :: frames => .inl (fail d { s with frames } frame)

/-! ## What a step can do -/

/-- The result is that operands nest too deeply. -/
def IsTooDeep (result : Except Diagnostic Float) : Prop :=
  ∃ position, result = .error ⟨.nestedTooDeeply, position⟩

/-- A value is not too deep. -/
@[simp] theorem not_isTooDeep_ok (v : Float) : ¬ IsTooDeep (.ok v) := by
  rintro ⟨position, same⟩
  cases same

/-- Only too deep nesting is reported as such. -/
@[simp] theorem isTooDeep_error (d : Diagnostic) :
    IsTooDeep (.error d) ↔ d.problem = .nestedTooDeeply := by
  constructor
  · rintro ⟨position, same⟩
    cases same
    rfl
  · obtain ⟨problem, position⟩ := d
    rintro rfl
    exact ⟨position, rfl⟩

/-- How far a procedure is from taking a token: the procedures that it may enter before weigh less.
-/
def weight : Procedure → Nat
  | .chain .sum => 14
  | .chain .product => 12
  | .chain .power => 10
  | .operand => 8
  | .signed => 6
  | .unsigned => 4
  | .call => 2

/-- What a step can do. -/
inductive Move (limit : ℕ∞) : State σ → State σ → Prop
  /-- A procedure waits for another one, which is entered. -/
  | descend {frames rest memory} {depth : Nat} (frame : Frame) {rest' : List Token}
      (counts : frame = .operand → (depth : ℕ∞) ≠ limit)
      (uses : rest'.length < rest.length ∨
        rest' = rest ∧ weight frame.inner + 2 ≤ weight frame.procedure) :
      Move limit ⟨.enter frame.procedure, frames, rest, depth, memory⟩
        ⟨.enter frame.inner, frame :: frames, rest', depth + frame.counted, memory⟩
  /-- A procedure is left again without waiting. -/
  | finish {procedure frames rest memory} {depth : Nat} {result : Except Diagnostic Float}
      {rest' : List Token} {memory' : σ} (uses : rest'.length ≤ rest.length)
      (takes : ∀ v, result = .ok v → rest'.length < rest.length)
      (deep : IsTooDeep result → procedure = .operand ∧ depth = limit) :
      Move limit ⟨.enter procedure, frames, rest, depth, memory⟩
        ⟨.leave result, frames, rest', depth, memory'⟩
  /-- A procedure that has waited waits for another one. -/
  | again {v frames rest depth memory} (frame next : Frame) {rest' : List Token}
      (same : next.procedure = frame.procedure) (uncounted : frame.counted = 0)
      (uncounted' : next.counted = 0) (uses : rest'.length < rest.length) :
      Move limit ⟨.leave (.ok v), frame :: frames, rest, depth, memory⟩
        ⟨.enter next.inner, next :: frames, rest', depth, memory⟩
  /-- A procedure that has waited is left, with a failure if it has waited for one. -/
  | leave {frames rest depth memory} (frame : Frame) {result result' : Except Diagnostic Float}
      {rest' : List Token} {memory' : σ} (uses : rest'.length ≤ rest.length)
      (fails : ∀ d, result = .error d → result' = .error d)
      (deep : IsTooDeep result' → result = result') :
      Move limit ⟨.leave result, frame :: frames, rest, depth, memory⟩
        ⟨.leave result', frames, rest', depth - frame.counted, memory'⟩

/-- Where the current token is not the end of the input, there is one. -/
theorem exists_eq_cons {tokens : List Token} (other : (Token.current tokens).kind ≠ .endOfInput) :
    ∃ token more, tokens = token :: more := by
  cases tokens with
  | nil => exact absurd rfl other
  | cons token more => exact ⟨token, more, rfl⟩

/-- Taking a token leaves fewer. -/
theorem length_tail_lt {tokens : List Token} (other : (Token.current tokens).kind ≠ .endOfInput) :
    tokens.tail.length < tokens.length := by
  obtain ⟨token, more, rfl⟩ := exists_eq_cons other
  exact Nat.lt_succ_self _

/-- An operator is not the end of the input. -/
theorem kind_ne_of_op? {token : Token} {op : Op} (found : token.op? = some op) :
    token.kind ≠ .endOfInput := by
  rw [Token.kind_of_op? found]
  decide

section Moves

variable {limit : ℕ∞} {scope : Scope σ} {frames : List Frame} {rest rest' : List Token}
  {depth : Nat} {memory memory' : σ} {v w : Float} {d : Diagnostic}

namespace Move

/-- Where a procedure fails at once, it does so because of the depth only if it counts and the limit
is reached. -/
theorem finish_error {procedure : Procedure} (uses : rest'.length ≤ rest.length)
    (deep : d.problem = .nestedTooDeeply → procedure = .operand ∧ depth = limit) :
    Move limit ⟨.enter procedure, frames, rest, depth, memory⟩
      ⟨.leave (.error d), frames, rest', depth, memory'⟩ :=
  .finish uses (fun _ same => by cases same) fun problem => deep ((isTooDeep_error d).1 problem)

/-- A value may be followed by a value. -/
theorem leave_ok (frame : Frame) (uses : rest'.length ≤ rest.length) :
    Move limit ⟨.leave (.ok v), frame :: frames, rest, depth, memory⟩
      ⟨.leave (.ok w), frames, rest', depth - frame.counted, memory'⟩ :=
  .leave frame uses (fun _ same => by cases same) fun deep => absurd deep (not_isTooDeep_ok w)

/-- A value may be followed by a failure that does not come from the depth. -/
theorem leave_error (frame : Frame) (uses : rest'.length ≤ rest.length)
    (other : d.problem ≠ .nestedTooDeeply) :
    Move limit ⟨.leave (.ok v), frame :: frames, rest, depth, memory⟩
      ⟨.leave (.error d), frames, rest', depth - frame.counted, memory'⟩ :=
  .leave frame uses (fun _ same => by cases same)
    fun deep => absurd ((isTooDeep_error d).1 deep) other

end Move

/-- A chain goes on behind an operator or is left. -/
theorem goOn_cases (level : Level) (v : Float) (s : State σ) :
    (∃ left op position, goOn level v s = s.descend (.next level left op position) s.rest.tail ∧
      s.rest.tail.length < s.rest.length) ∨ goOn level v s = s.leave (.ok v) s.rest := by
  rw [goOn]
  cases found : (Token.current s.rest).op? with
  | none => exact .inr rfl
  | some op =>
    by_cases same : op.level = level
    · exact .inl ⟨v, op, _, if_pos same, length_tail_lt (kind_ne_of_op? found)⟩
    · exact .inr (if_neg same)

/-- A call is left, and never because of the depth. -/
theorem invoke_cases (scope : Scope σ) (name : Token) (arguments : List Float) (s : State σ) :
    ∃ result rest memory, invoke scope name arguments s =
        { s with mode := .leave result, rest, memory } ∧
      rest.length ≤ s.rest.length ∧ ¬ IsTooDeep result := by
  rw [invoke]
  by_cases closes : (Token.current s.rest).kind = .rightParen
  · refine ⟨_, _, _, if_pos closes, by simp, ?_⟩
    rintro ⟨position, failed⟩
    have fails : Evaluation.Fails (scope.call name.text name.position arguments)
        ⟨.nestedTooDeeply, position⟩ := ⟨s.memory, _, Prod.ext failed rfl⟩
    obtain ⟨cause, same⟩ := Scope.fails_call fails
    cases same
  · exact ⟨_, _, _, if_neg closes, Nat.le_refl _, by simp⟩

/-- Entering an unsigned operand is a move. -/
theorem move_enterUnsigned (scope : Scope σ) (frames : List Frame) (rest : List Token)
    (depth : Nat) (memory : σ) :
    Move limit ⟨.enter .unsigned, frames, rest, depth, memory⟩
      (enterUnsigned scope ⟨.enter .unsigned, frames, rest, depth, memory⟩) := by
  rw [enterUnsigned]
  have shorter (proper : (Token.current rest).kind ≠ .endOfInput) := length_tail_lt proper
  -- a number or a variable is one token, whether it has a value or not
  have atom {result : Except Diagnostic Float} (proper : (Token.current rest).kind ≠ .endOfInput)
      (shallow : ¬ IsTooDeep result) : Move limit ⟨.enter .unsigned, frames, rest, depth, memory⟩
      ⟨.leave result, frames, rest.tail, depth, memory⟩ :=
    .finish (Nat.le_of_lt (shorter proper)) (fun _ _ => shorter proper)
      fun deep => absurd deep shallow
  cases kind : (Token.current rest).kind with
  | number =>
    refine atom (by simp [kind]) ?_
    rw [Scope.literal]
    split <;> simp
  | «variable» =>
    refine atom (by simp [kind]) ?_
    rw [Scope.lookup]
    split <;> simp
  | function => exact .descend .callee (by simp) (.inr ⟨rfl, Nat.le_refl _⟩)
  | leftParen => exact .descend .group (by simp) (.inl (shorter (by simp [kind])))
  | _ => exact .finish_error (Nat.le_refl _) (by simp)

/-- Entering a call is a move. -/
theorem move_enterCall (scope : Scope σ) (frames : List Frame) (rest : List Token)
    (depth : Nat) (memory : σ) :
    Move limit ⟨.enter .call, frames, rest, depth, memory⟩
      (enterCall scope ⟨.enter .call, frames, rest, depth, memory⟩) := by
  rw [enterCall]
  have inside : rest.tail.length ≤ rest.length := by simp
  by_cases opens : (Token.current rest.tail).kind = .leftParen
  · have shorter : rest.tail.tail.length < rest.length :=
      Nat.lt_of_lt_of_le (length_tail_lt (by simp [opens])) inside
    by_cases closes : (Token.current rest.tail.tail).kind = .rightParen
    · simp only [if_pos opens, if_pos closes]
      obtain ⟨result, rest', memory', same, uses, shallow⟩ :=
        invoke_cases scope (Token.current rest) []
          ⟨.enter .call, frames, rest.tail.tail, depth, memory⟩
      have less : rest'.length < rest.length := Nat.lt_of_le_of_lt uses shorter
      rw [same]
      exact .finish (Nat.le_of_lt less) (fun _ _ => less) fun deep => absurd deep shallow
    · simp only [if_pos opens, if_neg closes]
      exact .descend (.argument (Token.current rest) []) (by simp) (.inl shorter)
  · simp only [if_neg opens]
    exact .finish_error inside (by simp)

/-- Entering a procedure is a move. -/
theorem move_enter (scope : Scope σ) (procedure : Procedure) (frames : List Frame)
    (rest : List Token) (depth : Nat) (memory : σ) :
    Move limit ⟨.enter procedure, frames, rest, depth, memory⟩
      (enter limit scope ⟨.enter procedure, frames, rest, depth, memory⟩ procedure) := by
  cases procedure with
  | chain level => exact .descend (.first level) (by simp) (.inr ⟨rfl, by cases level <;> decide⟩)
  | operand =>
    rw [enter]
    by_cases full : (depth : ℕ∞) = limit
    · rw [if_pos full]
      exact .finish_error (Nat.le_refl _) fun _ => ⟨rfl, full⟩
    · rw [if_neg full]
      exact .descend .operand (fun _ => full) (.inr ⟨rfl, Nat.le_refl _⟩)
  | signed =>
    rw [enter]
    cases found : (Token.current rest).op?.bind Op.sign? with
    | none => exact .descend .plain (by simp) (.inr ⟨rfl, Nat.le_refl _⟩)
    | some sign =>
      obtain ⟨op, some, _⟩ := Option.bind_eq_some_iff.1 found
      exact .descend (.sign sign) (by simp) (.inl (length_tail_lt (kind_ne_of_op? some)))
  | unsigned => exact move_enterUnsigned scope frames rest depth memory
  | call => exact move_enterCall scope frames rest depth memory

/-- A chain that goes on after a part is a move. -/
theorem move_goOn (level : Level) (w : Float) {frame : Frame}
    (chain : frame.procedure = .chain level) (uncounted : frame.counted = 0) :
    Move limit ⟨.leave (.ok v), frame :: frames, rest, depth, memory⟩
      (goOn level w ⟨.leave (.ok v), frames, rest, depth, memory⟩) := by
  rcases goOn_cases level w ⟨.leave (.ok v), frames, rest, depth, memory⟩ with
    ⟨left, op, position, same, shorter⟩ | same
  · rw [same]
    exact .again frame (.next level left op position) chain.symm uncounted rfl shorter
  · rw [same]
    have left : Move limit ⟨.leave (.ok v), frame :: frames, rest, depth, memory⟩
        ⟨.leave (.ok w), frames, rest, depth - frame.counted, memory⟩ :=
      .leave_ok frame (Nat.le_refl _)
    rwa [uncounted] at left

/-- A call that goes on after an argument is a move. -/
theorem move_goOnArguments (scope : Scope σ) (name : Token) (done done' : List Float) :
    Move limit ⟨.leave (.ok v), .argument name done :: frames, rest, depth, memory⟩
      (goOnArguments scope name done' ⟨.leave (.ok v), frames, rest, depth, memory⟩) := by
  rw [goOnArguments]
  by_cases comma : (Token.current rest).kind = .comma
  · simp only [if_pos comma]
    exact .again (.argument name done) (.argument name done') rfl rfl rfl
      (length_tail_lt (by simp [comma]))
  · simp only [if_neg comma]
    obtain ⟨result, rest', memory', same, uses, shallow⟩ :=
      invoke_cases scope name done'.reverse ⟨.leave (.ok v), frames, rest, depth, memory⟩
    rw [same]
    exact .leave (.argument name done) uses (fun _ same => by cases same)
      fun deep => absurd deep shallow

/-- Going on with a value is a move. -/
theorem move_resume (scope : Scope σ) (frame : Frame) :
    Move limit ⟨.leave (.ok v), frame :: frames, rest, depth, memory⟩
      (resume scope v ⟨.leave (.ok v), frames, rest, depth, memory⟩ frame) := by
  cases frame with
  | first level => exact move_goOn level v rfl rfl
  | next level left op position =>
    rw [resume]
    cases applied : op.apply position left v with
    | ok w => exact move_goOn level w rfl rfl
    | error d =>
      obtain ⟨_, rfl⟩ := Op.apply_eq_error applied
      exact .leave_error (.next level left op position) (Nat.le_refl _) (by simp)
  | operand => exact .leave_ok .operand (Nat.le_refl _)
  | sign sign => exact .leave_ok (.sign sign) (Nat.le_refl _)
  | plain => exact .leave_ok .plain (Nat.le_refl _)
  | callee => exact .leave_ok .callee (Nat.le_refl _)
  | group =>
    rw [resume]
    by_cases closes : (Token.current rest).kind = .rightParen
    · simp only [if_pos closes]
      exact .leave_ok .group (Nat.le_of_lt (length_tail_lt (by simp [closes])))
    · simp only [if_neg closes]
      exact .leave_error .group (Nat.le_refl _) (by simp)
  | argument name done => exact move_goOnArguments scope name done (v :: done)

/-- **Every step is a move.** -/
theorem move_of_step {s s' : State σ} (stepped : step limit scope s = .inl s') :
    Move limit s s' := by
  obtain ⟨mode, frames, rest, depth, memory⟩ := s
  cases mode with
  | enter procedure =>
    cases stepped
    exact move_enter scope procedure frames rest depth memory
  | leave result =>
    cases frames with
    | nil => cases result <;> cases stepped
    | cons frame frames =>
      cases result with
      | ok v =>
        cases stepped
        exact move_resume scope frame
      | error d =>
        cases stepped
        have left : Move limit ⟨.leave (.error d), frame :: frames, rest, depth, memory⟩
            ⟨.leave (.error d), frames, rest, depth - frame.counted, memory⟩ :=
          .leave frame (Nat.le_refl _) (fun _ same => same) fun _ => rfl
        cases frame <;> exact left

end Moves

/-! ## Runs -/

/-- What a state has left to use up: tokens to take, procedures to leave and procedures to enter. -/
def State.potential (s : State σ) : Nat :=
  16 * s.rest.length + s.frames.length + match s.mode with
    | .enter procedure => weight procedure
    | .leave _ => 0

/-- A procedure weighs something, and less than a token. -/
theorem weight_bounds (procedure : Procedure) : 0 < weight procedure ∧ weight procedure < 15 := by
  unfold weight
  split <;> decide

/-- Every move uses something up. -/
theorem Move.potential_lt {limit : ℕ∞} {s s' : State σ} (move : Move limit s s') :
    s'.potential < s.potential := by
  cases move with
  | descend frame _ uses =>
    simp only [State.potential, List.length_cons]
    have bounds := weight_bounds frame.inner
    rcases uses with shorter | ⟨rfl, less⟩ <;> omega
  | @finish procedure _ _ _ _ _ _ _ uses =>
    simp only [State.potential]
    have bounds := weight_bounds procedure
    omega
  | again frame next _ _ _ uses =>
    simp only [State.potential, List.length_cons]
    have bounds := weight_bounds next.inner
    omega
  | leave frame uses =>
    simp only [State.potential, List.length_cons]
    omega

/-- What an evaluation ends with from a state on. -/
def run (limit : ℕ∞) (scope : Scope σ) (s : State σ) : Outcome σ :=
  match _h : step limit scope s with
  | .inl s' => run limit scope s'
  | .inr outcome => outcome
termination_by s.potential
decreasing_by exact (move_of_step _h).potential_lt

/-- The value of tokens that are one expression, of which no more operands than the limit may be
open at a time. -/
def evaluate (limit : ℕ∞) (scope : Scope σ) (tokens : List Token) : Evaluation σ Float :=
  ExceptT.mk fun memory => (run limit scope (start tokens memory)).finish

/-- One state comes after another one in an evaluation. -/
abbrev Runs (limit : ℕ∞) (scope : Scope σ) : State σ → State σ → Prop :=
  Relation.ReflTransGen fun s s' => step limit scope s = .inl s'

section Runs

variable {limit : ℕ∞} {scope : Scope σ} {s s' t : State σ}

/-- A step does not change what the evaluation ends with. -/
theorem run_of_step (stepped : step limit scope s = .inl s') :
    run limit scope s = run limit scope s' := by
  rw [run]
  split
  · rename_i again
    rw [stepped] at again
    cases again
    rfl
  · rename_i ended
    rw [stepped] at ended
    cases ended

/-- Where no step is left the evaluation has ended. -/
theorem run_of_end {outcome : Outcome σ} (ended : step limit scope s = .inr outcome) :
    run limit scope s = outcome := by
  rw [run]
  split
  · rename_i stepped
    rw [ended] at stepped
    cases stepped
  · rename_i again
    rw [ended] at again
    cases again
    rfl

/-- An evaluation goes on inside the procedure that is entered. -/
theorem run_enter (limit : ℕ∞) (scope : Scope σ) (procedure : Procedure) (frames : List Frame)
    (rest : List Token) (depth : Nat) (memory : σ) :
    run limit scope ⟨.enter procedure, frames, rest, depth, memory⟩ =
      run limit scope
        (enter limit scope ⟨.enter procedure, frames, rest, depth, memory⟩ procedure) :=
  run_of_step rfl

/-- An evaluation goes on with the procedure that has waited for a value. -/
theorem run_resume (limit : ℕ∞) (scope : Scope σ) (v : Float) (frame : Frame)
    (frames : List Frame) (rest : List Token) (depth : Nat) (memory : σ) :
    run limit scope ⟨.leave (.ok v), frame :: frames, rest, depth, memory⟩ =
      run limit scope (resume scope v ⟨.leave (.ok v), frames, rest, depth, memory⟩ frame) :=
  run_of_step rfl

/-- The states of an evaluation all end with the same. -/
theorem Runs.run_eq (runs : Runs limit scope s t) : run limit scope s = run limit scope t := by
  induction runs with
  | refl => rfl
  | tail _ stepped ih => rw [ih, run_of_step stepped]

/-- Every evaluation comes to its end. -/
theorem exists_last (limit : ℕ∞) (scope : Scope σ) (s : State σ) :
    ∃ last, Runs limit scope s last ∧ step limit scope last = .inr (run limit scope s) := by
  induction s using WellFounded.induction (measure State.potential).wf with
  | _ s ih =>
    cases stepped : step limit scope s with
    | inl s' =>
      obtain ⟨last, runs, ended⟩ := ih s' (move_of_step stepped).potential_lt
      rw [run_of_step stepped]
      exact ⟨last, .head stepped runs, ended⟩
    | inr outcome =>
      rw [run_of_end stepped]
      exact ⟨s, .refl, stepped⟩

/-- What an evaluation ends with is what the last procedure is left with. -/
theorem exists_runs_leave (limit : ℕ∞) (scope : Scope σ) (s : State σ) :
    let outcome := run limit scope s
    ∃ depth, Runs limit scope s
      ⟨.leave outcome.result, [], outcome.rest, depth, outcome.memory⟩ := by
  intro outcome
  obtain ⟨⟨mode, frames, rest, depth, memory⟩, runs, ended⟩ := exists_last limit scope s
  cases mode with
  | enter procedure => cases ended
  | leave result =>
    cases frames with
    | cons frame frames => cases result <;> cases ended
    | nil =>
      have same : outcome = ⟨result, rest, memory⟩ := (Sum.inr.inj ended).symm
      rw [same]
      exact ⟨depth, runs⟩

/-- A failure is what the evaluation ends with, and nothing is done after it. -/
theorem run_leave_error (limit : ℕ∞) (scope : Scope σ) (d : Diagnostic) (frames : List Frame)
    (rest : List Token) (depth : Nat) (memory : σ) :
    run limit scope ⟨.leave (.error d), frames, rest, depth, memory⟩ =
      ⟨.error d, rest, memory⟩ := by
  induction frames generalizing depth with
  | nil => exact run_of_end rfl
  | cons frame frames ih =>
    rw [run_of_step rfl]
    cases frame <;> exact ih _

end Runs

end Descent

end Reckoner
