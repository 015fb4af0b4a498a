import Reckoner.Proofs.Accounts
import Reckoner.Proofs.NestingLimit
import Reckoner.Proofs.Refusals

/-! # Procedures that are entered and left

From a state that enters a procedure an evaluation comes to a first state that leaves it, with a
value or with a failure (`Activation`). What waits below plays no part in this
(`Activation.over`), so a procedure can be looked at as if it had been entered alone. By the
agreement of descending with reading, the counter of open operands is in the end what it was before
(`Follows.alone`), and what has been taken for a value is a phrase, whose parentheses are balanced
(`Derives.balanced`). `Passage` collects what holds of the tokens between the two states, and
`activation_passage` says it of every activation. -/

namespace Reckoner

/-! ## Parentheses in phrases -/

namespace Token

/-- How many parentheses tokens open. -/
def openings (tokens : List Token) : Nat := tokens.countP (·.kind = .leftParen)

/-- How many parentheses tokens close. -/
def closings (tokens : List Token) : Nat := tokens.countP (·.kind = .rightParen)

@[simp] theorem openings_append (tokens more : List Token) :
    openings (tokens ++ more) = openings tokens + openings more := List.countP_append ..

@[simp] theorem closings_append (tokens more : List Token) :
    closings (tokens ++ more) = closings tokens + closings more := List.countP_append ..

/-- As many parentheses are closed as are opened, and nowhere have more been closed by then. -/
structure Balanced (tokens : List Token) : Prop where
  total : closings tokens = openings tokens
  front : ∀ count, closings (tokens.take count) ≤ openings (tokens.take count)

namespace Balanced

variable {tokens more : List Token} {token opening closing : Token}

/-- Without parentheses nothing is out of balance. -/
theorem of_plain (plain : ∀ token ∈ tokens, token.kind ≠ .leftParen ∧ token.kind ≠ .rightParen) :
    Balanced tokens := by
  have none {part : List Token} (inside : ∀ token ∈ part, token ∈ tokens) :
      closings part = 0 ∧ openings part = 0 := by
    constructor
    · exact List.countP_eq_zero.2 fun token member => by simp [(plain token (inside token member)).2]
    · exact List.countP_eq_zero.2 fun token member => by simp [(plain token (inside token member)).1]
  refine ⟨?_, fun count => ?_⟩
  · obtain ⟨closed, opened⟩ := none fun _ member => member
    rw [closed, opened]
  · obtain ⟨closed, opened⟩ := none fun _ member => List.mem_of_mem_take member
    rw [closed, opened]

/-- A token that is no parenthesis is balanced by itself. -/
theorem singleton (plain : token.kind ≠ .leftParen ∧ token.kind ≠ .rightParen) :
    Balanced [token] :=
  of_plain (List.forall_mem_singleton.2 plain)

/-- An operator is balanced by itself. -/
theorem of_op? {op : Op} (found : token.op? = some op) : Balanced [token] :=
  singleton (by simp [kind_of_op? found])

/-- Balanced tokens one after the other are balanced. -/
theorem append (first : Balanced tokens) (second : Balanced more) : Balanced (tokens ++ more) := by
  refine ⟨?_, fun count => ?_⟩
  · rw [closings_append, openings_append, first.total, second.total]
  · rw [List.take_append, closings_append, openings_append]
    exact Nat.add_le_add (first.front count) (second.front (count - tokens.length))

/-- A token that is balanced by itself may stand before balanced tokens. -/
theorem cons (first : Balanced [token]) (second : Balanced tokens) : Balanced (token :: tokens) :=
  first.append second

/-- Balanced tokens may be put in parentheses. -/
theorem enclosed (opens : opening.kind = .leftParen) (inside : Balanced tokens)
    (closes : closing.kind = .rightParen) : Balanced (opening :: (tokens ++ [closing])) := by
  -- the parenthesis in front is one that is open throughout
  have opened (part : List Token) : openings (opening :: part) = openings part + 1 :=
    List.countP_cons_of_pos (by simp [opens])
  have unclosed (part : List Token) : closings (opening :: part) = closings part :=
    List.countP_cons_of_neg (by simp [opens])
  refine ⟨?_, fun count => ?_⟩
  · rw [opened, unclosed, closings_append, openings_append, inside.total]
    simp [closings, openings, closes]
  · cases count with
    | zero => exact Nat.le_refl 0
    | succ count =>
      have last : closings ([closing].take (count - tokens.length)) ≤ 1 :=
        Nat.le_trans List.countP_le_length (List.length_take_le' _ _)
      have front := inside.front count
      rw [List.take_succ_cons, opened, unclosed, List.take_append, closings_append,
        openings_append]
      omega

end Balanced

end Token

open Token in
/-- A chain of balanced parts is balanced. -/
theorem Chain.balanced {level : Level} {tokens : List Token} {e : Expr}
    (parts : Chain level (fun tokens _ => Balanced tokens) tokens e) : Balanced tokens := by
  induction parts with
  | first part => exact part
  | joined _ found _ part ih => exact ih.append (.cons (.of_op? found) part)

open Token in
/-- Balanced parts with commas between them are balanced. -/
theorem Separated.balanced {tokens : List Token} {es : List Expr}
    (parts : Separated (fun tokens _ => Balanced tokens) tokens es) : Balanced tokens := by
  induction parts with
  | one part => exact part
  | more _ comma part ih => exact ih.append (.cons (.singleton (by simp [comma])) part)

/-- The parentheses of a phrase are balanced. -/
theorem Derives.balanced {phrase : Phrase} {tokens : List Token} {e : Expr}
    (derives : Derives phrase tokens e) : Token.Balanced tokens := by
  induction derives using Derives.induct with
  | chain _ parts => exact (parts.mono fun _ _ part => part.2).balanced
  | signed found _ ih =>
    obtain ⟨op, found, _⟩ := Option.bind_eq_some_iff.1 found
    exact .cons (.of_op? found) ih
  | unsigned _ ih => exact ih
  | number kind => exact .singleton (by simp [kind])
  | var kind => exact .singleton (by simp [kind])
  | call _ ih => exact ih
  | grouped opens _ closes ih => exact .enclosed opens ih closes
  | withoutArguments function opens closes =>
    have empty : Token.Balanced [] := .of_plain (List.forall_mem_nil _)
    exact .cons (.singleton (by simp [function])) (.enclosed opens empty closes)
  | withArguments function opens _ closes arguments =>
    have inside := (arguments.mono fun _ _ argument => argument.2).balanced
    exact .cons (.singleton (by simp [function])) (.enclosed opens inside closes)

/-- An unsigned operand that begins with the name of a function is a call. -/
theorem Derives.call_of_function {name : Token} {more : List Token} {e : Expr}
    (derives : Derives .unsigned (name :: more) e) (function : name.kind = .function) :
    Derives .call (name :: more) e := by
  cases derives with
  | call derives => exact derives
  | number kind | var kind | grouped kind =>
    rw [function] at kind
    cases kind

namespace Descent

variable {σ : Type} {scope : Scope σ}

/-! ## Activations -/

/-- The procedure that the first state enters is left at the second one: of all states that come
after the first, the second is the first one in which a procedure has been left and the same
procedures wait. -/
structure Activation (limit : ℕ∞) (scope : Scope σ) (s t : State σ) : Prop where
  reached : Runs limit scope s t
  entered : ∃ procedure, s.mode = .enter procedure
  left : ∃ result, t.mode = .leave result
  frames : t.frames = s.frames
  first : ∀ u, Runs limit scope s u → (∃ result, u.mode = .leave result) → u.frames = s.frames →
    Runs limit scope t u

section Activations

variable {limit : ℕ∞} {s s' t t' u : State σ} {own : List Token} {new : List Invocation}

/-- A procedure is left once. -/
theorem Activation.unique (activation : Activation limit scope s t)
    (activation' : Activation limit scope s t') : t = t' :=
  Runs.antisymm (activation.first t' activation'.reached activation'.left activation'.frames)
    (activation'.first t activation.reached activation.left activation.frames)

/-- Of two states that an evaluation comes to, it comes to one after the other. -/
theorem Runs.total (runs : Runs limit scope s t) (runs' : Runs limit scope s u) :
    Runs limit scope t u ∨ Runs limit scope u t := by
  refine Relation.ReflTransGen.total_of_right_unique ?_ runs runs'
  intro s first second stepped stepped'
  rw [stepped] at stepped'
  exact Sum.inl.inj stepped'

/-- The state with more procedures that wait below those that wait in it. -/
def State.over (s : State σ) (below : List Frame) : State σ :=
  { s with frames := s.frames ++ below }

/-- A transition does not look at the procedures that wait further below. -/
theorem Transition.over (transition : Transition limit scope s own new s') (below : List Frame) :
    Transition limit scope (s.over below) own new (s'.over below) := by
  cases transition with
  | wait frame opens free => exact .wait frame opens free
  | number kind => exact .number kind
  | «variable» kind => exact .variable kind
  | @call mode waiting _ call frames rest depth memory calls =>
    have above : Transition limit scope
        ⟨mode, waiting ++ (frames ++ below), own ++ rest, depth, memory⟩ own [call] _ := .call calls
    rwa [← List.append_assoc] at above
  | @complain mode waiting _ problem frames rest depth memory complains =>
    have above : Transition limit scope
        ⟨mode, waiting ++ (frames ++ below), own ++ rest, depth, memory⟩ own [] _ :=
      .complain complains
    rwa [← List.append_assoc] at above
  | divide fails => exact .divide fails
  | goOn joins found same => exact .goOn joins found same
  | separate kind => exact .separate kind
  | pass passes => exact .pass passes
  | fail => exact .fail

/-- A step does not look at the procedures that wait further below. -/
theorem step_over (named : s.Named) (stepped : step limit scope s = .inl s')
    (below : List Frame) :
    step limit scope (s.over below) = .inl (s'.over below) ∧ s'.Named := by
  obtain ⟨⟨own, calls, transition⟩, named⟩ := turns_of_step named stepped
  exact ⟨(transition.over below).step, named⟩

/-- An evaluation goes on in the same way above other procedures. -/
theorem Runs.over (runs : Runs limit scope s t) (named : s.Named) (below : List Frame) :
    Runs limit scope (s.over below) (t.over below) ∧ t.Named := by
  induction runs with
  | refl => exact ⟨.refl, named⟩
  | tail _ stepped ih =>
    obtain ⟨runs, named⟩ := ih
    obtain ⟨stepped, named⟩ := step_over named stepped below
    exact ⟨runs.tail stepped, named⟩

/-- Above other procedures an evaluation comes to no other states on its way. -/
theorem Runs.exists_over {below : List Frame} (runs : Runs limit scope s t) (named : s.Named)
    (before : Runs limit scope (s.over below) u) (after : Runs limit scope u (t.over below)) :
    ∃ v, u = v.over below ∧ Runs limit scope s v ∧ Runs limit scope v t := by
  induction runs using Relation.ReflTransGen.head_induction_on with
  | refl => exact ⟨t, Runs.antisymm after before, .refl, .refl⟩
  | @head s s' stepped runs ih =>
    obtain ⟨stepped', named'⟩ := step_over named stepped below
    rcases Runs.of_step stepped' before with rfl | before
    · exact ⟨s, rfl, .refl, .head stepped runs⟩
    · obtain ⟨v, same, first, second⟩ := ih named' before
      exact ⟨v, same, .head stepped first, second⟩

/-- **What waits below plays no part in an activation.** -/
theorem Activation.over (activation : Activation limit scope s t) (named : s.Named)
    (below : List Frame) : Activation limit scope (s.over below) (t.over below) := by
  obtain ⟨reached, entered, left, frames, first⟩ := activation
  obtain ⟨above, named'⟩ := reached.over named below
  refine ⟨above, entered, left, congrArg (· ++ below) frames, fun u runs left same => ?_⟩
  rcases Runs.total above runs with after | before
  · exact after
  · -- a state on the way is one without what waits below, and there the end is the first one
    obtain ⟨v, rfl, runs, _⟩ := reached.exists_over named runs before
    exact ((first v runs left (List.append_cancel_right same)).over named' below).1

/-- Where nothing waits below, the end of an activation is the end of the evaluation. -/
theorem Activation.of_alone {procedure : Procedure} {result : Except Diagnostic Float}
    {tokens rest : List Token} {depth depth' : Nat} {memory memory' : σ}
    (runs : Runs limit scope ⟨.enter procedure, [], tokens, depth, memory⟩
      ⟨.leave result, [], rest, depth', memory'⟩) :
    Activation limit scope ⟨.enter procedure, [], tokens, depth, memory⟩
      ⟨.leave result, [], rest, depth', memory'⟩ := by
  refine ⟨runs, ⟨procedure, rfl⟩, ⟨result, rfl⟩, rfl, fun u runs' left same => ?_⟩
  rcases Runs.total runs runs' with after | before
  · exact after
  · obtain ⟨mode, frames, rest, depth, memory⟩ := u
    obtain ⟨result, rfl⟩ := left
    cases same
    -- no step is left there
    rcases Relation.ReflTransGen.cases_head before with same | ⟨next, stepped, _⟩
    · rw [same]
    · cases result <;> cases stepped

end Activations

/-! ## Procedures by themselves -/

/-- What is followed is what a procedure comes to when nothing waits below: it is left at the same
depth, and with the same value if it is left with one. -/
theorem Follows.alone {limit : ℕ∞} {procedure : Procedure} {tokens : List Token} {depth : Nat}
    {x : Evaluation σ (Float × List Token)}
    (follows : Follows limit scope (entering procedure tokens depth) depth x) (memory : σ) :
    ∃ result rest memory', Runs limit scope ⟨.enter procedure, [], tokens, depth, memory⟩
        ⟨.leave result, [], rest, depth, memory'⟩ ∧
      ∀ v, result = .ok v → x.run.run memory = (.ok (v, rest), memory') := by
  cases ran : x.run.run memory with
  | mk result memory' =>
    cases result with
    | ok piece =>
      have runs := @Follows.value _ _ _ _ _ _ follows [] memory piece.1 piece.2 memory' ran
      refine ⟨_, _, _, runs, fun v same => ?_⟩
      cases same
      rfl
    | error d =>
      obtain ⟨rest, runs⟩ := @Follows.failure _ _ _ _ _ _ follows [] memory d memory' ran
      exact ⟨_, _, _, runs, fun v same => by cases same⟩

/-- Only what has been read has a value. -/
theorem exists_of_readValue {read : Except Fault (Expr × List Token)} {v : Float}
    {rest : List Token} {memory memory' : σ}
    (ran : (readValue scope read).run.run memory = (.ok (v, rest), memory')) :
    ∃ e, read = .ok (e, rest) := by
  cases read with
  | error fault =>
    obtain ⟨d, between, raised, _⟩ := @Fault.run_raise σ (Float × List Token) scope fault memory
    rw [readValue, raised] at ran
    cases ran
  | ok piece =>
    obtain ⟨w, between, _, last⟩ := Evaluation.run_bind_eq_ok.1 ran
    cases last
    exact ⟨piece.1, rfl⟩

/-- At a depth within the limit every procedure agrees with reading its phrase. A call is entered at
the name of a function. -/
theorem exists_follows {limit levels depth : Nat} (scope : Scope σ) (left : depth + levels = limit)
    (procedure : Procedure) (tokens : List Token)
    (named : procedure = .call → (Token.current tokens).kind = .function) :
    ∃ read, Follows limit scope (entering procedure tokens depth) depth (readValue scope read) ∧
      ∀ e rest, read = .ok (e, rest) → ∃ taken, tokens = taken ++ rest ∧
        Derives procedure.phrase taken e ∧ procedure.phrase.EndsBefore (Token.current rest) := by
  have agrees := operand_agrees scope left
  have reads := Rule.operand_reads levels
  -- what a rule is known to read, without its nesting
  have whole {rule : Rule} {levels : Nat} {phrase : Phrase} (reads : rule.Reads levels phrase)
      (e : Expr) (rest : List Token) (read : rule.read tokens = .ok (e, rest)) :
      ∃ taken, tokens = taken ++ rest ∧ Derives phrase taken e ∧
        phrase.EndsBefore (Token.current rest) := by
    obtain ⟨taken, equal, derives, _, ends⟩ := reads.sound read
    exact ⟨taken, equal, derives, ends⟩
  cases procedure with
  | chain level =>
    cases level with
    | sum => exact ⟨_, expression_agrees agrees tokens, whole (Rule.expression_reads reads)⟩
    | product =>
      exact ⟨_, chain_agrees .product (chain_agrees .power agrees) tokens,
        whole (Rule.chain_reads .product (Rule.chain_reads .power reads))⟩
    | power => exact ⟨_, chain_agrees .power agrees tokens, whole (Rule.chain_reads .power reads)⟩
  | operand => exact ⟨_, agrees tokens, whole reads⟩
  | signed => exact ⟨_, enclose_agrees agrees tokens, whole (Rule.enclose_reads reads)⟩
  | unsigned =>
    refine ⟨_, unsigned_agrees (expression_agrees agrees) tokens, fun e rest read => ?_⟩
    obtain ⟨taken, equal, derives, _⟩ := Rule.unsigned_sound (Rule.expression_reads reads) read
    exact ⟨taken, equal, derives, fun _ _ => rfl⟩
  | call =>
    obtain ⟨name, inside, rfl, function⟩ := exists_cons_of_kind (named rfl) (by decide)
    refine ⟨_, call_agrees (expression_agrees agrees) name inside, fun e rest read => ?_⟩
    rw [← Rule.unsigned_function function] at read
    obtain ⟨taken, equal, derives, _⟩ := Rule.unsigned_sound (Rule.expression_reads reads) read
    obtain ⟨first, more, rfl, _⟩ := derives.begins
    cases equal
    exact ⟨_, rfl, derives.call_of_function function, fun _ _ => rfl⟩

/-- A procedure that is entered alone, at a depth within the limit, is left at that depth, and no end
of the input has been taken. What has been taken for a value is its phrase. -/
theorem exists_alone {limit levels depth : Nat} (scope : Scope σ) (left : depth + levels = limit)
    (procedure : Procedure) (tokens : List Token)
    (called : procedure = .call → (Token.current tokens).kind = .function) (memory : σ) :
    ∃ result taken rest memory', tokens = taken ++ rest ∧
      Runs limit scope ⟨.enter procedure, [], tokens, depth, memory⟩
        ⟨.leave result, [], rest, depth, memory'⟩ ∧
      (∀ token ∈ taken, token.kind ≠ .endOfInput) ∧
      ∀ v, result = .ok v → ∃ e, Derives procedure.phrase taken e ∧
        procedure.phrase.EndsBefore (Token.current rest) := by
  obtain ⟨read, follows, sound⟩ := exists_follows scope left procedure tokens called
  obtain ⟨result, rest, memory', runs, valued⟩ := follows.alone memory
  have named : (⟨.enter procedure, [], tokens, depth, memory⟩ : State σ).Named :=
    fun entered => called (Mode.enter.inj entered)
  obtain ⟨⟨taken, calls, trace⟩, _⟩ := Runs.trace runs named
  have written : tokens = taken ++ rest := trace.rest_eq
  refine ⟨result, taken, rest, memory', written, runs, trace.kind_ne_endOfInput,
    fun v left => ?_⟩
  -- what has been taken for a value is what has been read
  obtain ⟨e, same⟩ := exists_of_readValue (valued v left)
  obtain ⟨taken', equal, derives, ends⟩ := sound e rest same
  obtain rfl := List.append_cancel_right (written.symm.trans equal)
  exact ⟨e, derives, ends⟩

/-! ## Token sequences -/

/-- Where a procedure may be entered: at a cursor within the tokens, at a depth within the limit,
and if it is a call, at the name of a function. -/
structure Enterable (limit : Nat) (tokens : List Token) (procedure : Procedure)
    (cursor depth : Nat) : Prop where
  cursor_le : cursor ≤ tokens.length
  depth_le : depth ≤ limit
  named : procedure = .call → (Token.current (tokens.drop cursor)).kind = .function

/-- What a procedure has taken that was entered at one cursor and left with the result at another
one. -/
structure Passage (tokens : List Token) (procedure : Procedure) (result : Except Diagnostic Float)
    (cursor cursor' : Nat) : Prop where
  cursor_le : cursor ≤ cursor'
  le_length : cursor' ≤ tokens.length
  /-- The end of the input is not taken. -/
  kind_ne : ∀ token ∈ tokens.extract cursor cursor', token.kind ≠ .endOfInput
  /-- For a value some token is taken. -/
  cursor_lt : ∀ v, result = .ok v → cursor < cursor'
  balanced : ∀ v, result = .ok v → Token.Balanced (tokens.extract cursor cursor')
  /-- After the value of an expression comes no operator. -/
  op?_eq : ∀ v, result = .ok v → procedure = .chain .sum →
    (Token.current (tokens.drop cursor')).op? = none

section Tokens

variable {limit : Nat} {tokens : List Token} {memory : σ} {s : State σ} {procedure : Procedure}

/-- In an evaluation procedures are entered where they may be. -/
theorem Runs.enterable (runs : Runs limit scope (start tokens memory) s)
    (entered : s.mode = .enter procedure) :
    ∃ cursor, s.rest = tokens.drop cursor ∧ Enterable limit tokens procedure cursor s.depth := by
  obtain ⟨⟨taken, calls, trace⟩, named⟩ := Runs.trace runs (named_start tokens memory)
  have counted := Runs.counted runs (counted_start limit tokens memory)
  have written : tokens = taken ++ s.rest := trace.rest_eq
  have rest : s.rest = tokens.drop taken.length := by rw [written, List.drop_left]
  refine ⟨taken.length, rest, ⟨?_, Nat.cast_le.1 counted.le, ?_⟩⟩
  · rw [written, List.length_append]
    exact Nat.le_add_right _ _
  · rintro rfl
    rw [← rest]
    exact named entered

/-- Tokens that are taken from a cursor on are those up to the cursor behind them. -/
theorem extract_of_drop {taken rest : List Token} {cursor : Nat}
    (written : tokens.drop cursor = taken ++ rest) :
    rest = tokens.drop (cursor + taken.length) ∧
      tokens.extract cursor (cursor + taken.length) = taken := by
  constructor
  · rw [← List.drop_drop, written, List.drop_left]
  · rw [List.extract_eq_take_drop, written, Nat.add_sub_cancel_left, List.take_left]

/-- A procedure that is entered where it may be is left at the same depth, whatever waits below. -/
theorem Enterable.passage {cursor depth : Nat}
    (enterable : Enterable limit tokens procedure cursor depth) (scope : Scope σ) (memory : σ) :
    ∃ result cursor' memory', Passage tokens procedure result cursor cursor' ∧
      ∀ frames, Activation limit scope
        ⟨.enter procedure, frames, tokens.drop cursor, depth, memory⟩
        ⟨.leave result, frames, tokens.drop cursor', depth, memory'⟩ := by
  obtain ⟨within, shallow, called⟩ := enterable
  obtain ⟨levels, rfl⟩ := Nat.exists_eq_add_of_le shallow
  obtain ⟨result, taken, rest, memory', written, runs, inside, phrase⟩ :=
    exists_alone scope rfl procedure (tokens.drop cursor) called memory
  obtain ⟨rfl, range⟩ := extract_of_drop written
  refine ⟨result, cursor + taken.length, memory',
    ⟨Nat.le_add_right _ _, ?_, ?_, fun v left => ?_, fun v left => ?_, ?_⟩, fun frames => ?_⟩
  · have length := congrArg List.length written
    rw [List.length_drop, List.length_append] at length
    omega
  · rw [range]
    exact inside
  · obtain ⟨e, derives, _⟩ := phrase v left
    obtain ⟨token, more, rfl, _⟩ := derives.begins
    exact Nat.lt_add_of_pos_right (Nat.succ_pos _)
  · obtain ⟨e, derives, _⟩ := phrase v left
    rw [range]
    exact derives.balanced
  · rintro v left rfl
    obtain ⟨e, _, ends⟩ := phrase v left
    exact Phrase.EndsBefore.op?_eq_none ends
  · exact (Activation.of_alone runs).over (fun entered => called (Mode.enter.inj entered)) frames

/-- **A procedure that is entered is left in order.** An evaluation ends with what the expression is
left with that it enters first. Wherever it enters a procedure, it does so at a cursor within the
tokens, at a depth within the limit, and a call at the name of a function. Entered there, whatever
the tokens are and whatever waits below, every procedure is left, once, with a value or with a
failure: at the same depth, at a cursor that is neither before the first one nor beyond the tokens,
and without having taken an end of the input. With a value it has taken at least one token, the
parentheses of those taken are balanced, and after an expression comes no operator. -/
theorem activation_passage (scope : Scope σ) (tokens : List Token) :
    (∀ memory result rest depth memory', Activation maxLevels scope (start tokens memory)
        ⟨.leave result, [], rest, depth, memory'⟩ →
      (Reckoner.evaluate scope tokens).run.run memory =
        Outcome.finish ⟨result, rest, memory'⟩) ∧
    (∀ memory s procedure, Runs maxLevels scope (start tokens memory) s →
      s.mode = .enter procedure →
      ∃ cursor, s.rest = tokens.drop cursor ∧
        Enterable maxLevels tokens procedure cursor s.depth) ∧
    ∀ procedure cursor depth, Enterable maxLevels tokens procedure cursor depth → ∀ memory,
      ∃ result cursor' memory', Passage tokens procedure result cursor cursor' ∧
        ∀ frames t, Activation maxLevels scope
            ⟨.enter procedure, frames, tokens.drop cursor, depth, memory⟩ t ↔
          t = ⟨.leave result, frames, tokens.drop cursor', depth, memory'⟩ := by
  refine ⟨fun memory result rest depth memory' activation => ?_,
    fun memory s procedure runs entered => runs.enterable entered,
    fun procedure cursor depth enterable memory => ?_⟩
  · rw [run_evaluate_eq_finish, Runs.run_eq activation.reached, run_of_end rfl]
  · obtain ⟨result, cursor', memory', passage, left⟩ := enterable.passage scope memory
    refine ⟨result, cursor', memory', passage, fun frames t => ⟨fun activation => ?_, ?_⟩⟩
    · exact activation.unique (left frames)
    · rintro rfl
      exact left frames

end Tokens

end Descent

end Reckoner
