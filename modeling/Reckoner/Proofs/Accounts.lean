import Reckoner.Proofs.CallOrder
import Reckoner.Proofs.Transitions

/-! # What the tokens taken account for

The tokens that an evaluation has taken account for all that it has come to: every procedure that
waits holds the value of what it has taken (`Held`), what is left with a value has taken a phrase
whose tree has that value, and a failure is one of the last token taken, of the next token, or of
the last call (`Diagnostic.IsRaised`). The memory is in the state that the calls made so far have
left, and the calls made are those completed by the tokens taken, in the same order (`Ordered`).
`State.Accounts` is the invariant of all this, `Transition.accounts` says that each transition keeps
it, and `Trace.accounts` that every trace from the start does. -/

namespace Reckoner

open Evaluation

variable {σ : Type} {scope : Scope σ}

/-! ## Values of trees -/

namespace Expr

/-- The value of two trees that an operator joins. -/
theorem run_binary {op : Op} {position : Nat} {left right : Expr} {v w : Float}
    {memory between memory' : σ} (first : (left.value scope).run.run memory = (.ok v, between))
    (second : (right.value scope).run.run between = (.ok w, memory')) :
    ((Expr.binary op position left right).value scope).run.run memory =
      (op.apply position v w, memory') := by
  rw [value, run_bind_of_ok first, run_bind_of_ok second]
  cases op.apply position v w <;> rfl

/-- The value of a tree with a sign. -/
theorem run_signed {sign : Sign} {position : Nat} {operand : Expr} {v : Float} {memory memory' : σ}
    (run : (operand.value scope).run.run memory = (.ok v, memory')) :
    ((Expr.signed sign position operand).value scope).run.run memory =
      (.ok (sign.apply v), memory') := by
  rw [value, run_bind_of_ok run]
  rfl

/-- The value of a call. -/
theorem run_call {name : String} {position : Nat} {es : List Expr} {arguments : List Float}
    {memory between : σ} (run : (values scope es).run.run memory = (.ok arguments, between)) :
    ((Expr.call name position es).value scope).run.run memory =
      (scope.call name position arguments).run.run between := by
  rw [value, run_bind_of_ok run]

/-- The values of trees and of one more. -/
theorem run_values_concat {es : List Expr} {e : Expr} {vs : List Float} {v : Float}
    {memory between memory' : σ} (first : (values scope es).run.run memory = (.ok vs, between))
    (last : (e.value scope).run.run between = (.ok v, memory')) :
    (values scope (es ++ [e])).run.run memory = (.ok (vs ++ [v]), memory') := by
  have single : (values scope [e]).run.run between = (.ok [v], memory') := by
    rw [values, run_bind_of_ok last]
    rfl
  rw [values_append, run_bind_of_ok first, run_bind_of_ok single]
  rfl

/-- Trees have as many values as they are. -/
theorem length_of_values {es : List Expr} {vs : List Float} {memory memory' : σ}
    (run : (values scope es).run.run memory = (.ok vs, memory')) : vs.length = es.length := by
  induction es generalizing vs memory with
  | nil =>
    rw [values] at run
    cases run
    rfl
  | cons e es ih =>
    rw [values, run_bind_eq_ok] at run
    obtain ⟨v, between, _, run⟩ := run
    obtain ⟨ws, after, others, last⟩ := run_bind_eq_ok.1 run
    cases last
    rw [List.length_cons, List.length_cons, ih others]

end Expr

/-! ## What procedures take and open -/

/-- The phrase that a procedure takes the tokens of. -/
def Procedure.phrase : Procedure → Phrase
  | .chain level => level.chain
  | .operand | .signed => .operand
  | .unsigned => .unsigned
  | .call => .call

/-- The procedure for the parts of a chain takes a part. -/
@[simp] theorem Procedure.phrase_part (level : Level) :
    (Procedure.part level).phrase = level.part := by
  cases level <;> rfl

/-- The parenthesis that a procedure has opened before it waits, with the function whose arguments
it opens. -/
def Frame.opening : Frame → Option (Option Token)
  | .group => some none
  | .argument name _ => some (some name)
  | _ => none

/-- The function whose arguments a procedure waits for. -/
def Frame.caller : Frame → Option Token
  | .argument name _ => some name
  | _ => none

namespace Descent

/-- The parentheses that are open after the tokens are those of the procedures that wait; the calls
completed by the tokens are those that have been made, in the same order; and each function among
the tokens has been called or waits for its arguments. -/
structure Ordered (frames : List Frame) (taken : List Token) (calls : List Invocation) : Prop where
  tokens : Calls.ofTokens taken =
    ⟨none, frames.filterMap Frame.opening, calls.map (·.name)⟩
  functions : (taken.filter (·.kind = .function)).Perm
    (calls.map (·.name) ++ frames.filterMap Frame.caller)

namespace Ordered

variable {frames : List Frame} {frame : Frame} {taken : List Token} {calls : List Invocation}
  {token name opening closing : Token}

/-- The calls completed are those that have been made. -/
theorem completed (ordered : Ordered frames taken calls) :
    completedCalls taken = calls.map (·.name) :=
  congrArg Calls.completed ordered.tokens

/-- A procedure that has opened no parenthesis makes no difference. -/
theorem frame_iff (unopened : frame.opening = none) :
    Ordered (frame :: frames) taken calls ↔ Ordered frames taken calls := by
  have uncalled : frame.caller = none := by cases frame <;> first | rfl | cases unopened
  constructor
  · rintro ⟨tokens, functions⟩
    rw [List.filterMap_cons_none unopened] at tokens
    rw [List.filterMap_cons_none uncalled] at functions
    exact ⟨tokens, functions⟩
  · rintro ⟨tokens, functions⟩
    rw [← List.filterMap_cons_none unopened] at tokens
    rw [← List.filterMap_cons_none uncalled] at functions
    exact ⟨tokens, functions⟩

/-- A token that is neither a function nor a parenthesis makes no difference. -/
theorem other {kind : Token.Kind} (ordered : Ordered frames taken calls) (found : token.kind = kind)
    (plain : kind ≠ .function ∧ kind ≠ .leftParen ∧ kind ≠ .rightParen) :
    Ordered frames (taken ++ [token]) calls where
  tokens := Calls.ofTokens_other ordered.tokens (found ▸ plain)
  functions := by
    subst found
    simpa [plain.1] using ordered.functions

/-- A group is opened. -/
theorem group (ordered : Ordered frames taken calls) (opens : opening.kind = .leftParen) :
    Ordered (.group :: frames) (taken ++ [opening]) calls where
  tokens := Calls.ofTokens_group ordered.tokens opens
  functions := by simpa [opens, List.filterMap_cons, Frame.caller] using ordered.functions

/-- Arguments are opened. -/
theorem argument (ordered : Ordered frames taken calls) (function : name.kind = .function)
    (opens : opening.kind = .leftParen) (done : List Float) :
    Ordered (.argument name done :: frames) (taken ++ [name, opening]) calls where
  tokens := Calls.ofTokens_arguments ordered.tokens function opens
  functions := by
    have waits : (Frame.argument name done :: frames).filterMap Frame.caller =
        name :: frames.filterMap Frame.caller := rfl
    have named : (taken ++ [name, opening]).filter (·.kind = .function) =
        taken.filter (·.kind = .function) ++ [name] := by simp [function, opens]
    rw [waits, named]
    have last := ordered.functions.append_right [name]
    rw [List.append_assoc] at last
    exact last.trans ((List.perm_append_singleton _ _).append_left _)

/-- Which arguments are done makes no difference. -/
theorem done {values values' : List Float}
    (ordered : Ordered (.argument name values :: frames) taken calls) :
    Ordered (.argument name values' :: frames) taken calls := ⟨ordered.tokens, ordered.functions⟩

/-- The tokens that a procedure opens with make no difference but for its parenthesis. -/
theorem opens {own : List Token} {next : Token} (ordered : Ordered frames taken calls)
    (opens : frame.Opens own next) : Ordered (frame :: frames) (taken ++ own) calls := by
  cases opens with
  | group opens => exact ordered.group opens
  | argument function opens => exact ordered.argument function opens []
  | sign found =>
    obtain ⟨op, some, _⟩ := Option.bind_eq_some_iff.1 found
    exact (frame_iff rfl).2 (ordered.other (Token.kind_of_op? some) (by decide))
  | _ => exact (frame_iff rfl).2 (by simpa using ordered)

/-- A group is closed. -/
theorem ungroup (ordered : Ordered (.group :: frames) taken calls)
    (closes : closing.kind = .rightParen) : Ordered frames (taken ++ [closing]) calls where
  tokens := by simpa using Calls.ofTokens_closed ordered.tokens closes
  functions := by simpa [closes, List.filterMap_cons, Frame.caller] using ordered.functions

/-- A call is completed and made. -/
theorem call {arguments done : List Float}
    (ordered : Ordered (.argument name done :: frames) taken calls)
    (closes : closing.kind = .rightParen) :
    Ordered frames (taken ++ [closing]) (calls ++ [⟨name, arguments⟩]) where
  tokens := by simpa using Calls.ofTokens_closed ordered.tokens closes
  functions := by simpa [closes, List.filterMap_cons, Frame.caller] using ordered.functions

end Ordered

end Descent

/-! ## What procedures hold while they wait -/

/-- The tokens that a procedure has taken before the one that it waits for. What it holds are the
values of the trees of these tokens, found from the first memory to the second one. -/
inductive Frame.Holds (scope : Scope σ) : Frame → List Token → σ → σ → Prop
  | opens {frame own next memory} : Frame.Opens frame own next →
      Holds scope frame own memory memory
  | next {level tokens e token op v memory memory'} : Derives level.chain tokens e →
      (e.value scope).run.run memory = (.ok v, memory') → token.op? = some op → op.level = level →
      Holds scope (.next level v op token.position) (tokens ++ [token]) memory memory'
  | arguments {name opening tokens es comma done memory memory'} : name.kind = .function →
      opening.kind = .leftParen → Separated (Derives .expression) tokens es →
      (Expr.values scope es).run.run memory = (.ok done.reverse, memory') → comma.kind = .comma →
      Holds scope (.argument name done) (name :: opening :: (tokens ++ [comma])) memory memory'

namespace Frame

variable {frame : Frame} {level : Level} {own closing tokens : List Token} {next : Token} {e : Expr}
  {v w : Float} {memory between memory' : σ}

/-- A procedure that joins values is a chain. -/
theorem Joins.procedure_eq (joins : frame.Joins level v w) : frame.procedure = .chain level := by
  cases joins <;> rfl

/-- A procedure that joins values waits for a part of its chain. -/
theorem Joins.phrase_inner (joins : frame.Joins level v w) : frame.inner.phrase = level.part := by
  cases joins <;> exact Procedure.phrase_part level

/-- Joined to what a chain holds, the value of a further part is that of the longer chain. -/
theorem Joins.value (joins : frame.Joins level v w) (holds : frame.Holds scope own memory between)
    (derives : Derives frame.inner.phrase tokens e)
    (run : (e.value scope).run.run between = (.ok v, memory')) :
    ∃ e', Derives level.chain (own ++ tokens) e' ∧
      (e'.value scope).run.run memory = (.ok w, memory') := by
  rw [joins.phrase_inner] at derives
  cases joins with
  | first =>
    cases holds with
    | opens opens =>
      cases opens
      exact ⟨e, Derives.chain_iff.2 (.first derives), run⟩
  | next applied =>
    cases holds with
    | opens opens => cases opens
    | next chain before found same =>
      have joined := Chain.joined (Derives.chain_iff.1 chain) found same derives
      refine ⟨_, by simpa using Derives.chain_iff.2 joined, ?_⟩
      rw [Expr.run_binary before run, applied]

/-- The value that a procedure is left with is that of the tree of all its tokens. -/
theorem Passes.value (passes : frame.Passes v closing next w)
    (holds : frame.Holds scope own memory between) (derives : Derives frame.inner.phrase tokens e)
    (run : (e.value scope).run.run between = (.ok v, memory')) :
    ∃ e', Derives frame.procedure.phrase (own ++ (tokens ++ closing)) e' ∧
      (e'.value scope).run.run memory = (.ok w, memory') := by
  cases passes with
  | chain joins =>
    rw [joins.procedure_eq, List.append_nil]
    exact joins.value holds derives run
  | operand =>
    cases holds with
    | opens opens =>
      cases opens
      rw [List.append_nil]
      exact ⟨e, derives, run⟩
  | sign =>
    cases holds with
    | opens opens =>
      cases opens with
      | sign found =>
        rw [List.append_nil]
        exact ⟨_, .signed found derives, Expr.run_signed run⟩
  | plain =>
    cases holds with
    | opens opens =>
      cases opens
      rw [List.append_nil]
      exact ⟨e, .unsigned derives, run⟩
  | callee =>
    cases holds with
    | opens opens =>
      cases opens
      rw [List.append_nil]
      exact ⟨e, .call derives, run⟩
  | group closes =>
    cases holds with
    | opens opens =>
      cases opens with
      | group opens => exact ⟨_, .grouped opens derives closes, by rwa [Expr.value]⟩

/-- A chain that waits for a further part has taken an operator of its level last. -/
theorem Holds.operator {op : Op} {position : Nat}
    (holds : (Frame.next level v op position).Holds scope own memory memory') :
    ∃ before token, own = before ++ [token] ∧ token.op? = some op ∧ op.level = level ∧
      position = token.position := by
  cases holds with
  | opens opens => cases opens
  | next _ _ found same => exact ⟨_, _, rfl, found, same, rfl⟩

/-- With a further argument a call holds the values of all its arguments, in their order. -/
theorem Holds.separated {name : Token} {done : List Float}
    (holds : (Frame.argument name done).Holds scope own memory between)
    (derives : Derives .expression tokens e)
    (run : (e.value scope).run.run between = (.ok v, memory')) :
    ∃ opening inside es, own ++ tokens = name :: opening :: inside ∧ name.kind = .function ∧
      opening.kind = .leftParen ∧ Separated (Derives .expression) inside es ∧
      (Expr.values scope es).run.run memory = (.ok (v :: done).reverse, memory') := by
  cases holds with
  | opens opens =>
    cases opens with
    | argument function opens =>
      have none : (Expr.values scope []).run.run memory = (.ok [], memory) := by
        rw [Expr.values]
        rfl
      exact ⟨_, tokens, [e], rfl, function, opens, .one derives, Expr.run_values_concat none run⟩
  | arguments function opens arguments before comma =>
    refine ⟨_, _, _, by simp, function, opens, .more arguments comma derives, ?_⟩
    rw [List.reverse_cons]
    exact Expr.run_values_concat before run

/-- Where a procedure is left with a value, its phrase is complete before the token that comes next.
-/
theorem Passes.endsBefore {previous : Token} (passes : frame.Passes v closing next w)
    (complete : frame.inner.phrase.EndsBefore previous) (same : closing = [] → previous = next) :
    frame.procedure.phrase.EndsBefore next := by
  cases passes with
  | chain joins ends =>
    obtain rfl := same rfl
    rw [joins.phrase_inner] at complete
    rw [joins.procedure_eq]
    exact complete.chain ends
  | _ => exact fun _ _ => rfl

end Frame

namespace Descent

variable {memory : σ} {limit : ℕ∞} {frames : List Frame} {frame : Frame} {procedure : Procedure}
  {level : Level} {taken own : List Token} {calls new : List Invocation} {call : Invocation}
  {rest : List Token} {depth : Nat} {v w : Float}

/-- The procedures that wait hold the values of the tokens taken, one after the other and the
outermost first, after the calls; the innermost one waits for the procedure. -/
inductive Held (scope : Scope σ) (memory : σ) :
    List Frame → Procedure → List Token → List Invocation → Prop
  | outermost : Held scope memory [] (.chain .sum) [] []
  | inside {frames frame before outer own taken calls} :
      Held scope memory frames frame.procedure before outer →
      frame.Holds scope own (effects scope outer memory) (effects scope calls memory) →
      outer <+: calls → taken = before ++ own → Ordered (frame :: frames) taken calls →
      Held scope memory (frame :: frames) frame.inner taken calls

/-- The procedure is left with the value of the tree of its tokens, which come after those that the
procedures that wait have taken. -/
inductive Valued (scope : Scope σ) (memory : σ) (frames : List Frame) (procedure : Procedure) :
    List Token → List Invocation → Float → Prop
  | tree {before outer own e taken calls v} : Held scope memory frames procedure before outer →
      Derives procedure.phrase own e →
      (e.value scope).run.run (effects scope outer memory) = (.ok v, effects scope calls memory) →
      outer <+: calls → taken = before ++ own → Ordered frames taken calls →
      Valued scope memory frames procedure taken calls v

/-- The call is due when the calls before it have been made and the tokens have been taken. The
tokens end with the parenthesis that closes the call, and they complete the calls before it and then
the call itself. Its arguments are the values of what is written between its parentheses, found from
left to right after the calls that are completed before its name. -/
inductive Invocation.IsDue (scope : Scope σ) (memory : σ) :
    List Token → List Invocation → Invocation → Prop
  | closed {before outer written es taken calls call} :
      taken = before ++ call.name :: written →
      Derives .call (call.name :: written) (.call call.name.text call.name.position es) →
      completedCalls taken = (calls ++ [call]).map (·.name) →
      completedCalls before = outer.map (·.name) → outer <+: calls →
      (Expr.values scope es).run.run (effects scope outer memory) =
        (.ok call.arguments, effects scope calls memory) →
      IsDue scope memory taken calls call

/-- What waits is ordered. -/
theorem Held.ordered (held : Held scope memory frames procedure taken calls) :
    Ordered frames taken calls := by
  cases held with
  | outermost => exact ⟨rfl, .refl _⟩
  | inside _ _ _ _ ordered => exact ordered

/-- A procedure that waits for another one holds no value yet. -/
theorem Held.opens {next : Token} (held : Held scope memory frames frame.procedure taken calls)
    (opens : frame.Opens own next) :
    Held scope memory (frame :: frames) frame.inner (taken ++ own) calls :=
  .inside held (.opens opens) (List.prefix_refl calls) rfl (held.ordered.opens opens)

/-- What is left with a value is ordered. -/
theorem Valued.ordered (valued : Valued scope memory frames procedure taken calls v) :
    Ordered frames taken calls := by
  obtain ⟨_, _, _, _, _, ordered⟩ := valued
  exact ordered

namespace Valued

/-- What is left is the procedure that the innermost one waits for. -/
theorem procedure_eq (valued : Valued scope memory (frame :: frames) procedure taken calls v) :
    procedure = frame.inner := by
  obtain ⟨held, _, _, _, _, _⟩ := valued
  cases held
  rfl

/-- The chain that a procedure joins values to is longer by its last part. -/
theorem joins (valued : Valued scope memory (frame :: frames) frame.inner taken calls v)
    (joins : frame.Joins level v w) :
    Valued scope memory frames (.chain level) taken calls w := by
  obtain ⟨held, derives, run, later, same, ordered⟩ := valued
  cases held with
  | inside outer holds earlier same' =>
    obtain ⟨e, chain, value⟩ := joins.value holds derives run
    have unopened : frame.opening = none := by cases joins <;> rfl
    rw [joins.procedure_eq] at outer
    exact .tree outer chain value (earlier.trans later) (by rw [same, same', List.append_assoc])
      ((Ordered.frame_iff unopened).1 ordered)

/-- A chain that goes on holds its value. -/
theorem held_next {token : Token} {op : Op}
    (valued : Valued scope memory frames (.chain level) taken calls w)
    (found : token.op? = some op) (same : op.level = level) :
    Held scope memory (.next level w op token.position :: frames) (.part level) (taken ++ [token])
      calls := by
  obtain ⟨held, derives, run, later, written, ordered⟩ := valued
  have operator := ordered.other (Token.kind_of_op? found) (by decide)
  exact .inside held (.next derives run found same) later (by rw [written, List.append_assoc])
    ((Ordered.frame_iff rfl).2 operator)

/-- The value of a further argument, after those that a call holds. -/
theorem separated {name : Token} {done : List Float}
    (valued : Valued scope memory (.argument name done :: frames) (.chain .sum) taken calls v) :
    ∃ before outer opening inside es, Held scope memory frames .call before outer ∧
      outer <+: calls ∧ taken = before ++ name :: opening :: inside ∧ name.kind = .function ∧
      opening.kind = .leftParen ∧ Separated (Derives .expression) inside es ∧
      (Expr.values scope es).run.run (effects scope outer memory) =
        (.ok (v :: done).reverse, effects scope calls memory) ∧
      Ordered (.argument name done :: frames) taken calls := by
  obtain ⟨held, derives, run, later, same, ordered⟩ := valued
  cases held with
  | inside outer holds earlier same' =>
    obtain ⟨opening, inside, es, written, function, opens, arguments, values⟩ :=
      holds.separated derives run
    refine ⟨_, _, opening, inside, es, outer, earlier.trans later, ?_, function, opens, arguments,
      values, ordered⟩
    rw [same, same', List.append_assoc, written]

/-- A call that goes on holds one more argument. -/
theorem held_argument {name comma : Token} {done : List Float}
    (valued : Valued scope memory (.argument name done :: frames) (.chain .sum) taken calls v)
    (separates : comma.kind = .comma) :
    Held scope memory (.argument name (v :: done) :: frames) (.chain .sum) (taken ++ [comma])
      calls := by
  obtain ⟨before, outer, opening, inside, es, held, earlier, rfl, function, opens, arguments,
    values, ordered⟩ := valued.separated
  exact .inside held (.arguments function opens arguments values separates) earlier (by simp)
    (ordered.other separates (by decide)).done

/-- A procedure is left with the value of the tree of its tokens. -/
theorem passes {next : Token}
    (valued : Valued scope memory (frame :: frames) frame.inner taken calls v)
    (passes : frame.Passes v own next w) :
    Valued scope memory frames frame.procedure (taken ++ own) calls w := by
  obtain ⟨held, derives, run, later, same, ordered⟩ := valued
  have ordered' : Ordered frames (taken ++ own) calls := by
    cases passes with
    | group closes => exact ordered.ungroup closes
    | chain joins =>
      rw [List.append_nil]
      cases joins <;> exact (Ordered.frame_iff rfl).1 ordered
    | _ => exact (Ordered.frame_iff rfl).1 (by rwa [List.append_nil])
  cases held with
  | inside outer holds earlier same' =>
    obtain ⟨e, phrase, value⟩ := passes.value holds derives run
    exact .tree outer phrase value (earlier.trans later)
      (by rw [same, same', List.append_assoc, List.append_assoc]) ordered'

end Valued

/-! ## Calls that are due -/

/-- The call is made with its closing parenthesis, in a procedure that has waited for its arguments
or has been entered at its name. -/
inductive Closing (scope : Scope σ) (memory : σ) (frames : List Frame) :
    List Token → List Invocation → Invocation → Prop
  | call {before outer written es taken calls call} : Held scope memory frames .call before outer →
      taken = before ++ call.name :: written →
      Derives .call (call.name :: written) (.call call.name.text call.name.position es) →
      (Expr.values scope es).run.run (effects scope outer memory) =
        (.ok call.arguments, effects scope calls memory) →
      outer <+: calls → Ordered frames taken (calls ++ [call]) →
      Closing scope memory frames taken calls call

/-- A call that is made is due. -/
theorem Closing.isDue (closing : Closing scope memory frames taken calls call) :
    call.IsDue scope memory taken calls := by
  obtain ⟨held, written, derives, values, earlier, ordered⟩ := closing
  exact .closed written derives ordered.completed held.ordered.completed earlier values

/-- What a call gives is the value of its tree. -/
theorem Closing.valued (closing : Closing scope memory frames taken calls call)
    (result : (call.result scope (effects scope calls memory)).1 = .ok v) :
    Valued scope memory frames .call taken (calls ++ [call]) v := by
  obtain ⟨held, written, derives, values, earlier, ordered⟩ := closing
  refine .tree held derives ?_ (earlier.trans (List.prefix_append _ _)) written ordered
  rw [Expr.run_call values, effects_append, effects_singleton]
  exact Prod.ext result rfl

end Descent

/-! ## Failures -/

open Descent in
/-- Why an evaluation fails with the diagnostic when it has taken the tokens, has made the calls and
comes to the next token. A number, a variable or a call that has no value has just been taken; the
right operand of a division has just been taken and is complete before the next token; of the other
diagnostics the next token is the cause. -/
def Diagnostic.IsRaised (scope : Scope σ) (memory : σ) (taken : List Token)
    (calls : List Invocation) (next : Token) (d : Diagnostic) : Prop :=
  match d.problem with
  | .unknownCharacter _ => False
  | .malformedNumber => ∃ before token, taken = before ++ [token] ∧ token.kind = .number ∧
      Scope.literal token.text token.position = .error d
  | .unknownVariable _ => ∃ before token, taken = before ++ [token] ∧ token.kind = .variable ∧
      scope.lookup token.text token.position = .error d
  | .failedCall _ _ => ∃ before call written es earlier, taken = before ++ call.name :: written ∧
      Derives .call (call.name :: written) (.call call.name.text call.name.position es) ∧
      calls = earlier ++ [call] ∧ (call.result scope (effects scope earlier memory)).1 = .error d
  | .divisionByZero => ∃ before slash right e, taken = before ++ slash :: right ∧
      slash.op? = some .divide ∧ d.position = slash.position ∧ Derives .power right e ∧
      Phrase.EndsBefore .power next
  | .missingRightParen => d.position = next.position ∧ next.kind ≠ .rightParen
  | .trailing kind => d.position = next.position ∧ kind = next.kind ∧ kind ≠ .endOfInput ∧
      Phrase.EndsBefore .expression next ∧ ∃ e, Derives .expression taken e
  | .unexpected kind => d.position = next.position ∧ kind = next.kind ∧ kind ≠ .leftParen ∧
      ((kind ≠ .number ∧ kind ≠ .variable ∧ kind ≠ .function) ∨
        ∃ before name, taken = before ++ [name] ∧ name.kind = .function)
  | .nestedTooDeeply => d.position = next.position

namespace Descent

variable {memory memory' : σ} {limit : ℕ∞} {frames : List Frame} {taken own rest : List Token}
  {calls new : List Invocation} {depth : Nat} {s s' : State σ}

/-- The tokens taken and the calls made account for the state. -/
inductive State.Accounts (scope : Scope σ) (memory : σ) (taken : List Token)
    (calls : List Invocation) : State σ → Prop
  | enter {procedure frames rest} {depth : Nat} {memory' : σ} :
      Held scope memory frames procedure taken calls →
      Accounts scope memory taken calls ⟨.enter procedure, frames, rest, depth, memory'⟩
  | value {procedure frames v rest} {depth : Nat} {memory' : σ} :
      Valued scope memory frames procedure taken calls v →
      procedure.phrase.EndsBefore (Token.current rest) →
      Accounts scope memory taken calls ⟨.leave (.ok v), frames, rest, depth, memory'⟩
  | failure {d frames rest} {depth : Nat} {memory' : σ} :
      completedCalls taken = calls.map (·.name) →
      d.IsRaised scope memory taken calls (Token.current rest) →
      Accounts scope memory taken calls ⟨.leave (.error d), frames, rest, depth, memory'⟩

namespace State.Accounts

/-- The calls made are those that the tokens taken have completed. -/
theorem completed (accounts : s.Accounts scope memory taken calls) :
    completedCalls taken = calls.map (·.name) := by
  cases accounts with
  | enter held => exact held.ordered.completed
  | value valued => exact valued.ordered.completed
  | failure completed => exact completed

/-- A number or a variable has been taken, whether it has a value or not. -/
theorem atom {token : Token} {kind : Token.Kind} {e : Expr} {result : Except Diagnostic Float}
    (held : Held scope memory frames .unsigned taken calls) (found : token.kind = kind)
    (plain : kind ≠ .function ∧ kind ≠ .leftParen ∧ kind ≠ .rightParen)
    (derives : Derives .unsigned [token] e) (value : e.value scope = ofExcept result)
    (raised : ∀ d, result = .error d →
      d.IsRaised scope memory (taken ++ [token]) calls (Token.current rest)) :
    Accounts scope memory (taken ++ [token]) calls
      ⟨.leave result, frames, rest, depth, memory'⟩ := by
  have ordered := held.ordered.other found plain
  cases result with
  | ok v =>
    have run : (e.value scope).run.run (effects scope calls memory) =
        (.ok v, effects scope calls memory) := by
      rw [value]
      rfl
    exact .value (.tree held derives run (List.prefix_refl _) rfl ordered) fun _ _ => rfl
  | error d => exact .failure ordered.completed (raised d rfl)

/-- A call has been made, whether it has a value or not. -/
theorem called {call : Invocation} (closing : Closing scope memory frames taken calls call) :
    Accounts scope memory taken (calls ++ [call]) ⟨.leave
      (call.result scope (effects scope calls memory)).1, frames, rest, depth, memory'⟩ := by
  cases result : (call.result scope (effects scope calls memory)).1 with
  | ok v => exact .value (closing.valued result) fun _ _ => rfl
  | error d =>
    obtain ⟨held, written, derives, values, earlier, ordered⟩ := closing
    refine .failure ordered.completed ?_
    obtain ⟨cause, rfl⟩ := Scope.fails_call ⟨_, _, Prod.ext result rfl⟩
    exact ⟨_, call, _, _, calls, written, derives, rfl, result⟩

/-- A call that is made is closed where its arguments are. -/
theorem closing {mode : Mode} {waiting : List Frame} {call : Invocation}
    (accounts : (⟨mode, waiting ++ frames, own ++ rest, depth, memory'⟩ : State σ).Accounts scope
      memory taken calls) (calls' : Mode.Calls mode waiting own call) :
    Closing scope memory frames (taken ++ own) calls call := by
  cases calls' with
  | arguments closes =>
    cases accounts with
    | value valued =>
      obtain rfl := valued.procedure_eq
      obtain ⟨before, outer, opening, inside, es, held, earlier, rfl, function, opens, arguments,
        values, ordered⟩ := Valued.separated valued
      exact .call held (by simp) (.withArguments function opens arguments closes) values earlier
        (ordered.call closes)
  | empty function opens closes =>
    cases accounts with
    | enter held =>
      have ordered : Ordered frames (taken ++ [_, _] ++ [_]) (calls ++ [⟨_, []⟩]) :=
        (held.ordered.argument function opens []).call closes
      have values : (Expr.values scope []).run.run (effects scope calls memory) =
          (.ok [], effects scope calls memory) := by
        rw [Expr.values]
        rfl
      exact .call held rfl (.withoutArguments function opens closes) values (List.prefix_refl _)
        (by simpa using ordered)

/-- The next token is the cause of a complaint about it. -/
theorem complaint {mode : Mode} {waiting : List Frame} {problem : Problem} {next : Token}
    (accounts : (⟨mode, waiting ++ frames, own ++ rest, depth, memory'⟩ : State σ).Accounts scope
      memory taken calls)
    (complains : Mode.Complains limit mode waiting depth own next problem) :
    completedCalls (taken ++ own) = calls.map (·.name) ∧
      Diagnostic.IsRaised scope memory (taken ++ own) calls next ⟨problem, next.position⟩ := by
  have completed := accounts.completed
  cases complains with
  | depth => exact ⟨by rwa [List.append_nil], rfl⟩
  | operand number var function opens =>
    exact ⟨by rwa [List.append_nil], rfl, rfl, opens, .inl ⟨number, var, function⟩⟩
  | opening function other =>
    refine ⟨?_, rfl, rfl, other, .inr ⟨taken, _, rfl, function⟩⟩
    rwa [completedCalls_append_singleton (by simp [function])]
  | group other => exact ⟨by rwa [List.append_nil], rfl, other⟩
  | call comma other => exact ⟨by rwa [List.append_nil], rfl, other⟩

end State.Accounts

/-- A number that has been taken is the cause of its failure. -/
theorem isRaised_literal {token next : Token} {d : Diagnostic} (kind : token.kind = .number)
    (failed : Scope.literal token.text token.position = .error d) :
    d.IsRaised scope memory (taken ++ [token]) calls next := by
  have problem : d.problem = .malformedNumber := by
    rw [Scope.literal] at failed
    split at failed <;> cases failed
    rfl
  rw [Diagnostic.IsRaised, problem]
  exact ⟨taken, token, rfl, kind, failed⟩

/-- A variable that has been taken is the cause of its failure. -/
theorem isRaised_lookup {token next : Token} {d : Diagnostic} (kind : token.kind = .variable)
    (failed : scope.lookup token.text token.position = .error d) :
    d.IsRaised scope memory (taken ++ [token]) calls next := by
  have problem : d.problem = .unknownVariable token.text := by
    rw [Scope.lookup] at failed
    split at failed <;> cases failed
    rfl
  rw [Diagnostic.IsRaised, problem]
  exact ⟨taken, token, rfl, kind, failed⟩

/-- A divisor that has been taken is the cause of the failure of its division. -/
theorem Valued.isRaised {level : Level} {left v : Float} {op : Op} {position : Nat} {next : Token}
    {d : Diagnostic}
    (valued : Valued scope memory (.next level left op position :: frames) (.part level) taken
      calls v)
    (failed : op.apply position left v = .error d)
    (ends : (Procedure.part level).phrase.EndsBefore next) :
    d.IsRaised scope memory taken calls next := by
  obtain ⟨rfl, rfl⟩ := Op.apply_eq_error failed
  obtain ⟨held, derives, _, _, same, _⟩ := valued
  cases held with
  | @inside _ _ before _ _ _ _ held holds _ same' =>
    -- a division is joined at the level of products
    obtain ⟨dividend, slash, rfl, found, rfl, rfl⟩ := holds.operator
    exact ⟨before ++ dividend, slash, _, _, by simp [same, same'], found, rfl, derives, ends⟩

/-- **Every transition leaves a state that is accounted for.** -/
theorem Transition.accounts (transition : Transition limit scope s own new s')
    (here : s.memory = effects scope calls memory)
    (accounts : s.Accounts scope memory taken calls) :
    s'.Accounts scope memory (taken ++ own) (calls ++ new) := by
  cases transition with
  | wait frame opens =>
    rw [List.append_nil]
    cases accounts with
    | enter held => exact .enter (held.opens opens)
  | number kind =>
    rw [List.append_nil]
    cases accounts with
    | enter held =>
      exact .atom held kind (by decide) (.number kind) (by rw [Expr.value]) fun d failed =>
        isRaised_literal kind failed
  | «variable» kind =>
    rw [List.append_nil]
    cases accounts with
    | enter held =>
      exact .atom held kind (by decide) (.var kind) (by rw [Expr.value]) fun d failed =>
        isRaised_lookup kind failed
  | call calls' =>
    cases here
    exact .called (accounts.closing calls')
  | complain complains =>
    obtain ⟨completed, raised⟩ := accounts.complaint complains
    rw [List.append_nil]
    exact .failure completed raised
  | divide fails =>
    rw [List.append_nil, List.append_nil]
    have completed := accounts.completed
    cases accounts with
    | value valued ends =>
      obtain rfl := valued.procedure_eq
      exact .failure completed (Valued.isRaised valued fails ends)
  | goOn joins found same =>
    rw [List.append_nil]
    cases accounts with
    | value valued =>
      obtain rfl := valued.procedure_eq
      exact .enter ((valued.joins joins).held_next found same)
  | separate kind =>
    rw [List.append_nil]
    cases accounts with
    | value valued =>
      obtain rfl := valued.procedure_eq
      exact .enter (Valued.held_argument valued kind)
  | pass passes =>
    rw [List.append_nil]
    cases accounts with
    | value valued ends =>
      obtain rfl := valued.procedure_eq
      refine .value (valued.passes passes) (passes.endsBefore ends ?_)
      rintro rfl
      rfl
  | fail =>
    rw [List.append_nil, List.append_nil]
    cases accounts with
    | failure completed raised => exact .failure completed raised

/-- At the start nothing has been taken. -/
theorem accounts_start (scope : Scope σ) (tokens : List Token) (memory : σ) :
    (start tokens memory).Accounts scope memory [] [] := .enter .outermost

/-- **What an evaluation has taken accounts for every moment of it.** -/
theorem Trace.accounts {tokens : List Token}
    (trace : Trace limit scope (Descent.start tokens memory) taken calls s) :
    s.Accounts scope memory taken calls := by
  induction trace with
  | start => exact accounts_start scope tokens memory
  | step trace transition ih => exact transition.accounts trace.memory_eq ih

/-- What an evaluation is left with at its end is the value of the tree of all tokens taken. -/
theorem Valued.whole {procedure : Procedure} {v : Float}
    (valued : Valued scope memory [] procedure taken calls v) :
    procedure = .chain .sum ∧ ∃ e, Derives .expression taken e ∧
      (e.value scope).run.run memory = (.ok v, effects scope calls memory) := by
  obtain ⟨held, derives, run, _, same, _⟩ := valued
  cases held with
  | outermost =>
    rw [List.nil_append] at same
    subst same
    exact ⟨rfl, _, derives, run⟩

/-- **What an evaluation fails with is raised where it has come to.** -/
theorem Trace.isRaised {tokens : List Token} {result : Except Diagnostic Float} {d : Diagnostic}
    (trace : Trace limit scope (Descent.start tokens memory) taken calls
      ⟨.leave result, [], rest, depth, memory'⟩)
    (failed : (Outcome.finish ⟨result, rest, memory'⟩).1 = .error d) :
    d.IsRaised scope memory taken calls (Token.current rest) := by
  cases trace.accounts with
  | failure _ raised =>
    cases failed
    exact raised
  | value valued ends =>
    obtain ⟨rfl, e, derives, _⟩ := valued.whole
    simp only [Outcome.finish] at failed
    split at failed
    · cases failed
    · rename_i other
      cases failed
      exact ⟨rfl, rfl, other, ends, e, derives⟩

end Descent

end Reckoner
