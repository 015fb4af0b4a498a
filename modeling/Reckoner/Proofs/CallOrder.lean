import Mathlib.Data.List.Induction
import Reckoner.Token

/-! # The order of calls

A call is made when its closing parenthesis is taken, so the calls of tokens have an order that is
not the order of their names. `completedCalls` finds it by going through the tokens with the
parentheses that are open, each with the function whose arguments it opens (`Calls.next`). A token
that is neither a function nor a parenthesis changes nothing; the lemmas in the middle say what the
others change. -/

namespace Reckoner

/-- What tokens say about the calls in them. -/
structure Calls where
  /-- The name of a function, if the tokens end with one. -/
  caller : Option Token
  /-- The open parentheses, the innermost one first, each with the function whose arguments it
  opens, if it opens arguments. -/
  opened : List (Option Token)
  /-- The functions whose arguments are closed, in the order of the closing parentheses. -/
  completed : List Token

namespace Calls

/-- The calls with one more token. -/
def next (calls : Calls) (token : Token) : Calls :=
  match token.kind with
  | .function => { calls with caller := some token }
  | .leftParen => { calls with caller := none, opened := calls.caller :: calls.opened }
  | .rightParen =>
    ⟨none, calls.opened.tail, calls.completed ++ calls.opened.head?.join.toList⟩
  | _ => { calls with caller := none }

/-- The calls in tokens. -/
def ofTokens (tokens : List Token) : Calls := tokens.foldl next ⟨none, [], []⟩

variable {calls : Calls} {tokens : List Token}

@[simp] theorem ofTokens_append_singleton (tokens : List Token) (token : Token) :
    ofTokens (tokens ++ [token]) = (ofTokens tokens).next token := by
  rw [ofTokens, List.foldl_append]
  rfl

section Tokens

variable {opened : List (Option Token)} {completed : List Token}
  {token name opening closing : Token}

/-- A token that is neither a function nor a parenthesis leaves the calls alone. -/
theorem ofTokens_other (calls : ofTokens tokens = ⟨none, opened, completed⟩)
    (plain : token.kind ≠ .function ∧ token.kind ≠ .leftParen ∧ token.kind ≠ .rightParen) :
    ofTokens (tokens ++ [token]) = ⟨none, opened, completed⟩ := by
  obtain ⟨function, left, right⟩ := plain
  rw [ofTokens_append_singleton, calls, next]
  split <;> first | contradiction | rfl

/-- A parenthesis that follows no function opens a group. -/
theorem ofTokens_group (calls : ofTokens tokens = ⟨none, opened, completed⟩)
    (opens : opening.kind = .leftParen) :
    ofTokens (tokens ++ [opening]) = ⟨none, none :: opened, completed⟩ := by
  rw [ofTokens_append_singleton, calls, next, opens]

/-- A parenthesis that follows a function opens its arguments. -/
theorem ofTokens_arguments (calls : ofTokens tokens = ⟨none, opened, completed⟩)
    (function : name.kind = .function) (opens : opening.kind = .leftParen) :
    ofTokens (tokens ++ [name, opening]) = ⟨none, some name :: opened, completed⟩ := by
  rw [List.append_cons, ofTokens_append_singleton, ofTokens_append_singleton, calls, next, opens,
    next, function]

/-- A closing parenthesis closes what was opened last, and completes the call if that is one. -/
theorem ofTokens_closed {first : Option Token}
    (calls : ofTokens tokens = ⟨none, first :: opened, completed⟩)
    (closes : closing.kind = .rightParen) :
    ofTokens (tokens ++ [closing]) = ⟨none, opened, completed ++ first.toList⟩ := by
  rw [ofTokens_append_singleton, calls, next, closes]
  rfl

end Tokens

/-- Every function among the calls is one of the tokens. -/
def Among (calls : Calls) (tokens : List Token) : Prop :=
  ∀ call, calls.caller = some call ∨ some call ∈ calls.opened ∨ call ∈ calls.completed →
    call ∈ tokens ∧ call.kind = .function

/-- With one more token the functions are among the tokens with it. -/
theorem Among.next (among : calls.Among tokens) (token : Token) :
    (calls.next token).Among (tokens ++ [token]) := by
  have before {call : Token} (member : call ∈ tokens ∧ call.kind = .function) :
      call ∈ tokens ++ [token] ∧ call.kind = .function :=
    ⟨List.mem_append_left _ member.1, member.2⟩
  intro call found
  cases kind : token.kind with
  | function =>
    simp only [Calls.next, kind] at found
    rcases found with last | found
    · cases last
      exact ⟨by simp, kind⟩
    · exact before (among call (.inr found))
  | leftParen =>
    simp only [Calls.next, kind, List.mem_cons] at found
    rcases found with none | (caller | opened) | completed
    · cases none
    · exact before (among call (.inl caller.symm))
    · exact before (among call (.inr (.inl opened)))
    · exact before (among call (.inr (.inr completed)))
  | rightParen =>
    simp only [Calls.next, kind, List.mem_append, Option.mem_toList] at found
    rcases found with none | opened | completed | closed
    · cases none
    · exact before (among call (.inr (.inl (List.mem_of_mem_tail opened))))
    · exact before (among call (.inr (.inr completed)))
    -- the call that this parenthesis completes was open
    · have first := Option.join_eq_some_iff.1 closed
      exact before (among call (.inr (.inl (List.mem_of_mem_head? first))))
  | _ =>
    simp only [Calls.next, kind] at found
    rcases found with none | found
    · cases none
    · exact before (among call (.inr found))

/-- The functions among the calls in tokens are functions among the tokens. -/
theorem among_ofTokens (tokens : List Token) : (ofTokens tokens).Among tokens := by
  induction tokens using List.reverseRecOn with
  | nil =>
    intro call found
    simp [ofTokens] at found
  | append_singleton tokens token ih =>
    rw [ofTokens_append_singleton]
    exact ih.next token

/-- Further tokens take away no call that is completed. -/
theorem completed_isPrefix (tokens more : List Token) :
    (ofTokens tokens).completed <+: (ofTokens (tokens ++ more)).completed := by
  induction more using List.reverseRecOn with
  | nil => simp
  | append_singleton more token ih =>
    rw [← List.append_assoc, ofTokens_append_singleton]
    refine ih.trans ?_
    unfold next
    split
    · exact List.prefix_refl _
    · exact List.prefix_refl _
    · exact List.prefix_append _ _
    · exact List.prefix_refl _

end Calls

/-- The functions that are called among tokens, in the order in which the calls are completed by
their closing parentheses. -/
def completedCalls (tokens : List Token) : List Token := (Calls.ofTokens tokens).completed

/-- Only a closing parenthesis completes a call. -/
theorem completedCalls_append_singleton {tokens : List Token} {token : Token}
    (other : token.kind ≠ .rightParen) :
    completedCalls (tokens ++ [token]) = completedCalls tokens := by
  rw [completedCalls, completedCalls, Calls.ofTokens_append_singleton, Calls.next]
  split <;> first | contradiction | rfl

/-- A completed call is that of a function among the tokens. -/
theorem mem_of_mem_completedCalls {tokens : List Token} {call : Token}
    (completed : call ∈ completedCalls tokens) : call ∈ tokens ∧ call.kind = .function :=
  Calls.among_ofTokens tokens call (.inr (.inr completed))

/-- Of `f(g(x), (h(y)))` the calls of `g` and `h` are completed before that of `f`. -/
example : (completedCalls [⟨.function, "f", 0⟩, ⟨.leftParen, "(", 1⟩, ⟨.function, "g", 2⟩,
    ⟨.leftParen, "(", 3⟩, ⟨.variable, "x", 4⟩, ⟨.rightParen, ")", 5⟩, ⟨.comma, ",", 6⟩,
    ⟨.leftParen, "(", 7⟩, ⟨.function, "h", 8⟩, ⟨.leftParen, "(", 9⟩, ⟨.variable, "y", 10⟩,
    ⟨.rightParen, ")", 11⟩, ⟨.rightParen, ")", 12⟩, ⟨.rightParen, ")", 13⟩,
    .finish 14]).map (·.text) = ["g", "h", "f"] := by decide

end Reckoner
