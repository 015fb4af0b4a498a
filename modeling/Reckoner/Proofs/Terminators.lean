import Reckoner.Proofs.Lockstep
import Reckoner.Proofs.Transitions

/-! # The end of the input

Tokens end at the first end of the input, or behind the last token if there is none. What comes
behind the end is never come to (`Descent.Trace.isSuffix_left`), so it makes no difference, and
neither does the text of the end. Tokens that are the same up to the end (`Token.SameToEnd`) are
evaluated in lockstep (`ending_lockstep`); `evaluate_terminated` draws the conclusions. -/

namespace Reckoner

/-- The tokens are the same up to the end of the input, which is at the same position. -/
inductive Token.SameToEnd : List Token → List Token → Prop
  | ends {tokens tokens'} : (current tokens).kind = .endOfInput →
      (current tokens').kind = .endOfInput →
      (current tokens').position = (current tokens).position → SameToEnd tokens tokens'
  | cons {tokens tokens'} (token : Token) : SameToEnd tokens tokens' →
      SameToEnd (token :: tokens) (token :: tokens')

/-- The same tokens before ends of the input at the same position are the same up to the end. -/
theorem Token.SameToEnd.append {rest rest' : List Token} (same : SameToEnd rest rest') :
    (tokens : List Token) → SameToEnd (tokens ++ rest) (tokens ++ rest')
  | [] => same
  | token :: tokens => .cons token (append same tokens)

namespace Descent

variable {σ : Type}

/-- The comparison of tokens that are the same up to the end of the input, whose text does not
matter. -/
def ending : Comparison where
  token token token' := token'.kind = token.kind ∧ token'.position = token.position ∧
    (token.kind ≠ .endOfInput → token' = token)
  left := Token.SameToEnd
  fault d d' := d' = d
  excused _ := False

/-- **Tokens that are the same up to the end of the input are evaluated in lockstep.** -/
theorem ending_lockstep (scope : Scope σ) : Lockstep ending scope scope where
  current := by
    intro rest rest' same
    cases same with
    | ends ends ends' position => exact ⟨ends'.trans ends.symm, position, absurd ends⟩
    | cons token _ => exact ⟨rfl, rfl, fun _ => rfl⟩
  tail := by
    intro rest rest' same inside
    cases same with
    | ends ends => exact absurd ends inside
    | cons token same => exact same
  kind alike := alike.1
  op? := by
    rintro token token' ⟨kind, _, same⟩
    by_cases ends : token.kind = .endOfInput
    · rw [Token.op?, Token.op?, kind, ends]
    · rw [same ends]
  literal := by
    rintro token token' ⟨_, _, same⟩ kind memory
    rw [same (by simp [kind])]
    exact .refl fun _ _ => rfl
  lookup := by
    rintro token token' ⟨_, _, same⟩ kind memory
    rw [same (by simp [kind])]
    exact .refl fun _ _ => rfl
  call := by
    rintro token token' ⟨_, _, same⟩ kind arguments memory
    rw [same (by simp [kind])]
    exact .refl fun _ _ => rfl
  fault := by
    rintro token token' ⟨_, position, _⟩ problem _
    rw [ending, position]

/-- Whatever an evaluation has come to, the tokens from an end of the input on are still left. -/
theorem Trace.isSuffix_left {limit : ℕ∞} {scope : Scope σ} {s : State σ}
    {tokens more taken : List Token} {calls : List Invocation} {memory : σ} {last : Token}
    (trace : Trace limit scope (Descent.start (tokens ++ last :: more) memory) taken calls s)
    (ends : last.kind = .endOfInput) : ∃ left, left <:+ tokens ∧ s.rest = left ++ last :: more := by
  have written : tokens ++ last :: more = taken ++ s.rest := trace.rest_eq
  rcases List.append_eq_append_iff.1 written with ⟨beyond, rfl, rest⟩ | ⟨left, same, rest⟩
  · cases beyond with
    | nil => exact ⟨[], List.nil_suffix, rest.symm⟩
    | cons first beyond =>
      -- the end of the input would have been taken
      obtain ⟨rfl, _⟩ := List.cons.inj rest
      exact absurd ends (trace.kind_ne_endOfInput last (by simp))
  · exact ⟨left, ⟨taken, same.symm⟩, rest⟩

end Descent

/-- Tokens that are the same up to the end of the input have the same value. -/
theorem evaluate_congr_to_end {σ : Type} (scope : Scope σ) {tokens tokens' : List Token}
    (same : Token.SameToEnd tokens tokens') : evaluate scope tokens = evaluate scope tokens' := by
  refine ExceptT.ext (funext fun memory => ?_)
  have results := (Descent.ending_lockstep scope).evaluateWithin maxLevels same memory
  exact (results.eq (fun _ _ same => same) fun _ => id).symm

open Descent in
/-- **The first end of the input ends the tokens, and a missing one is supplied.** At every moment
of the evaluation the tokens from an end of the input on are left. So whatever comes behind it and
whatever its text is, the value or the diagnostic is the same, and so are the calls and what they do
to the memory. Where there is no end of the input, tokens are evaluated as those that go on with one
at position zero. -/
theorem evaluate_terminated {σ : Type} (scope : Scope σ) (tokens more : List Token)
    (text text' : String) (position : Nat) :
    (∀ memory s,
      Runs maxLevels scope (start (tokens ++ ⟨.endOfInput, text, position⟩ :: more) memory) s →
        ∃ left, left <:+ tokens ∧ s.rest = left ++ ⟨.endOfInput, text, position⟩ :: more) ∧
      evaluate scope (tokens ++ ⟨.endOfInput, text, position⟩ :: more) =
        evaluate scope (tokens ++ [⟨.endOfInput, text', position⟩]) ∧
      evaluate scope tokens = evaluate scope (tokens ++ ⟨.endOfInput, text, 0⟩ :: more) := by
  have behind : Token.SameToEnd (⟨.endOfInput, text, position⟩ :: more)
      [⟨.endOfInput, text', position⟩] := .ends rfl rfl rfl
  have supplied : Token.SameToEnd [] (⟨.endOfInput, text, 0⟩ :: more) := .ends rfl rfl rfl
  refine ⟨fun memory s runs => ?_, evaluate_congr_to_end scope (behind.append tokens), ?_⟩
  · obtain ⟨⟨taken, calls, trace⟩, _⟩ := Runs.trace runs (named_start _ memory)
    exact trace.isSuffix_left rfl
  · have same := supplied.append tokens
    rw [List.append_nil] at same
    exact evaluate_congr_to_end scope same

end Reckoner
