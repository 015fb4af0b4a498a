import Reckoner.Proofs.CorrectPrefix
import Reckoner.Proofs.MaximalMunch

/-! # Tokens that are refused

What is known about the token before which reading breaks off, and about the tokens around it. The
token that is refused is never one that could stand there (`Wanted.Refuses`,
`Expr.ofTokens_refuses`); inside an expression no number follows a name
(`Derives.isChain_standsApart`). -/

namespace Reckoner

/-! ## Neighbours -/

namespace Token

/-- The tokens are not a name and a number directly after it. -/
def StandsApart (token after : Token) : Prop := after.kind = .number → ¬ token.IsIdentifier

variable {token after : Token}

/-- Before anything but a number any token may stand. -/
theorem StandsApart.of_after (other : after.kind ≠ .number) : token.StandsApart after :=
  fun kind => absurd kind other

/-- Tokens on both sides of one that is neither a name nor a number stand apart if they do on each
side. -/
theorem isChain_standsApart_append {before more : List Token}
    (left : before.IsChain StandsApart) (right : more.IsChain StandsApart)
    (number : token.kind ≠ .number) (name : ¬ token.IsIdentifier) :
    (before ++ token :: more).IsChain StandsApart := by
  refine List.isChain_append.2 ⟨left, List.isChain_cons.2 ⟨fun next _ _ => name, right⟩,
    fun last _ next first => ?_⟩
  cases first
  exact .of_after number

end Token

open Token

/-- Where no number follows a name in the parts of a chain, none does in the chain. -/
theorem Chain.isChain_standsApart {level : Level} {tokens : List Token} {e : Expr}
    (parts : Chain level (fun tokens _ => tokens.IsChain StandsApart) tokens e) :
    tokens.IsChain StandsApart := by
  induction parts with
  | first part => exact part
  | joined _ found _ part ih =>
    have kind := kind_of_op? found
    exact isChain_standsApart_append ih part (by simp [kind]) (by simp [IsIdentifier, kind])

/-- Where no number follows a name in the arguments, none does in all of them. -/
theorem Separated.isChain_standsApart {tokens : List Token} {es : List Expr}
    (arguments : Separated (fun tokens _ => tokens.IsChain StandsApart) tokens es) :
    tokens.IsChain StandsApart := by
  induction arguments with
  | one argument => exact argument
  | more _ comma argument ih =>
    exact isChain_standsApart_append ih argument (by simp [comma]) (by simp [IsIdentifier, comma])

/-- In a phrase no number follows a name. -/
theorem Derives.isChain_standsApart {phrase : Phrase} {tokens : List Token} {e : Expr}
    (derives : Derives phrase tokens e) : tokens.IsChain StandsApart := by
  have closed {tokens : List Token} {closing : Token} (closes : closing.kind = .rightParen)
      (inside : tokens.IsChain StandsApart) : (tokens ++ [closing]).IsChain StandsApart :=
    isChain_standsApart_append inside .nil (by simp [closes]) (by simp [IsIdentifier, closes])
  have opened {tokens : List Token} {opening : Token} (opens : opening.kind = .leftParen)
      (inside : tokens.IsChain StandsApart) : (opening :: tokens).IsChain StandsApart :=
    isChain_standsApart_append .nil inside (by simp [opens]) (by simp [IsIdentifier, opens])
  have called {tokens : List Token} {name opening : Token} (opens : opening.kind = .leftParen)
      (inside : (opening :: tokens).IsChain StandsApart) :
      (name :: opening :: tokens).IsChain StandsApart :=
    List.isChain_cons_cons.2 ⟨.of_after (by simp [opens]), inside⟩
  induction derives using Derives.induct with
  | chain _ parts => exact (parts.mono fun _ _ part => part.2).isChain_standsApart
  | signed found _ ih =>
    obtain ⟨op, found, _⟩ := Option.bind_eq_some_iff.1 found
    have kind := kind_of_op? found
    exact isChain_standsApart_append .nil ih (by simp [kind]) (by simp [IsIdentifier, kind])
  | unsigned _ ih => exact ih
  | number => exact .singleton _
  | var => exact .singleton _
  | call _ ih => exact ih
  | grouped opens _ closes ih => exact opened opens (closed closes ih)
  | withoutArguments _ opens closes =>
    exact called opens (opened opens (closed closes .nil))
  | withArguments _ opens _ closes arguments =>
    exact called opens (opened opens (closed closes
      (arguments.mono fun _ _ argument => argument.2).isChain_standsApart))

/-- In what begins an expression no number follows a name. -/
theorem Viable.isChain_standsApart {tokens : List Token} (viable : Viable tokens) :
    tokens.IsChain StandsApart := by
  obtain ⟨sentence, terminator, more, ⟨e, derives⟩, ends, equal⟩ := viable
  have whole : (sentence ++ [terminator]).IsChain StandsApart :=
    isChain_standsApart_append derives.isChain_standsApart .nil (by simp [ends])
      (by simp [IsIdentifier, ends])
  rw [equal] at whole
  exact whole.left_of_append

/-! ## The token that is refused -/

/-- What is wanted after the tokens is not begun by the token. -/
def Wanted.Refuses (wanted : Wanted) (taken : List Token) (token : Token) : Prop :=
  match wanted with
  | .operand => ¬ token.Begins
  | .leftParen => token.kind ≠ .leftParen ∧
    ∃ before name, taken = before ++ [name] ∧ name.kind = .function
  | .rightParen => token.kind ≠ .rightParen ∧ token.op? = none
  | .finish => token.kind ≠ .endOfInput ∧ token.op? = none
  | .lessDepth => True

/-- What is refused after some tokens is refused after more before them. -/
theorem Wanted.Refuses.append {wanted : Wanted} {taken : List Token} {token : Token}
    (refuses : wanted.Refuses taken token) (before : List Token) :
    wanted.Refuses (before ++ taken) token := by
  cases wanted with
  | leftParen =>
    obtain ⟨other, before', name, rfl, function⟩ := refuses
    exact ⟨other, before ++ before', name, by simp, function⟩
  | _ => exact refuses

/-- An expression is complete only before what is no operator. -/
theorem Phrase.EndsBefore.op?_eq_none {token : Token}
    (ends : Phrase.EndsBefore .expression token) : token.op? = none := by
  cases found : token.op? with
  | none => rfl
  | some op => exact absurd (ends op found) (by simp [joins])

/-- Reading breaks off before a token that is refused. -/
theorem Stops.refuses {levels : Nat} {phrase : Phrase} {taken : List Token} {parts : List Expr}
    {wanted : Wanted} {token : Token} (stops : Stops levels phrase taken parts wanted token) :
    wanted.Refuses taken token := by
  induction stops with
  | lessDepth => trivial
  | operand other => exact other
  | @signed _ first _ _ _ _ _ _ _ ih => exact ih.append [first]
  | @inGroup _ opening _ _ _ _ _ _ ih => exact ih.append [opening]
  | groupEnd _ _ _ ends other => exact ⟨other, ends.op?_eq_none⟩
  | @callStart _ name _ function other => exact ⟨other, [], name, rfl, function⟩
  | @inFirstArgument _ name opening _ _ _ _ _ _ _ _ ih => exact ih.append [name, opening]
  | @inArgument _ name opening before _ comma _ _ _ _ _ _ _ _ _ _ ih =>
    have whole := ih.append (name :: opening :: (before ++ [comma]))
    simpa using whole
  | callEnd _ _ _ _ ends _ other => exact ⟨other, ends.op?_eq_none⟩
  | inFirst _ ih => exact ih
  | @inPart _ _ before _ joint _ _ _ _ _ _ _ _ _ _ ih =>
    have whole := ih.append (before ++ [joint])
    simpa using whole

/-- Where the levels are used up, so many tokens have opened them. -/
theorem Stops.levels_le {levels : Nat} {phrase : Phrase} {taken : List Token} {parts : List Expr}
    {wanted : Wanted} {token : Token} (stops : Stops levels phrase taken parts wanted token)
    (deep : wanted = .lessDepth) : levels ≤ taken.length := by
  induction stops with
  | lessDepth => exact Nat.le_refl 0
  | operand => cases deep
  | signed _ _ ih => exact Nat.succ_le_succ (ih deep)
  | inGroup _ _ ih => exact Nat.succ_le_succ (ih deep)
  | groupEnd => cases deep
  | callStart => cases deep
  | inFirstArgument _ _ _ _ ih => exact Nat.succ_le_succ (Nat.le_succ_of_le (ih deep))
  | inArgument _ _ _ _ _ _ ih =>
    have le := ih deep
    simp only [List.length_cons, List.length_append]
    omega
  | callEnd => cases deep
  | inFirst _ ih => exact ih deep
  | inPart _ _ _ _ _ ih =>
    have le := ih deep
    simp only [List.length_cons, List.length_append]
    omega

/-- Where tokens are not read, the token at the fault is refused after those before it. -/
theorem Expr.ofTokens_refuses {levels : Nat} {tokens : List Token} {fault : Fault}
    (failed : Expr.ofTokens levels tokens = .error fault) :
    ∃ taken, tokens = taken ++ fault.rest ∧
      fault.wanted.Refuses taken (Token.current fault.rest) ∧
      (fault.wanted = .lessDepth → levels ≤ taken.length) := by
  rw [Expr.ofTokens, bind_eq_error] at failed
  rcases failed with failed | ⟨⟨e, rest⟩, read, unfinished⟩
  · obtain ⟨taken, equal, stops⟩ := Rule.whole_stops levels tokens fault failed
    exact ⟨taken, equal, stops.refuses, stops.levels_le⟩
  · obtain ⟨taken, equal, _, _, complete⟩ := (Rule.whole_reads levels).sound read
    simp only at unfinished
    split at unfinished
    · cases unfinished
    · rename_i other
      cases unfinished
      exact ⟨taken, equal, ⟨other, complete.op?_eq_none⟩, fun deep => by cases deep⟩

end Reckoner
