import Mathlib.Data.Nat.Find
import Reckoner.Proofs.Location
import Reckoner.Proofs.Stopping

/-! # The first token that is wrong

Tokens are viable when they begin some expression with its end. Where tokens are no expression there
is a first token with which what is read is no longer viable (`IsFirstWrong`). A complaint about the
form of an expression is about this token, and any other diagnostic is about what is complete before
it (`evaluate_reports_first_wrong`): what has been taken where reading breaks off can be completed
(`Stops.completed`), and the token that comes next cannot stand there (`Stops.not_viable`). -/

namespace Reckoner

/-! ## Viable tokens -/

/-- Some expression, with an end of the input after it, begins with the tokens. -/
def Viable (tokens : List Token) : Prop :=
  ∃ sentence terminator more, IsSentence sentence ∧ terminator.kind = .endOfInput ∧
    sentence ++ [terminator] = tokens ++ more

/-- What begins viable tokens is viable. -/
theorem Viable.of_append {tokens more : List Token} (viable : Viable (tokens ++ more)) :
    Viable tokens := by
  obtain ⟨sentence, terminator, rest, derives, ends, equal⟩ := viable
  exact ⟨sentence, terminator, more ++ rest, derives, ends, by rw [equal, List.append_assoc]⟩

/-- What begins an expression is viable. -/
theorem Derives.viable {tokens more : List Token} {e : Expr}
    (derives : Derives .expression (tokens ++ more) e) : Viable tokens :=
  ⟨tokens ++ more, Token.finish 0, more ++ [Token.finish 0], ⟨e, derives⟩, rfl,
    List.append_assoc _ _ _⟩

/-- Reading an expression with an end after it succeeds if the levels suffice. -/
theorem Derives.read_whole {sentence : List Token} {e : Expr} {terminator : Token} {levels : Nat}
    (derives : Derives .expression sentence e) (ends : terminator.kind = .endOfInput)
    (shallow : e.nesting ≤ levels) :
    (Phrase.rule levels .expression).read (sentence ++ [terminator]) = .ok (e, [terminator]) :=
  (Rule.whole_reads levels).complete derives shallow (Phrase.endsBefore_of_kind (by simp [ends]))

/-- No expression goes on with the token before which reading it breaks off. -/
theorem Stops.not_viable {levels : Nat} {taken : List Token} {parts : List Expr} {wanted : Wanted}
    {token : Token} (stops : Stops levels .expression taken parts wanted token)
    (other : wanted ≠ .lessDepth) : ¬ Viable (taken ++ [token]) := by
  rintro ⟨sentence, terminator, more, ⟨e, derives⟩, ends, equal⟩
  -- with levels enough for the expression, reading it would both succeed and fail
  have failed := (stops.mono other e.nesting).read_eq_error (token :: more) rfl
  rw [List.append_assoc, List.singleton_append] at equal
  rw [← equal, derives.read_whole ends (Nat.le_add_right _ _)] at failed
  cases failed

/-- Tokens are no expression if reading one breaks off before a token among them. -/
theorem Stops.not_isSentence {levels : Nat} {taken : List Token} {parts : List Expr}
    {wanted : Wanted} {token : Token} (stops : Stops levels .expression taken parts wanted token)
    (other : wanted ≠ .lessDepth) (more : List Token) : ¬ IsSentence (taken ++ token :: more) := by
  rintro ⟨e, derives⟩
  rw [← List.singleton_append, ← List.append_assoc] at derives
  exact stops.not_viable other derives.viable

/-- No expression goes on with the token before which it is complete, unless it ends there. -/
theorem Derives.not_viable {taken : List Token} {e : Expr} {token : Token}
    (derives : Derives .expression taken e) (complete : Phrase.EndsBefore .expression token)
    (other : token.kind ≠ .endOfInput) : ¬ Viable (taken ++ [token]) := by
  rintro ⟨sentence, terminator, more, ⟨e', derives'⟩, ends, equal⟩
  rw [List.append_assoc, List.singleton_append] at equal
  have read := derives'.read_whole ends (Nat.le_max_right e.nesting e'.nesting)
  have again : (Phrase.rule (max e.nesting e'.nesting) .expression).read (taken ++ token :: more) =
      .ok (e, token :: more) :=
    (Rule.whole_reads _).complete derives (Nat.le_max_left _ _) complete
  rw [equal, again] at read
  cases read
  exact other ends

/-! ## The tokens with their end -/

namespace Token

/-- The tokens up to the first end of the input, which stands behind them if there is none. -/
def terminated (tokens : List Token) : List Token :=
  beforeEnd tokens ++ [current (fromEnd tokens)]

/-- Tokens other than the end of the input come before the end of those after them. -/
theorem terminated_append {taken : List Token} (rest : List Token)
    (inside : ∀ token ∈ taken, token.kind ≠ .endOfInput) :
    terminated (taken ++ rest) = taken ++ terminated rest := by
  rw [terminated, beforeEnd, fromEnd, List.takeWhile_append_of_pos (by simpa using inside),
    List.dropWhile_append_of_pos (by simpa using inside), List.append_assoc]
  rfl

/-- The first token up to the end is the current one. -/
theorem terminated_eq_cons (tokens : List Token) :
    ∃ more, terminated tokens = current tokens :: more := by
  cases tokens with
  | nil => exact ⟨[], rfl⟩
  | cons token tokens =>
    by_cases ends : token.kind = .endOfInput
    · exact ⟨[], by simp [terminated, beforeEnd, fromEnd, ends]⟩
    · have inside : ∀ other ∈ [token], other.kind ≠ .endOfInput := by simpa using ends
      exact ⟨terminated tokens, terminated_append tokens inside⟩

/-- The tokens with their end are viable only if they are an expression. -/
theorem isSentence_of_viable {tokens : List Token} (viable : Viable (terminated tokens)) :
    IsSentence (beforeEnd tokens) := by
  obtain ⟨sentence, terminator, more, ⟨e, derives⟩, ends, equal⟩ := viable
  have left : beforeEnd (sentence ++ [terminator]) = sentence :=
    beforeEnd_append derives.kind_ne_endOfInput ends
  have inside : ∀ token ∈ beforeEnd tokens, token.kind ≠ .endOfInput := by
    intro token member
    simpa using List.all_eq_true.1 List.all_takeWhile token member
  have right : beforeEnd (terminated tokens ++ more) = beforeEnd tokens := by
    rw [terminated, List.append_assoc]
    exact beforeEnd_append inside (current_fromEnd tokens)
  rw [← right, ← equal, left]
  exact ⟨e, derives⟩

end Token

/-! ## The first wrong token -/

/-- The token at the index is the first one with which the tokens up to it are not viable. -/
structure IsFirstWrong (tokens : List Token) (i : Nat) : Prop where
  inside : i < tokens.length
  wrong : ¬ Viable (tokens.take (i + 1))
  least : ∀ j < i, Viable (tokens.take (j + 1))

/-- Where tokens are not viable there is a first wrong one. -/
theorem exists_isFirstWrong {tokens : List Token} (some : tokens ≠ []) (whole : ¬ Viable tokens) :
    ∃ i, IsFirstWrong tokens i := by
  classical
  have last : tokens.length - 1 + 1 = tokens.length :=
    Nat.sub_add_cancel (List.length_pos_iff.2 some)
  have exist : ∃ i, ¬ Viable (tokens.take (i + 1)) :=
    ⟨tokens.length - 1, by rwa [last, List.take_length]⟩
  refine ⟨Nat.find exist, ?_, Nat.find_spec exist, fun j less => ?_⟩
  · have bound : Nat.find exist ≤ tokens.length - 1 :=
      Nat.find_min' exist (by rwa [last, List.take_length])
    omega
  · exact not_not.1 (Nat.find_min exist less)

namespace IsFirstWrong

variable {taken more : List Token} {token : Token} {i : Nat}

/-- The first wrong token comes after viable ones. -/
theorem length_le (first : IsFirstWrong (taken ++ more) i) (viable : Viable taken) :
    taken.length ≤ i := by
  by_contra less
  refine first.wrong ?_
  rw [List.take_append_of_le_length (by omega)]
  rw [← List.take_append_drop (i + 1) taken] at viable
  exact viable.of_append

/-- The first wrong token is none that comes after one with which the tokens are not viable. -/
theorem le_length (first : IsFirstWrong (taken ++ token :: more) i)
    (wrong : ¬ Viable (taken ++ [token])) : i ≤ taken.length := by
  by_contra less
  have viable := first.least taken.length (by omega)
  rw [List.take_length_add_append] at viable
  exact wrong viable

/-- The tokens before the first wrong one are viable ones and some after them, and none where the
next token is wrong already. -/
theorem take_eq_append (first : IsFirstWrong (taken ++ token :: more) i) (viable : Viable taken) :
    ∃ middle last, (taken ++ token :: more).take i = taken ++ middle ∧
      (taken ++ token :: more)[i]? = some last ∧ Token.current (middle ++ [last]) = token ∧
      (¬ Viable (taken ++ [token]) → middle = []) := by
  obtain ⟨k, rfl⟩ := Nat.exists_eq_add_of_le (first.length_le viable)
  have inside := first.inside
  rw [List.length_append, Nat.add_lt_add_iff_left] at inside
  refine ⟨(token :: more).take k, (token :: more)[k], List.take_length_add_append k, ?_, ?_, ?_⟩
  · rw [List.getElem?_append_right (Nat.le_add_right _ _), Nat.add_sub_cancel_left,
      List.getElem?_eq_getElem inside]
  · cases k with
    | zero => rfl
    | succ k => rfl
  · intro wrong
    have le := first.le_length wrong
    obtain rfl : k = 0 := by omega
    rfl

end IsFirstWrong

/-! ## What is reported -/

/-- The diagnostic is one for tokens of which the one after `before` is the first wrong one: a
complaint about the form of the expression is about that token, too deep nesting was met no later,
and any other diagnostic is about what is complete before. -/
def Diagnostic.Reports (d : Diagnostic) (before : List Token) (token : Token) : Prop :=
  match d.problem with
  | .unexpected kind => kind = token.kind ∧ d.position = token.position
  | .trailing kind => kind = token.kind ∧ d.position = token.position
  | .missingRightParen => d.position = token.position
  | .nestedTooDeeply => ∃ earlier ∈ before ++ [token], d.position = earlier.position
  | _ => d.Within before token

open Evaluation

variable {σ : Type} {scope : Scope σ}

/-- What is complete before reading breaks off fails within the tokens taken. -/
theorem Stops.located {levels : Nat} {phrase : Phrase} {taken : List Token} {parts : List Expr}
    {wanted : Wanted} {token : Token} (stops : Stops levels phrase taken parts wanted token)
    {d : Diagnostic} (fails : Fails (Expr.values scope parts) d) : d.Within taken token := by
  have arguments {tokens es} (separated : Separated (Derives .expression) tokens es) :=
    separated.mono fun tokens e derives =>
      (⟨derives, fun next => derives.located next⟩ : ∃ _ : Derives .expression tokens e,
        ∀ next, Phrase.EndsBefore .expression next → e.Located scope tokens next)
  induction stops with
  | lessDepth => exact absurd fails (not_fails_pure [])
  | operand => exact absurd fails (not_fails_pure [])
  | callStart => exact absurd fails (not_fails_pure [])
  | @signed _ first _ taken _ _ _ _ _ ih =>
    simpa using (ih fails).widen [first] [] rfl
  | @inGroup _ opening _ _ _ _ _ _ ih =>
    simpa using (ih fails).widen [opening] [] rfl
  | @groupEnd _ opening _ _ token _ derives _ ends _ =>
    have within := derives.located token ends _ (Expr.fails_values_singleton fails)
    simpa using within.widen [opening] [] rfl
  | @inFirstArgument _ name opening _ _ _ _ _ _ _ _ ih =>
    simpa using (ih fails).widen [name, opening] [] rfl
  | @inArgument _ name opening before _ comma taken _ _ _ _ _ separated _ kind _ ih =>
    rcases Expr.fails_values_append fails with fails | fails
    · have endsComma : Phrase.EndsBefore .expression comma :=
        Phrase.endsBefore_of_kind (by simp [kind])
      have within := (arguments separated).located endsComma fails
      simpa using within.widen [name, opening] (comma :: taken) rfl
    · simpa using (ih fails).widen (name :: opening :: (before ++ [comma])) [] rfl
  | @callEnd _ name opening _ _ _ _ _ separated _ ends _ _ =>
    have within := (arguments separated).located ends fails
    simpa using within.widen [name, opening] [] rfl
  | inFirst _ ih => exact ih fails
  | @inPart _ level before left joint _ taken parts _ _ joined _ found same _ ih =>
    have fails : Fails (Expr.values scope ([left] ++ parts)) d := fails
    rcases Expr.fails_values_append fails with fails | fails
    · have located : left.Located scope before joint :=
        Chain.located (joined.mono fun _ _ derives => ⟨derives, fun next => derives.located next⟩)
          (Phrase.part_endsBefore found same)
      exact (located d (Expr.fails_values_singleton fails)).widen [] (joint :: taken) rfl
    · simpa using (ih fails).widen (before ++ [joint]) [] rfl

/-- Where tokens are not read, those before the fault are viable, and with the one at the fault they
are not, unless the levels were used up. What is complete by then fails before the fault. -/
theorem Expr.ofTokens_eq_error {levels : Nat} {tokens : List Token} {fault : Fault}
    (failed : Expr.ofTokens levels tokens = .error fault) :
    ∃ taken, tokens = taken ++ fault.rest ∧ (∀ token ∈ taken, token.kind ≠ .endOfInput) ∧
      Viable taken ∧
      (fault.wanted ≠ .lessDepth → ¬ Viable (taken ++ [Token.current fault.rest])) ∧
      ∀ {σ : Type} (scope : Scope σ) d, Fails (Expr.values scope fault.parts) d →
        d.Within taken (Token.current fault.rest) := by
  rw [Expr.ofTokens, bind_eq_error] at failed
  rcases failed with failed | ⟨⟨e, rest⟩, read, unfinished⟩
  · -- reading the expression breaks off
    obtain ⟨taken, equal, stops⟩ := Rule.whole_stops levels tokens fault failed
    obtain ⟨more, e, derives⟩ := stops.completed
    have inside := derives.kind_ne_endOfInput
    rw [List.forall_mem_append] at inside
    exact ⟨taken, equal, inside.1, derives.viable, stops.not_viable, fun _ _ => stops.located⟩
  · -- an expression is read, but the input goes on
    obtain ⟨taken, equal, derives, _, complete⟩ := (Rule.whole_reads levels).sound read
    by_cases ends : (Token.current rest).kind = .endOfInput
    · simp only [if_pos ends] at unfinished
      cases unfinished
    · simp only [if_neg ends] at unfinished
      cases unfinished
      have whole : Derives .expression (taken ++ []) e := by rwa [List.append_nil]
      exact ⟨taken, equal, derives.kind_ne_endOfInput, whole.viable,
        fun _ => derives.not_viable complete ends,
        fun _ d fails => derives.located _ complete d (Expr.fails_values_singleton fails)⟩

/-- The diagnostic of a fault is reported for the token at the fault or, where the levels were used
up, for that token or a later one. -/
theorem Fault.diagnostic_reports (fault : Fault) {before middle : List Token} {token : Token}
    (follows : Token.current (middle ++ [token]) = Token.current fault.rest)
    (none : fault.wanted ≠ .lessDepth → middle = []) :
    fault.diagnostic.Reports (before ++ middle) token := by
  cases wanted : fault.wanted with
  | lessDepth =>
    rw [Diagnostic.Reports, Fault.diagnostic, wanted]
    refine ⟨Token.current fault.rest, ?_, rfl⟩
    rw [← follows]
    cases middle with
    | nil => simp
    | cons first middle => simp
  | _ =>
    obtain rfl := none (by simp [wanted])
    rw [List.nil_append, Token.current_cons] at follows
    simp [Diagnostic.Reports, Fault.diagnostic, wanted, follows]

/-- Diagnostics about what is complete are reported. -/
theorem Diagnostic.Within.reports {d : Diagnostic} {before : List Token} {token : Token}
    (within : d.Within before token) : d.Reports before token := by
  cases problem : d.problem <;> simp only [Within, Reports, problem] at within ⊢ <;> exact within

/-- **Errors are reported at the first wrong token or before it.** Tokens that are no expression
have a first token with which they are not viable. Evaluating them fails, whatever functions and
variables there are: with a complaint about the form of the expression at exactly that token, with
too deep nesting at that token or before it, or with the failure of a number, a variable, a division
or a call that is complete before it. -/
theorem evaluate_reports_first_wrong (scope : Scope σ) (tokens : List Token)
    (other : ¬ IsSentence (Token.beforeEnd tokens)) :
    ∃ i token, IsFirstWrong (Token.terminated tokens) i ∧
      (Token.terminated tokens)[i]? = some token ∧
      ∀ memory, ∃ d memory', (evaluate scope tokens).run.run memory = (.error d, memory') ∧
        d.Reports ((Token.terminated tokens).take i) token := by
  cases read : Expr.ofTokens maxLevels tokens with
  | ok e => exact absurd ⟨e, (Expr.ofTokens_eq_ok.1 read).1⟩ other
  | error fault =>
    obtain ⟨taken, equal, inside, viable, wrong, located⟩ := Expr.ofTokens_eq_error read
    obtain ⟨more, next⟩ := Token.terminated_eq_cons fault.rest
    have whole : Token.terminated tokens = taken ++ Token.current fault.rest :: more := by
      rw [equal, Token.terminated_append _ inside, next]
    obtain ⟨i, first⟩ := exists_isFirstWrong (by simp [whole])
      fun viable => other (Token.isSentence_of_viable viable)
    rw [whole] at first ⊢
    obtain ⟨middle, token, before, at_i, follows, none⟩ := first.take_eq_append viable
    refine ⟨i, token, first, at_i, fun memory => ?_⟩
    have raised : evaluate scope tokens = fault.raise scope := by
      rw [evaluate, evaluateWithin, read]
      rfl
    obtain ⟨d, memory', run, kind⟩ := fault.run_raise scope memory
    refine ⟨d, memory', by rw [raised, run], ?_⟩
    rw [before]
    rcases kind with fails | rfl
    · exact ((located scope d ⟨memory, memory', fails⟩).widen [] middle follows).reports
    · exact fault.diagnostic_reports follows fun other => none (wrong other)

/-- In `2+*3` the third token is wrong, as no operand begins with it. -/
theorem evaluate_reports_first_wrong_times :
    let tokens : List Token :=
      [⟨.number, "2", 0⟩, ⟨.operator, "+", 1⟩, ⟨.operator, "*", 2⟩, ⟨.number, "3", 3⟩, .finish 4]
    ¬ IsSentence (Token.beforeEnd tokens) ∧
      ∃ i token, IsFirstWrong (Token.terminated tokens) i ∧
        (Token.terminated tokens)[i]? = some token ∧
        ∀ memory : Unit, ∃ d memory',
          (evaluate ⟨.empty, ∅⟩ tokens).run.run memory = (.error d, memory') ∧
            d.Reports ((Token.terminated tokens).take i) token := by
  intro tokens
  have two : Chain .sum (Derives .product) [⟨.number, "2", 0⟩] (.literal "2" 0) :=
    .first (.product (.first (.power (.first (.unsigned (.number rfl))))))
  have none : ¬ Token.Begins ⟨.operator, "*", 2⟩ := by
    unfold Token.Begins
    decide
  have power : Stops 1 Level.power.chain [] [] .operand ⟨.operator, "*", 2⟩ :=
    .inFirst (.operand none)
  have product : Stops 1 Level.product.chain [] [] .operand ⟨.operator, "*", 2⟩ := .inFirst power
  have stops : Stops 1 .expression [⟨.number, "2", 0⟩, ⟨.operator, "+", 1⟩] [.literal "2" 0]
      .operand ⟨.operator, "*", 2⟩ := .inPart two (by decide) rfl rfl product
  have other : ¬ IsSentence (Token.beforeEnd tokens) :=
    stops.not_isSentence (by decide) [⟨.number, "3", 3⟩]
  exact ⟨other, evaluate_reports_first_wrong _ tokens other⟩

end Reckoner
