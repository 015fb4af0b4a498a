import Mathlib.Data.List.DropRight
import Reckoner.Proofs.MaximalMunch

/-! # Where scanning fails

Characters that have no decomposition are scanned up to the first character that begins no token or
to the second point of a number (`scan_eq_error`). The point is the second one also of the longest
run of digits and points around it (`IsSecondPoint`): a name before the number may lend the run its
last digits, but no point. -/

namespace Reckoner

namespace Token

variable {isFunction : String → Bool} {start position : Nat} {c : Char} {cs rest : List Char}
  {token : Token} {d : Diagnostic}

/-! ## Runs of digits and points -/

/-- The run is a longest one of digits and points. -/
structure IsNumberRun (cs before run after : List Char) : Prop where
  whole : cs = before ++ run ++ after
  parts : ∀ c ∈ run, isNumberPart c = true
  begins : ∀ c, before.getLast? = some c → isNumberPart c = false
  ends : ∀ c, after.head? = some c → isNumberPart c = false

/-- At the position stands the second point of its longest run of digits and points. -/
def IsSecondPoint (cs : List Char) (position : Nat) : Prop :=
  ∃ before left right after, IsNumberRun cs before (left ++ '.' :: right) after ∧
    left.count '.' = 1 ∧ position = before.length + left.length

/-- What stands at a position after some characters. -/
theorem getElem?_of_eq_append {before after : List Char} (whole : cs = before ++ c :: after)
    (length : position = before.length) : cs[position]? = some c := by
  subst whole length
  rw [List.getElem?_append_right (Nat.le_refl _), Nat.sub_self]
  rfl

/-- At the second point of a run there is a point. -/
theorem IsSecondPoint.getElem? (second : IsSecondPoint cs position) : cs[position]? = some '.' := by
  obtain ⟨before, left, right, after, run, _, rfl⟩ := second
  have whole : cs = (before ++ left) ++ '.' :: (right ++ after) := by simpa using run.whole
  exact getElem?_of_eq_append whole (by rw [List.length_append])

/-- No run of digits and points at the end of the characters has a point. -/
def EndsPointless (cs : List Char) : Prop :=
  ∀ run, run <:+ cs → (∀ c ∈ run, isNumberPart c = true) → '.' ∉ run

/-- Characters without points after one that is no part of a number end in no point. -/
theorem endsPointless_append (before : List Char) (other : isNumberPart c = false)
    (pointless : '.' ∉ cs) : EndsPointless (before ++ c :: cs) := by
  intro run suffix parts point
  have text : cs <:+ before ++ c :: cs := by
    rw [← List.singleton_append, ← List.append_assoc]
    exact List.suffix_append _ _
  rcases Nat.lt_or_ge cs.length run.length with longer | shorter
  · -- a run that goes beyond the other characters has the one in it that is no part of a number
    have inside : c :: cs <:+ run :=
      List.suffix_of_suffix_length_le (List.suffix_append _ _) suffix longer
    rw [parts c (inside.subset (List.mem_cons_self ..))] at other
    cases other
  · have inside : run <:+ cs := List.suffix_of_suffix_length_le suffix text shorter
    exact pointless (inside.subset point)

/-- A second point after characters that end in no point is the second one of its run. -/
theorem EndsPointless.isSecondPoint {before left right after : List Char}
    (pointless : EndsPointless before)
    (parts : ∀ c ∈ left ++ '.' :: right, isNumberPart c = true) (once : left.count '.' = 1)
    (ends : ∀ c, after.head? = some c → isNumberPart c = false) :
    IsSecondPoint (before ++ (left ++ '.' :: right) ++ after) (before.length + left.length) := by
  -- the run begins with the digits at the end of what stands before
  let digits := before.rtakeWhile isNumberPart
  have split : before.rdropWhile isNumberPart ++ digits = before :=
    List.rdropWhile_append_rtakeWhile
  have all : ∀ c ∈ digits, isNumberPart c = true := fun c => List.mem_rtakeWhile_imp
  have none : digits.count '.' = 0 :=
    List.count_eq_zero.2 (pointless digits (List.rtakeWhile_suffix _ _) all)
  refine ⟨before.rdropWhile isNumberPart, digits ++ left, right, after, ⟨?_, ?_, ?_, ends⟩, ?_, ?_⟩
  · conv_lhs => rw [← split]
    simp
  · intro c member
    rw [List.append_assoc, List.mem_append] at member
    exact member.elim (all c) (parts c)
  · intro c last
    have some : before.rdropWhile isNumberPart ≠ [] := by
      intro empty
      rw [empty] at last
      cases last
    rw [List.getLast?_eq_some_getLast some, Option.some.injEq] at last
    have other := List.rdropWhile_last_not isNumberPart before some
    rw [last] at other
    exact Bool.not_eq_true _ ▸ other
  · rw [List.count_append, none, once]
  · conv_lhs => rw [← split]
    rw [List.length_append, List.length_append, Nat.add_assoc]

/-! ## The token that fails -/

/-- The first point that has one before it comes after exactly one. -/
theorem secondPoint?_eq_some {seen : Bool} {index : Nat}
    (found : secondPoint? seen cs = some index) :
    ∃ left right, cs = left ++ '.' :: right ∧ left.length = index ∧
      left.count '.' + seen.toNat = 1 := by
  induction cs generalizing seen index with
  | nil => cases found
  | cons c cs ih =>
    rw [secondPoint?] at found
    split at found
    · rename_i point
      obtain ⟨rfl, rfl⟩ := point
      cases found
      exact ⟨[], cs, rfl, rfl, rfl⟩
    · rename_i other
      obtain ⟨index, again, rfl⟩ := Option.map_eq_some_iff.1 found
      obtain ⟨left, right, rfl, rfl, once⟩ := ih again
      refine ⟨c :: left, right, rfl, rfl, ?_⟩
      by_cases point : c = '.'
      · subst point
        cases seen with
        | true => exact absurd ⟨rfl, rfl⟩ other
        | false => simpa using once
      · have other : (c == '.') = false := beq_eq_false_iff_ne.2 point
        rw [other, Bool.or_false] at once
        rw [List.count_cons_of_ne point, once]

/-- A token fails at the second point of a number or at a character that begins no token. -/
theorem next_eq_error (failed : next isFunction position c cs = .error d) :
    (∃ left right, c :: cs.takeWhile isNumberPart = left ++ '.' :: right ∧
      isNumberPart c = true ∧ left.count '.' = 1 ∧ d = ⟨.malformedNumber, position + left.length⟩) ∨
    (isNumberPart c = false ∧ Name.isStart c = false ∧ symbolKind? c = none ∧
      d = ⟨.unknownCharacter c, position⟩) := by
  unfold next at failed
  split at failed
  · rename_i part
    dsimp only at failed
    split at failed
    · rename_i index found
      cases failed
      obtain ⟨left, right, run, rfl, once⟩ := secondPoint?_eq_some found
      exact .inl ⟨left, right, run, part, once, rfl⟩
    · cases failed
  · rename_i other
    split at failed
    · cases failed
    · rename_i start
      split at failed
      · cases failed
      · rename_i none
        cases failed
        exact .inr ⟨Bool.eq_false_iff.2 other, Bool.eq_false_iff.2 start, none, rfl⟩

/-- A point after exactly one other is the second one. -/
theorem secondPoint?_of_once {seen : Bool} {left : List Char}
    (once : left.count '.' + seen.toNat = 1) (right : List Char) :
    secondPoint? seen (left ++ '.' :: right) = some left.length := by
  induction left generalizing seen with
  | nil =>
    cases seen with
    | false => cases once
    | true => rfl
  | cons c left ih =>
    by_cases point : c = '.'
    · subst point
      cases seen with
      | true => simp at once
      | false =>
        rw [List.count_cons_self] at once
        simp [secondPoint?, @ih true once]
    · rw [List.count_cons_of_ne point] at once
      have other : (c == '.') = false := beq_eq_false_iff_ne.2 point
      simp [secondPoint?, point, other, ih once]

/-- A number with one point fails at the next one, whatever comes after it. -/
theorem next_of_second_point {run : List Char}
    (parts : ∀ c' ∈ c :: run, isNumberPart c' = true) (once : (c :: run).count '.' = 1)
    (after : List Char) :
    next isFunction position c (run ++ '.' :: after) =
      .error ⟨.malformedNumber, position + (c :: run).length⟩ := by
  rw [List.forall_mem_cons] at parts
  have point : isNumberPart '.' = true := by decide
  have digits : c :: (run ++ '.' :: after).takeWhile isNumberPart =
      (c :: run) ++ '.' :: after.takeWhile isNumberPart := by
    rw [List.takeWhile_append_of_pos parts.2, List.takeWhile_cons_of_pos point, List.cons_append]
  have second := @secondPoint?_of_once false (c :: run) once (after.takeWhile isNumberPart)
  rw [next, if_pos parts.1]
  simp only [digits, second]

/-- A token fails whatever comes after the character where it does. -/
theorem next_error_of_within {before after : List Char}
    (failed : next isFunction position c (before ++ after) = .error d)
    (within : d.position ≤ position + before.length) (after' : List Char) :
    next isFunction position c (before ++ after') = .error d := by
  rcases next_eq_error failed with
    ⟨left, right, run, part, once, rfl⟩ | ⟨number, name, none, rfl⟩
  · -- the digits up to the second point are among the characters before
    cases left with
    | nil => cases once
    | cons c' left =>
      have split : c = c' ∧ (before ++ after).takeWhile isNumberPart = left ++ '.' :: right :=
        List.cons_eq_cons.1 run
      obtain ⟨rfl, whole⟩ := split
      have point : left ++ ['.'] <+: (before ++ after).takeWhile isNumberPart := by
        rw [whole]
        exact ⟨right, by simp⟩
      have short : (left ++ ['.']).length ≤ before.length := by
        simp only [List.length_append, List.length_cons, List.length_nil] at within ⊢
        omega
      obtain ⟨more, rfl⟩ : left ++ ['.'] <+: before :=
        List.prefix_of_prefix_length_le (point.trans (List.takeWhile_prefix _))
          (List.prefix_append before after) short
      have parts : ∀ c' ∈ c :: left, isNumberPart c' = true := by
        refine List.forall_mem_cons.2 ⟨part, fun c' member => ?_⟩
        exact all_takeWhile isNumberPart _ c' (point.subset (List.mem_append_left _ member))
      have again := @next_of_second_point isFunction position c left parts once (more ++ after')
      simpa using again
  · rw [next, number, name, none]
    rfl

/-- A token that is no number has no point, and it begins with a character that is no part of a
number. -/
theorem WellFormed.pointless (formed : token.WellFormed isFunction) (other : token.kind ≠ .number) :
    ∃ c run, token.text.toList = c :: run ∧ isNumberPart c = false ∧ '.' ∉ run := by
  obtain ⟨c, run, text⟩ := List.exists_cons_of_ne_nil formed.text_ne_nil
  have named (name : Name.isName token.text.toList = true) :
      isNumberPart c = false ∧ '.' ∉ run := by
    rw [text, Name.isName, Bool.and_eq_true, List.all_eq_true] at name
    refine ⟨isNumberPart_of_isStart name.1, fun point => ?_⟩
    have part := name.2 '.' point
    rw [isPart_point] at part
    cases part
  have symbol {s : Char} {kind : Kind} (found : symbolKind? s = some kind)
      (same : token.text.toList = [s]) : isNumberPart c = false ∧ '.' ∉ run := by
    obtain ⟨rfl, rfl⟩ := List.cons_eq_cons.1 (text.symm.trans same)
    exact ⟨isNumberPart_of_symbolKind? found, List.not_mem_nil⟩
  refine ⟨c, run, text, ?_⟩
  unfold WellFormed at formed
  split at formed
  · rename_i kind
    exact absurd kind other
  · exact named formed.1
  · exact named formed.1
  · obtain ⟨op, same⟩ := formed
    exact symbol (symbolKind?_symbol op) same
  · exact symbol symbolKind?_leftParen formed
  · exact symbol symbolKind?_rightParen formed
  · exact symbol symbolKind?_comma formed
  · exact formed.elim

end Token

/-- The diagnostic is about a character that begins no token or about the second point of a
number. -/
def Diagnostic.IsScanFault (d : Diagnostic) (cs : List Char) : Prop :=
  (∃ c, d.problem = .unknownCharacter c ∧ cs[d.position]? = some c ∧
    Token.isNumberPart c = false ∧ Name.isStart c = false ∧ Token.symbolKind? c = none) ∨
  (d.problem = .malformedNumber ∧ Token.IsSecondPoint cs d.position)

namespace Token

/-! ## The characters that fail -/

/-- Where a token fails, it is at a character that begins no token or at the second point of a
number. What stands before it may end in a point only if the token is no number. -/
theorem next_isScanFault {before : List Char}
    (pointless : isNumberPart c = true → EndsPointless before)
    (failed : next isFunction before.length c cs = .error d) :
    d.IsScanFault (before ++ c :: cs) := by
  rcases next_eq_error failed with
    ⟨left, right, run, part, once, rfl⟩ | ⟨number, name, none, rfl⟩
  · have all : ∀ c ∈ left ++ '.' :: right, isNumberPart c = true := by
      rw [← run]
      exact List.forall_mem_cons.2 ⟨part, all_takeWhile isNumberPart cs⟩
    have second := (pointless part).isSecondPoint all once (not_head?_dropWhile isNumberPart cs)
    rw [← run, List.append_assoc, List.cons_append, List.takeWhile_append_dropWhile] at second
    exact .inr ⟨rfl, second⟩
  · exact .inl ⟨c, rfl, getElem?_of_eq_append rfl rfl, number, name, none⟩

/-- Scanning fails at a character that begins no token or at the second point of a number. -/
theorem scanFrom_eq_error (before : List Char)
    (pointless : ∀ c, cs.head? = some c → isNumberPart c = true → EndsPointless before)
    (failed : scanFrom isFunction before.length cs = .error d) : d.IsScanFault (before ++ cs) := by
  induction cs using WellFounded.induction
    (measure fun cs : List Char => cs.length).wf generalizing before with
  | _ cs ih =>
    cases cs with
    | nil =>
      rw [scanFrom_nil] at failed
      cases failed
    | cons c cs =>
      rw [scanFrom_cons] at failed
      cases taken : next isFunction before.length c cs with
      | error cause =>
        simp only [taken] at failed
        cases failed
        exact next_isScanFault (pointless c rfl) taken
      | ok piece =>
        obtain ⟨token, rest⟩ := piece
        simp only [taken] at failed
        obtain ⟨_, formed, complete⟩ := next_sound taken
        have text := next_text taken
        have shorter : rest.length < (c :: cs).length := Nat.lt_succ_of_le (next_length taken)
        cases others : scanFrom isFunction (before.length + token.text.length) rest with
        | ok tokens => simp [others, Except.map] at failed
        | error cause =>
          simp only [others, Except.map, Except.error.injEq] at failed
          subst failed
          have later := ih rest shorter (before ++ token.text.toList) ?_ ?_
          · rwa [List.append_assoc, text] at later
          · intro c' first part
            -- after a number comes no part of a number; other tokens end in no point
            have other : token.kind ≠ .number := by
              intro kind
              rw [(complete c' first).1 kind] at part
              cases part
            obtain ⟨c, run, same, barrier, none⟩ := formed.pointless other
            rw [same]
            exact endsPointless_append before barrier none
          · rwa [List.length_append, String.length_toList]

/-- Scanning an expression fails at one of its characters other than blanks that begins no token, or
at the second point of a longest run of digits and points. -/
theorem scan_eq_error {expression : String} (failed : scan isFunction expression = .error d) :
    d.IsScanFault (Text.withoutBlanks expression) := by
  have none : ∀ c, (Text.withoutBlanks expression).head? = some c → isNumberPart c = true →
      EndsPointless [] := by
    intro _ _ _ run suffix _ point
    rw [List.suffix_nil.1 suffix] at point
    cases point
  exact scanFrom_eq_error [] none failed

end Token

end Reckoner
