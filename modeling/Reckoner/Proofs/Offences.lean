import Reckoner.Proofs.ScanFaults

/-! # Scanning stops at the first offence

An offence is a character that begins no token where a token has to begin (`IsForeign`), or a point
in a number that has had one (`IsRepeatedPoint`). Scanning fails at the first offence of a text and
succeeds where there is none (`scan_eq_error_at_first_offence`). What carries this is that tokens
which the next character does not prolong are scanned alike whatever comes after them
(`IsDecomposition.scanFrom_append`): so a failure is that of one token after a decomposition
(`scanFrom_eq_error_iff`), the characters before it are scanned, and those after it do not
matter. -/

namespace Reckoner.Token

variable {isFunction : String → Bool} {start position : Nat} {c : Char}
  {cs before rest rest' run after : List Char} {tokens : List Token} {d : Diagnostic}

/-! ## Where tokens begin -/

/-- The last of the tokens is not prolonged by what comes after them. -/
def Closed (tokens : List Token) (rest : List Char) : Prop :=
  ∀ last, tokens.getLast? = some last → last.Complete rest

/-- After the characters a token has to begin with what comes next: they are split into tokens that
it does not prolong. -/
def BeginsAfter (isFunction : String → Bool) (before rest : List Char) : Prop :=
  ∃ tokens, IsDecomposition isFunction 0 before tokens ∧ Closed tokens rest

/-- Only the next character can prolong a token. -/
theorem Closed.congr (closed : Closed tokens rest) (same : rest'.head? = rest.head?) :
    Closed tokens rest' := by
  intro last found c first
  exact closed last found c (same ▸ first)

/-- Nothing is prolonged where the text ends. -/
theorem closed_nil (tokens : List Token) : Closed tokens [] := by
  intro last _ c first
  cases first

/-- Before the same character tokens begin alike. -/
theorem BeginsAfter.congr (begins : BeginsAfter isFunction before rest)
    (same : rest'.head? = rest.head?) : BeginsAfter isFunction before rest' := by
  obtain ⟨tokens, decomposition, closed⟩ := begins
  exact ⟨tokens, decomposition, closed.congr same⟩

/-- Tokens that nothing prolongs are scanned before the others. -/
theorem IsDecomposition.scanFrom_append
    (decomposition : IsDecomposition isFunction start before tokens)
    (closed : Closed tokens rest) :
    scanFrom isFunction start (before ++ rest) =
      (scanFrom isFunction (start + before.length) rest).map (tokens ++ ·) := by
  induction tokens generalizing start before with
  | nil =>
    obtain rfl : [] = before := decomposition.texts
    cases scanned : scanFrom isFunction start rest <;> simp [scanned, Except.map]
  | cons token tokens ih =>
    obtain ⟨rfl, formed, rfl, complete, others⟩ := decomposition.uncons
    -- the first token is followed by the second one, or by what comes after them
    have unprolonged : token.Complete (characters tokens ++ rest) := by
      cases tokens with
      | nil => exact closed token rfl
      | cons next tokens =>
        intro c first
        obtain ⟨c', run, text⟩ :=
          List.exists_cons_of_ne_nil (others.formed next List.mem_cons_self).text_ne_nil
        rw [characters_cons, text] at first complete
        exact complete c first
    have later : Closed tokens rest := by
      intro last found
      cases tokens with
      | nil => cases found
      | cons next tokens => exact closed last (by rwa [List.getLast?_cons_cons])
    obtain ⟨c, run, text⟩ := List.exists_cons_of_ne_nil formed.text_ne_nil
    have taken : next isFunction token.position c (run ++ (characters tokens ++ rest)) =
        .ok (token, characters tokens ++ rest) :=
      next_complete formed unprolonged (by rw [text, List.cons_append])
    have length : token.position + (token.text.toList ++ characters tokens).length =
        token.position + token.text.length + (characters tokens).length := by
      rw [List.length_append, String.length_toList, Nat.add_assoc]
    rw [length, List.append_assoc, text, List.cons_append, scanFrom_cons, taken]
    simp only [ih others later]
    cases scanFrom isFunction (token.position + token.text.length + (characters tokens).length)
      rest <;> rfl

/-- **Scanning fails where one token fails after a decomposition.** -/
theorem scanFrom_eq_error_iff :
    scanFrom isFunction start cs = .error d ↔
      ∃ before c rest tokens, cs = before ++ c :: rest ∧
        IsDecomposition isFunction start before tokens ∧ Closed tokens (c :: rest) ∧
        next isFunction (start + before.length) c rest = .error d := by
  constructor
  · intro failed
    induction cs using WellFounded.induction
      (measure fun cs : List Char => cs.length).wf generalizing start with
    | _ cs ih =>
      cases cs with
      | nil =>
        rw [scanFrom_nil] at failed
        cases failed
      | cons c cs =>
        rw [scanFrom_cons] at failed
        cases taken : next isFunction start c cs with
        | error cause =>
          rw [taken] at failed
          cases failed
          have closed : Closed [] (c :: cs) := by
            intro last found
            cases found
          exact ⟨[], c, cs, [], rfl, .nil, closed, taken⟩
        | ok piece =>
          obtain ⟨token, rest⟩ := piece
          obtain ⟨rfl, formed, complete⟩ := next_sound taken
          have text := next_text taken
          have shorter : rest.length < (c :: cs).length := Nat.lt_succ_of_le (next_length taken)
          simp only [taken] at failed
          cases others : scanFrom isFunction (token.position + token.text.length) rest with
          | ok tokens => simp [others, Except.map] at failed
          | error cause =>
            simp only [others, Except.map, Except.error.injEq] at failed
            subst failed
            obtain ⟨before, c', rest', tokens, rfl, decomposition, closed, stuck⟩ :=
              ih rest shorter others
            have unprolonged : token.Complete before := by
              intro c'' first
              obtain ⟨more, rfl⟩ := List.head?_eq_some_iff.1 first
              exact complete c'' rfl
            refine ⟨token.text.toList ++ before, c', rest', token :: tokens, ?_,
              .cons formed unprolonged decomposition, fun last found => ?_, ?_⟩
            · rw [← text, List.append_assoc]
            · cases tokens with
              | nil =>
                obtain rfl : [] = before := decomposition.texts
                cases found
                exact complete
              | cons next tokens => exact closed last (by rwa [List.getLast?_cons_cons] at found)
            · rwa [List.length_append, String.length_toList, ← Nat.add_assoc]
  · rintro ⟨before, c, rest, tokens, rfl, decomposition, closed, failed⟩
    rw [decomposition.scanFrom_append closed, scanFrom_cons, failed]
    rfl

/-! ## Offences -/

/-- No token begins with the character: it is neither a point nor a digit, nor a letter, nor a
symbol. -/
def BeginsNone (c : Char) : Prop :=
  c ≠ '.' ∧ c.isDigit = false ∧ Text.isLetter c = false ∧ c ∉ symbols

/-- At the position stands the character, where a token has to begin, and it begins none. -/
def IsForeign (isFunction : String → Bool) (cs : List Char) (position : Nat) (c : Char) : Prop :=
  ∃ before after, cs = before ++ c :: after ∧ position = before.length ∧
    BeginsAfter isFunction before (c :: after) ∧ BeginsNone c

/-- At the position stands a point in a run of digits and points that a number begins with, after
another point of the run. -/
def IsRepeatedPoint (isFunction : String → Bool) (cs : List Char) (position : Nat) : Prop :=
  ∃ before run after, cs = before ++ (run ++ '.' :: after) ∧
    position = (before ++ run).length ∧ BeginsAfter isFunction before (run ++ '.' :: after) ∧
    (∀ c ∈ run, isNumberPart c = true) ∧ '.' ∈ run

/-- At the position stands what cannot stand there. -/
def Offends (isFunction : String → Bool) (cs : List Char) (position : Nat) : Prop :=
  IsRepeatedPoint isFunction cs position ∨ ∃ c, IsForeign isFunction cs position c

/-- A character begins no token if it is none of those that do. -/
theorem beginsNone_iff :
    BeginsNone c ↔ isNumberPart c = false ∧ Name.isStart c = false ∧ symbolKind? c = none := by
  have symbol : symbolKind? c = none ↔ c ∉ symbols := by
    constructor
    · intro none member
      have some : symbols.all (fun c => (symbolKind? c).isSome) = true := by decide
      have found := List.all_eq_true.1 some c member
      rw [none] at found
      cases found
    · intro other
      by_contra some
      obtain ⟨kind, found⟩ := Option.ne_none_iff_exists'.1 some
      exact other (mem_symbols_of_symbolKind? found)
  rw [BeginsNone, symbol, isNumberPart, Bool.or_eq_false_iff, beq_eq_false_iff_ne, Name.isStart,
    and_assoc]

/-- What begins no token fails where a token has to begin. -/
theorem next_of_beginsNone (none : BeginsNone c) (position : Nat) (rest : List Char) :
    next isFunction position c rest = .error ⟨.unknownCharacter c, position⟩ := by
  obtain ⟨number, name, symbol⟩ := beginsNone_iff.1 none
  rw [next, number, name, symbol]
  rfl

/-- Where a token fails after others, scanning fails. -/
theorem BeginsAfter.scanFrom_eq_error (begins : BeginsAfter isFunction before (c :: rest))
    (failed : next isFunction before.length c rest = .error d) :
    scanFrom isFunction 0 (before ++ c :: rest) = .error d := by
  obtain ⟨tokens, decomposition, closed⟩ := begins
  exact scanFrom_eq_error_iff.2
    ⟨before, c, rest, tokens, rfl, decomposition, closed, by rwa [Nat.zero_add]⟩

/-- What begins no token is reported. -/
theorem IsForeign.scanFrom_eq_error (foreign : IsForeign isFunction cs position c) :
    scanFrom isFunction 0 cs = .error ⟨.unknownCharacter c, position⟩ := by
  obtain ⟨before, after, rfl, rfl, begins, none⟩ := foreign
  exact begins.scanFrom_eq_error (next_of_beginsNone none before.length after)

/-- After exactly one point of a number the next point is reported. -/
theorem BeginsAfter.scanFrom_second_point
    (begins : BeginsAfter isFunction before (run ++ '.' :: after))
    (parts : ∀ c ∈ run, isNumberPart c = true) (once : run.count '.' = 1) :
    scanFrom isFunction 0 (before ++ (run ++ '.' :: after)) =
      .error ⟨.malformedNumber, (before ++ run).length⟩ := by
  cases run with
  | nil => cases once
  | cons c run =>
    rw [List.length_append]
    exact begins.scanFrom_eq_error (next_of_second_point parts once after)

/-- Among a point and what stands before it there is a point after exactly one other, if there is
another. -/
theorem exists_second_point (other : '.' ∈ run) (after : List Char) :
    ∃ once more, run ++ '.' :: after = once ++ '.' :: more ∧ once.count '.' = 1 ∧ once <+: run := by
  have twice : secondPoint? false (run ++ ['.']) ≠ none := by
    intro none
    have count := secondPoint?_eq_none.1 none
    have first := List.count_pos_iff.2 other
    rw [List.count_append, List.count_singleton_self, Bool.toNat_false] at count
    omega
  obtain ⟨index, found⟩ := Option.ne_none_iff_exists'.1 twice
  obtain ⟨once, right, split, _, count⟩ := secondPoint?_eq_some found
  have lengths := congrArg List.length split
  simp only [List.length_append, List.length_cons, List.length_nil] at lengths
  have begins : once <+: run ++ ['.'] := by
    rw [split]
    exact List.prefix_append _ _
  have inside : once <+: run :=
    List.prefix_of_prefix_length_le begins (List.prefix_append _ _) (by omega)
  refine ⟨once, right ++ after, ?_, count, inside⟩
  rw [← List.singleton_append, ← List.append_assoc, split]
  simp

/-- A repeated point is reported, or one before it. -/
theorem IsRepeatedPoint.scanFrom_eq_error (repeated : IsRepeatedPoint isFunction cs position) :
    ∃ first ≤ position, scanFrom isFunction 0 cs = .error ⟨.malformedNumber, first⟩ := by
  obtain ⟨before, run, after, rfl, rfl, begins, parts, other⟩ := repeated
  obtain ⟨once, more, split, count, inside⟩ := exists_second_point other after
  rw [split] at begins ⊢
  refine ⟨(before ++ once).length, ?_,
    begins.scanFrom_second_point (fun c member => parts c (inside.subset member)) count⟩
  rw [List.length_append, List.length_append]
  exact Nat.add_le_add_left inside.length_le _

/-- Where something offends, scanning fails there or before. -/
theorem Offends.exists_error (offends : Offends isFunction cs position) :
    ∃ d : Diagnostic, d.position ≤ position ∧ scanFrom isFunction 0 cs = .error d := by
  rcases offends with repeated | ⟨c, foreign⟩
  · obtain ⟨first, before, failed⟩ := repeated.scanFrom_eq_error
    exact ⟨_, before, failed⟩
  · exact ⟨_, Nat.le_refl _, foreign.scanFrom_eq_error⟩

/-! ## The first offence -/

/-- **Scanning fails at a second point of a number or at a character that begins no token.** -/
theorem scanFrom_zero_eq_error_iff :
    scanFrom isFunction 0 cs = .error d ↔
      (∃ before run after, cs = before ++ (run ++ '.' :: after) ∧
        BeginsAfter isFunction before (run ++ '.' :: after) ∧
        (∀ c ∈ run, isNumberPart c = true) ∧ run.count '.' = 1 ∧
        d = ⟨.malformedNumber, (before ++ run).length⟩) ∨
      ∃ c position, IsForeign isFunction cs position c ∧ d = ⟨.unknownCharacter c, position⟩ := by
  constructor
  · intro failed
    obtain ⟨before, c, rest, tokens, rfl, decomposition, closed, failed⟩ :=
      scanFrom_eq_error_iff.1 failed
    rw [Nat.zero_add] at failed
    rcases next_eq_error failed with
      ⟨left, right, run, part, once, rfl⟩ | ⟨number, name, symbol, rfl⟩
    · have whole : c :: rest = left ++ '.' :: (right ++ rest.dropWhile isNumberPart) := by
        rw [← List.cons_append, ← List.append_assoc, ← run, List.cons_append,
          List.takeWhile_append_dropWhile]
      have parts : ∀ c' ∈ left, isNumberPart c' = true := by
        intro c' member
        have inside : c' ∈ c :: rest.takeWhile isNumberPart := by simp [run, member]
        rcases List.mem_cons.1 inside with rfl | inside
        · exact part
        · exact all_takeWhile isNumberPart rest c' inside
      rw [whole] at closed ⊢
      exact .inl ⟨before, left, _, rfl, ⟨tokens, decomposition, closed⟩, parts, once,
        by rw [List.length_append]⟩
    · exact .inr ⟨c, before.length, ⟨before, rest, rfl, rfl, ⟨tokens, decomposition, closed⟩,
        beginsNone_iff.2 ⟨number, name, symbol⟩⟩, rfl⟩
  · rintro (⟨before, run, after, rfl, begins, parts, once, rfl⟩ | ⟨c, position, foreign, rfl⟩)
    · exact begins.scanFrom_second_point parts once
    · exact foreign.scanFrom_eq_error

section Failed

variable (failed : scanFrom isFunction 0 cs = .error d)

include failed

/-- What fails is a second point exactly if a point is repeated there. -/
theorem problem_eq_malformedNumber_iff :
    d.problem = .malformedNumber ↔ IsRepeatedPoint isFunction cs d.position := by
  constructor
  · intro problem
    rcases scanFrom_zero_eq_error_iff.1 failed with
      ⟨before, run, after, rfl, begins, parts, once, rfl⟩ | ⟨c, position, _, rfl⟩
    · have other : '.' ∈ run := List.count_pos_iff.1 (by omega)
      exact ⟨before, run, after, rfl, rfl, begins, parts, other⟩
    · cases problem
  · intro repeated
    obtain ⟨first, _, same⟩ := repeated.scanFrom_eq_error
    rw [failed, Except.error.injEq] at same
    exact congrArg Diagnostic.problem same

/-- What fails is a character exactly if that character begins no token there. -/
theorem problem_eq_unknownCharacter_iff (c : Char) :
    d.problem = .unknownCharacter c ↔ IsForeign isFunction cs d.position c := by
  constructor
  · intro problem
    rcases scanFrom_zero_eq_error_iff.1 failed with
      ⟨_, _, _, _, _, _, _, rfl⟩ | ⟨c', position, foreign, rfl⟩
    · cases problem
    · cases problem
      exact foreign
  · intro foreign
    have same := foreign.scanFrom_eq_error
    rw [failed, Except.error.injEq] at same
    exact congrArg Diagnostic.problem same

/-- Where scanning fails there is an offence. -/
theorem offends_of_error : Offends isFunction cs d.position := by
  rcases scanFrom_zero_eq_error_iff.1 failed with
    ⟨_, _, _, _, _, _, _, rfl⟩ | ⟨c, position, foreign, rfl⟩
  · exact .inl ((problem_eq_malformedNumber_iff failed).1 rfl)
  · exact .inr ⟨c, foreign⟩

/-- Scanning fails at a character of the text. -/
theorem exists_eq_append_of_error :
    ∃ left c right, cs = left ++ c :: right ∧ d.position = left.length := by
  rcases scanFrom_zero_eq_error_iff.1 failed with
    ⟨before, run, after, rfl, _, _, _, rfl⟩ | ⟨c, _, ⟨before, after, rfl, rfl, _, _⟩, rfl⟩
  · exact ⟨before ++ run, '.', after, by rw [List.append_assoc], rfl⟩
  · exact ⟨before, c, after, rfl, rfl⟩

/-- The characters before the one that fails are scanned. -/
theorem scanFrom_take_of_error :
    ∃ tokens, scanFrom isFunction 0 (cs.take d.position) = .ok tokens := by
  rcases scanFrom_zero_eq_error_iff.1 failed with
    ⟨before, run, after, rfl, begins, parts, once, rfl⟩ |
      ⟨c, _, ⟨before, after, rfl, rfl, begins, _⟩, rfl⟩
  · cases run with
    | nil => cases once
    | cons first run =>
      -- what the number has before its second point is a number itself
      have alone : BeginsAfter isFunction before (first :: run) := begins.congr rfl
      obtain ⟨tokens, decomposition, closed⟩ := alone
      rw [List.forall_mem_cons] at parts
      have all : run.takeWhile isNumberPart = run := List.takeWhile_eq_self_iff.2 parts.2
      have none : run.dropWhile isNumberPart = [] := List.dropWhile_eq_nil_iff.2 parts.2
      have taken : next isFunction (0 + before.length) first run =
          .ok (⟨.number, String.ofList (first :: run), 0 + before.length⟩, []) := by
        rw [next_of_isNumberPart parts.1 (by rw [all]; omega), all, none]
      rw [← List.append_assoc, List.take_left, decomposition.scanFrom_append closed, scanFrom_cons,
        taken]
      exact ⟨_, by simp only [scanFrom_nil]; rfl⟩
  · obtain ⟨tokens, decomposition, _⟩ := begins
    have whole := decomposition.scanFrom_append (closed_nil tokens)
    rw [List.append_nil, scanFrom_nil] at whole
    rw [List.take_left, whole]
    exact ⟨_, rfl⟩

/-- Whatever comes after the character that fails, it fails. -/
theorem scanFrom_eq_error_of_prefix {other : List Char}
    (same : cs.take (d.position + 1) <+: other) : scanFrom isFunction 0 other = .error d := by
  have upTo (left : List Char) (c : Char) (right : List Char) :
      (left ++ c :: right).take (left.length + 1) = left ++ [c] := by
    rw [← List.singleton_append, ← List.append_assoc]
    exact List.take_left' (by simp)
  rcases scanFrom_zero_eq_error_iff.1 failed with
    ⟨before, run, after, rfl, begins, parts, once, rfl⟩ |
      ⟨c, _, ⟨before, after, rfl, rfl, begins, none⟩, rfl⟩
  · rw [← List.append_assoc, upTo] at same
    obtain ⟨more, rfl⟩ := same
    have again : BeginsAfter isFunction before (run ++ '.' :: more) :=
      begins.congr (by cases run <;> rfl)
    simpa using again.scanFrom_second_point parts once
  · rw [upTo] at same
    obtain ⟨more, rfl⟩ := same
    have again : BeginsAfter isFunction before (c :: more) := begins.congr rfl
    simpa using again.scanFrom_eq_error (next_of_beginsNone none before.length more)

end Failed

/-- **Scanning fails at the first offence, whatever comes after it.** Where scanning an expression
fails, it does so at one of its characters other than blanks; those before it are scanned, and every
expression that begins with the same characters up to it fails with the same diagnostic. The
diagnostic is about a number exactly if a point is repeated there and about a character exactly if
that character begins no token there; nothing offends before. An expression without an offence is
scanned. -/
theorem scan_eq_error_at_first_offence (isFunction : String → Bool) (expression : String) :
    let cs := Text.withoutBlanks expression
    (∀ d, scan isFunction expression = .error d →
      d.position < cs.length ∧
      (∃ tokens, scan isFunction (String.ofList (cs.take d.position)) = .ok tokens) ∧
      (∀ other, cs.take (d.position + 1) <+: Text.withoutBlanks other →
        scan isFunction other = .error d) ∧
      (d.problem = .malformedNumber ↔ IsRepeatedPoint isFunction cs d.position) ∧
      (∀ c, d.problem = .unknownCharacter c ↔ IsForeign isFunction cs d.position c) ∧
      Offends isFunction cs d.position ∧
      ∀ position, Offends isFunction cs position → d.position ≤ position) ∧
    ((∃ tokens, scan isFunction expression = .ok tokens) ↔
      ∀ position, ¬ Offends isFunction cs position) := by
  intro cs
  refine ⟨fun d failed => ⟨?_, ?_, fun other same => scanFrom_eq_error_of_prefix failed same,
    problem_eq_malformedNumber_iff failed, problem_eq_unknownCharacter_iff failed,
    offends_of_error failed, fun position offends => ?_⟩, ?_, fun inoffensive => ?_⟩
  · obtain ⟨left, c, right, whole, position⟩ := exists_eq_append_of_error failed
    have length := congrArg List.length whole
    rw [List.length_append, List.length_cons] at length
    show d.position < (Text.withoutBlanks expression).length
    omega
  · obtain ⟨tokens, scanned⟩ := scanFrom_take_of_error failed
    -- what has no blanks keeps all its characters
    have same : Text.withoutBlanks (String.ofList (cs.take d.position)) = cs.take d.position := by
      rw [Text.withoutBlanks, String.toList_ofList, List.filter_eq_self]
      intro c member
      have kept : c ∈ Text.withoutBlanks expression := List.mem_of_mem_take member
      exact (List.mem_filter.1 kept).2
    exact ⟨tokens, by rwa [scan, same]⟩
  · obtain ⟨d', before, failed'⟩ := offends.exists_error
    have same : scan isFunction expression = .error d' := failed'
    rw [failed] at same
    cases same
    exact before
  · rintro ⟨tokens, scanned⟩ position offends
    obtain ⟨d, _, failed⟩ := offends.exists_error
    have same : scan isFunction expression = .error d := failed
    rw [scanned] at same
    cases same
  · cases scanned : scan isFunction expression with
    | ok tokens => exact ⟨tokens, rfl⟩
    | error d => exact absurd (offends_of_error scanned) (inoffensive d.position)

end Reckoner.Token
