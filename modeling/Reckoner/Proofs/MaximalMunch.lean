import Mathlib.Data.List.Chain
import Reckoner.Proofs.Characters

/-! # Scanning is maximal munch

The tokens of an expression are the decomposition of its characters other than blanks into texts
that have the form of their kinds, where no token could have been longer (`IsDecomposition`).
Exactly the expressions with a decomposition are scanned, there is one decomposition at most, and
its positions ascend (`scan_iff_isDecomposition`). What connects scanning with them is that
the first token is what has the form of its kind and is not prolonged by the character after it
(`next_sound`, `next_complete`), and that neighbours tell by their kinds and one character whether
this is so (`Apart.complete`, `Complete.apart`). -/

namespace Reckoner.Token

/-! ## Decompositions -/

/-- Whether the token is a name. -/
def IsIdentifier (token : Token) : Prop := token.kind = .variable ∨ token.kind = .function

/-- The token is none that ends the input, and its text has the form of its kind. -/
def WellFormed (isFunction : String → Bool) (token : Token) : Prop :=
  match token.kind with
  | .number =>
    token.text.toList ≠ [] ∧ (∀ c ∈ token.text.toList, isNumberPart c = true) ∧
      token.text.toList.count '.' ≤ 1
  | .variable => Name.isName token.text.toList = true ∧ isFunction token.text = false
  | .function => Name.isName token.text.toList = true ∧ isFunction token.text = true
  | .operator => ∃ op : Op, token.text.toList = [op.symbol]
  | .leftParen => token.text.toList = ['(']
  | .rightParen => token.text.toList = [')']
  | .comma => token.text.toList = [',']
  | .endOfInput => False

/-- The token may stand directly before the other one: the two are not two numbers, not two names,
and not a name and a number that begins with a digit. -/
def Apart (token after : Token) : Prop :=
  ¬ (token.kind = .number ∧ after.kind = .number) ∧
  ¬ (token.IsIdentifier ∧ after.IsIdentifier) ∧
  ¬ (token.IsIdentifier ∧ after.kind = .number ∧ ∃ c, after.text.toList.head? = some c ∧ c.isDigit)

/-- The characters of the texts of tokens, one text after the other. -/
def characters (tokens : List Token) : List Char := tokens.flatMap fun token => token.text.toList

/-- The tokens are a decomposition of the characters, which stand from a position on. The end of the
input is not among them. -/
structure IsDecomposition (isFunction : String → Bool) (start : Nat) (cs : List Char)
    (tokens : List Token) : Prop where
  /-- The texts make up the characters. -/
  texts : characters tokens = cs
  /-- A token's position is the number of the characters before it. -/
  positions : ∀ before token after, tokens = before ++ token :: after →
    token.position = start + (characters before).length
  /-- Every text has the form of its kind. -/
  formed : ∀ token ∈ tokens, token.WellFormed isFunction
  /-- No token could have been longer. -/
  apart : tokens.IsChain Apart

variable {isFunction : String → Bool} {start position : Nat} {c : Char} {cs rest : List Char}
  {token : Token} {tokens : List Token}

@[simp] theorem characters_cons (token : Token) (tokens : List Token) :
    characters (token :: tokens) = token.text.toList ++ characters tokens := rfl

/-! ## The longest run -/

/-- All characters of a run have its property. -/
theorem all_takeWhile (p : Char → Bool) (cs : List Char) :
    ∀ c ∈ cs.takeWhile p, p c = true :=
  fun c member => List.all_eq_true.1 List.all_takeWhile c member

/-- The character after the longest run does not have the property. -/
theorem not_head?_dropWhile (p : Char → Bool) (cs : List Char) :
    ∀ c, (cs.dropWhile p).head? = some c → p c = false := by
  intro c first
  have other := List.head?_dropWhile_not p cs
  rw [first] at other
  exact other

/-- A run is the longest one if the character after it does not have the property. -/
theorem takeWhile_dropWhile_append {p : Char → Bool} {run : List Char}
    (all : ∀ c ∈ run, p c = true) (other : ∀ c, rest.head? = some c → p c = false) :
    (run ++ rest).takeWhile p = run ∧ (run ++ rest).dropWhile p = rest := by
  rw [List.takeWhile_append_of_pos all, List.dropWhile_append_of_pos all]
  cases rest with
  | nil => exact ⟨List.append_nil run, rfl⟩
  | cons c rest => simp [other c rfl]

/-- There is no second point where there is at most one. -/
theorem secondPoint?_eq_none {seen : Bool} {cs : List Char} :
    secondPoint? seen cs = none ↔ cs.count '.' + seen.toNat ≤ 1 := by
  induction cs generalizing seen with
  | nil => cases seen <;> simp [secondPoint?]
  | cons c cs ih =>
    by_cases point : c = '.'
    · subst point
      cases seen with
      | false => simp [secondPoint?, ih]
      | true => simp [secondPoint?]
    · have other : (c == '.') = false := beq_eq_false_iff_ne.2 point
      simp [secondPoint?, ih, point, other]

/-! ## The first token -/

/-- Where a part of a number stands, the token is the longest number, if it has at most one point.
-/
theorem next_of_isNumberPart (part : isNumberPart c = true)
    (once : (c :: cs.takeWhile isNumberPart).count '.' ≤ 1) :
    next isFunction position c cs = .ok
      (⟨.number, String.ofList (c :: cs.takeWhile isNumberPart), position⟩,
        cs.dropWhile isNumberPart) := by
  have none : secondPoint? false (c :: cs.takeWhile isNumberPart) = none :=
    secondPoint?_eq_none.2 once
  rw [next, if_pos part]
  simp only [none]

/-- Where a name begins, the token is the longest name. -/
theorem next_of_isStart (start : Name.isStart c = true) :
    next isFunction position c cs = .ok
      (⟨if isFunction (String.ofList (c :: cs.takeWhile Name.isPart)) then .function else .variable,
          String.ofList (c :: cs.takeWhile Name.isPart), position⟩,
        cs.dropWhile Name.isPart) := by
  rw [next, isNumberPart_of_isStart start, if_pos start]
  rfl

/-- A symbol is a token. -/
theorem next_of_symbolKind? {kind : Kind} (found : symbolKind? c = some kind) :
    next isFunction position c cs = .ok (⟨kind, String.ofList [c], position⟩, cs) := by
  have start : Name.isStart c = false := by
    rw [← Bool.not_eq_true]
    intro start
    have other := isPart_of_symbolKind? found
    rw [Name.isPart_of_isStart start] at other
    cases other
  rw [next, isNumberPart_of_symbolKind? found, start, found]
  rfl

/-- The first token is a number, a name or a symbol. -/
theorem next_cases (taken : next isFunction position c cs = .ok (token, rest)) :
    (isNumberPart c = true ∧ (c :: cs.takeWhile isNumberPart).count '.' ≤ 1 ∧
      token = ⟨.number, String.ofList (c :: cs.takeWhile isNumberPart), position⟩ ∧
      rest = cs.dropWhile isNumberPart) ∨
    (Name.isStart c = true ∧
      token = ⟨if isFunction (String.ofList (c :: cs.takeWhile Name.isPart)) then .function
        else .variable, String.ofList (c :: cs.takeWhile Name.isPart), position⟩ ∧
      rest = cs.dropWhile Name.isPart) ∨
    ∃ kind, symbolKind? c = some kind ∧ token = ⟨kind, String.ofList [c], position⟩ ∧
      rest = cs := by
  unfold next at taken
  split at taken
  · rename_i part
    dsimp only at taken
    split at taken
    · cases taken
    · rename_i none
      cases taken
      exact .inl ⟨part, secondPoint?_eq_none.1 none, rfl, rfl⟩
  · split at taken
    · rename_i start
      cases taken
      exact .inr (.inl ⟨start, rfl, rfl⟩)
    · split at taken
      · rename_i kind found
        cases taken
        exact .inr (.inr ⟨kind, found, rfl, rfl⟩)
      · cases taken

/-! ## Tokens that nothing prolongs -/

/-- The character after the token does not prolong it. -/
def Complete (token : Token) (rest : List Char) : Prop :=
  ∀ c, rest.head? = some c →
    (token.kind = .number → isNumberPart c = false) ∧ (token.IsIdentifier → Name.isPart c = false)

/-- A symbol's kind is neither that of a number nor that of a name, and its text has the form of its
kind. -/
theorem wellFormed_of_symbolKind? {kind : Kind} (found : symbolKind? c = some kind)
    (position : Nat) :
    let token : Token := ⟨kind, String.ofList [c], position⟩
    token.kind ≠ .number ∧ ¬ token.IsIdentifier ∧ token.WellFormed isFunction := by
  unfold symbolKind? at found
  split at found
  · cases found
    simp [WellFormed, IsIdentifier, *]
  split at found
  · cases found
    simp [WellFormed, IsIdentifier, *]
  split at found
  · cases found
    simp [WellFormed, IsIdentifier, *]
  · obtain ⟨op, operator, rfl⟩ := Option.map_eq_some_iff.1 found
    simp [WellFormed, IsIdentifier, Op.ofSymbol?_eq_some.1 operator]

/-- The first token has the form of its kind, and the character after it does not prolong it. -/
theorem next_sound (taken : next isFunction position c cs = .ok (token, rest)) :
    token.position = position ∧ token.WellFormed isFunction ∧ token.Complete rest := by
  rcases next_cases taken with ⟨part, once, rfl, rfl⟩ | ⟨start, rfl, rfl⟩ | ⟨kind, found, rfl, rfl⟩
  · have all := all_takeWhile isNumberPart cs
    have other := not_head?_dropWhile isNumberPart cs
    refine ⟨rfl, ⟨by simp, ?_, ?_⟩, fun c first => ⟨fun _ => other c first, ?_⟩⟩
    · rw [String.toList_ofList]
      exact List.forall_mem_cons.2 ⟨part, all⟩
    · rwa [String.toList_ofList]
    · rintro (kind | kind) <;> cases kind
  · have all := all_takeWhile Name.isPart cs
    have other := not_head?_dropWhile Name.isPart cs
    generalize text : String.ofList (c :: cs.takeWhile Name.isPart) = name
    have named : Name.isName name.toList = true := by
      rw [← text, String.toList_ofList, Name.isName, start, Bool.true_and]
      exact List.all_eq_true.2 all
    cases function : isFunction name with
    | true =>
      exact ⟨rfl, ⟨named, function⟩, fun c first => ⟨by simp, fun _ => other c first⟩⟩
    | false =>
      exact ⟨rfl, ⟨named, function⟩, fun c first => ⟨by simp, fun _ => other c first⟩⟩
  · obtain ⟨number, name, formed⟩ : _ ∧ _ ∧ WellFormed isFunction _ :=
      wellFormed_of_symbolKind? found position
    exact ⟨rfl, formed, fun c first =>
      ⟨fun kind => absurd kind number, fun kind => absurd kind name⟩⟩

/-- What has the form of its kind is not empty. -/
theorem WellFormed.text_ne_nil (formed : token.WellFormed isFunction) :
    token.text.toList ≠ [] := by
  intro empty
  cases kind : token.kind <;> simp [WellFormed, kind, empty, Name.isName] at formed

/-- What begins with a name and is not prolonged by the character after it is the first token. -/
theorem next_of_isName {run : List Char} (named : Name.isName (c :: run) = true)
    (other : ∀ c, rest.head? = some c → Name.isPart c = false) :
    next isFunction position c (run ++ rest) = .ok
      (⟨if isFunction (String.ofList (c :: run)) then .function else .variable,
        String.ofList (c :: run), position⟩, rest) := by
  simp only [Name.isName, Bool.and_eq_true, List.all_eq_true] at named
  obtain ⟨taken, left⟩ := takeWhile_dropWhile_append named.2 other
  rw [next_of_isStart named.1, taken, left]

/-- What has the form of its kind and is not prolonged by the character after it is the first
token. -/
theorem next_complete (formed : token.WellFormed isFunction)
    (complete : token.Complete rest) (texts : token.text.toList ++ rest = c :: cs) :
    next isFunction token.position c cs = .ok (token, rest) := by
  obtain ⟨run, text, rfl⟩ : ∃ run, token.text.toList = c :: run ∧ cs = run ++ rest := by
    cases text : token.text.toList with
    | nil => exact absurd text formed.text_ne_nil
    | cons first run =>
      rw [text, List.cons_append, List.cons.injEq] at texts
      exact ⟨run, by rw [texts.1], texts.2.symm⟩
  obtain ⟨kind, text', position⟩ := token
  obtain rfl : text' = String.ofList (c :: run) := by rw [← text, String.ofList_toList]
  cases kind with
  | number =>
    obtain ⟨_, all, once⟩ := formed
    rw [text] at all once
    rw [List.forall_mem_cons] at all
    obtain ⟨taken, left⟩ :=
      takeWhile_dropWhile_append all.2 fun c first => (complete c first).1 rfl
    rw [next_of_isNumberPart all.1 (by rwa [taken]), taken, left]
  | «variable» =>
    obtain ⟨named, function⟩ := formed
    rw [text] at named
    rw [next_of_isName named fun c first => (complete c first).2 (.inl rfl), function]
    rfl
  | function =>
    obtain ⟨named, function⟩ := formed
    rw [text] at named
    rw [next_of_isName named fun c first => (complete c first).2 (.inr rfl), function]
    rfl
  | operator =>
    obtain ⟨op, symbol⟩ := formed
    obtain ⟨rfl, rfl⟩ := List.cons_eq_cons.1 (text.symm.trans symbol)
    exact next_of_symbolKind? (by cases op <;> rfl)
  | leftParen =>
    obtain ⟨rfl, rfl⟩ := List.cons_eq_cons.1 (text.symm.trans formed)
    exact next_of_symbolKind? rfl
  | rightParen =>
    obtain ⟨rfl, rfl⟩ := List.cons_eq_cons.1 (text.symm.trans formed)
    exact next_of_symbolKind? rfl
  | comma =>
    obtain ⟨rfl, rfl⟩ := List.cons_eq_cons.1 (text.symm.trans formed)
    exact next_of_symbolKind? rfl
  | endOfInput => exact formed.elim

/-- The first character of a token tells a number, a name and a symbol apart. -/
theorem WellFormed.first {run : List Char} (formed : token.WellFormed isFunction)
    (text : token.text.toList = c :: run) :
    (token.kind = .number ∧ isNumberPart c = true) ∨
      (token.IsIdentifier ∧ Name.isStart c = true) ∨
      (token.kind ≠ .number ∧ ¬ token.IsIdentifier ∧ ∃ kind, symbolKind? c = some kind) := by
  have starts (named : Name.isName token.text.toList = true) : Name.isStart c = true := by
    rw [text, Name.isName, Bool.and_eq_true] at named
    exact named.1
  have only {symbol : Char} (same : token.text.toList = [symbol]) : c = symbol :=
    (List.cons_eq_cons.1 (text.symm.trans same)).1
  unfold WellFormed at formed
  split at formed
  · rename_i kind
    exact .inl ⟨kind, formed.2.1 c (by simp [text])⟩
  · rename_i kind
    exact .inr (.inl ⟨.inl kind, starts formed.1⟩)
  · rename_i kind
    exact .inr (.inl ⟨.inr kind, starts formed.1⟩)
  · rename_i kind
    obtain ⟨op, symbol⟩ := formed
    obtain rfl := only symbol
    exact .inr (.inr ⟨by simp [kind], by simp [IsIdentifier, kind], .operator, by cases op <;> rfl⟩)
  · rename_i kind
    obtain rfl := only formed
    exact .inr (.inr ⟨by simp [kind], by simp [IsIdentifier, kind], .leftParen, rfl⟩)
  · rename_i kind
    obtain rfl := only formed
    exact .inr (.inr ⟨by simp [kind], by simp [IsIdentifier, kind], .rightParen, rfl⟩)
  · rename_i kind
    obtain rfl := only formed
    exact .inr (.inr ⟨by simp [kind], by simp [IsIdentifier, kind], .comma, rfl⟩)
  · exact formed.elim

/-- A token that may stand before another one is not prolonged by it. -/
theorem Apart.complete {after : Token} (apart : token.Apart after)
    (formed : after.WellFormed isFunction) (rest : List Char) :
    token.Complete (after.text.toList ++ rest) := by
  intro c first
  obtain ⟨run, text⟩ : ∃ run, after.text.toList = c :: run := by
    cases text : after.text.toList with
    | nil => exact absurd text formed.text_ne_nil
    | cons c' run =>
      rw [text] at first
      cases first
      exact ⟨run, rfl⟩
  obtain ⟨numbers, names, prolonged⟩ := apart
  rcases formed.first text with ⟨kind, part⟩ | ⟨name, start⟩ | ⟨_, _, symbol, found⟩
  · refine ⟨fun number => absurd ⟨number, kind⟩ numbers, fun name => ?_⟩
    -- after a name, the number is one that begins with a point
    rcases Bool.or_eq_true_iff.1 part with point | digit
    · rw [beq_iff_eq.1 point]
      exact isPart_point
    · exact absurd ⟨name, kind, c, by rw [text]; rfl, digit⟩ prolonged
  · exact ⟨fun _ => isNumberPart_of_isStart start, fun other => absurd ⟨other, name⟩ names⟩
  · exact ⟨fun _ => isNumberPart_of_symbolKind? found, fun _ => isPart_of_symbolKind? found⟩

/-- A token that is not prolonged by another one may stand before it. -/
theorem Complete.apart {after : Token} (complete : token.Complete (after.text.toList ++ rest))
    (formed : after.WellFormed isFunction) : token.Apart after := by
  obtain ⟨c, run, text⟩ := List.exists_cons_of_ne_nil formed.text_ne_nil
  obtain ⟨numbers, names⟩ := complete c (by rw [text]; rfl)
  rcases formed.first text with ⟨kind, part⟩ | ⟨name, start⟩ | ⟨number, name, _⟩
  · -- before a number stands no number, and no name if the number begins with a digit
    refine ⟨fun both => ?_, fun both => by simp [IsIdentifier, kind] at both, ?_⟩
    · rw [numbers both.1] at part
      cases part
    · rintro ⟨other, _, c', first, digit⟩
      rw [text] at first
      cases first
      have prolonged := names other
      rw [isPart_of_isDigit digit] at prolonged
      cases prolonged
  · -- before a name stands no name
    have kind : after.kind ≠ .number := by rcases name with kind | kind <;> simp [kind]
    refine ⟨fun both => kind both.2, fun both => ?_, fun both => kind both.2.1⟩
    have prolonged := names both.1
    rw [Name.isPart_of_isStart start] at prolonged
    cases prolonged
  · exact ⟨fun both => number both.2, fun both => name both.2, fun both => number both.2.1⟩

/-! ## One token and the others -/

namespace IsDecomposition

/-- No tokens are the decomposition of no characters. -/
theorem nil : IsDecomposition isFunction start [] [] :=
  ⟨rfl, fun before token after split => by simp at split, by simp, .nil⟩

/-- The decomposition of no characters has no tokens. -/
theorem nil_iff : IsDecomposition isFunction start [] tokens ↔ tokens = [] := by
  constructor
  · intro decomposition
    cases tokens with
    | nil => rfl
    | cons token tokens =>
      have empty := (List.append_eq_nil_iff.1 decomposition.texts).1
      exact absurd empty (decomposition.formed token (List.mem_cons_self ..)).text_ne_nil
  · rintro rfl
    exact nil

/-- A token and a decomposition of what does not prolong it are a decomposition. -/
theorem cons (formed : token.WellFormed isFunction) (complete : token.Complete cs)
    (others : IsDecomposition isFunction (token.position + token.text.length) cs tokens) :
    IsDecomposition isFunction token.position (token.text.toList ++ cs) (token :: tokens) := by
  obtain ⟨texts, positions, each, apart⟩ := others
  refine ⟨by rw [characters_cons, texts], fun before other after split => ?_,
    List.forall_mem_cons.2 ⟨formed, each⟩, List.isChain_cons.2 ⟨fun next head => ?_, apart⟩⟩
  · cases before with
    | nil =>
      cases split
      rfl
    | cons first before =>
      obtain ⟨rfl, others⟩ := List.cons_eq_cons.1 split
      rw [positions before other after others, characters_cons, List.length_append,
        String.length_toList, Nat.add_assoc]
  · obtain ⟨more, rfl⟩ := List.head?_eq_some_iff.1 head
    rw [← texts, characters_cons] at complete
    exact complete.apart (each next (List.mem_cons_self ..))

/-- Tokens that may stand beside each other do not prolong the first one. -/
theorem complete_of_isChain (apart : (token :: tokens).IsChain Apart)
    (formed : ∀ next ∈ tokens, next.WellFormed isFunction) :
    token.Complete (characters tokens) := by
  cases tokens with
  | nil =>
    intro c first
    cases first
  | cons next others =>
    have next_apart := (List.isChain_cons_cons.1 apart).1
    exact next_apart.complete (formed next (List.mem_cons_self ..)) _

/-- A decomposition begins with a token that is not prolonged and goes on with a decomposition. -/
theorem uncons (decomposition : IsDecomposition isFunction start cs (token :: tokens)) :
    token.text.toList ++ characters tokens = cs ∧ token.WellFormed isFunction ∧
      token.position = start ∧ token.Complete (characters tokens) ∧
      IsDecomposition isFunction (start + token.text.length) (characters tokens) tokens := by
  obtain ⟨texts, positions, formed, apart⟩ := decomposition
  rw [List.forall_mem_cons] at formed
  refine ⟨texts, formed.1, positions [] token tokens rfl, complete_of_isChain apart formed.2, rfl,
    fun before other after split => ?_, formed.2, apart.tail⟩
  rw [positions (token :: before) other after (congrArg (List.cons token) split),
    characters_cons, List.length_append, String.length_toList, Nat.add_assoc]

/-- The positions of a decomposition ascend from where it begins to its end. -/
theorem ascending (decomposition : IsDecomposition isFunction start cs tokens) :
    (∀ token ∈ tokens, start ≤ token.position ∧ token.position < start + cs.length) ∧
      tokens.Pairwise fun token after => token.position < after.position := by
  induction tokens generalizing start cs with
  | nil => exact ⟨by simp, .nil⟩
  | cons token tokens ih =>
    obtain ⟨rfl, formed, rfl, _, others⟩ := decomposition.uncons
    obtain ⟨within, ascending⟩ := ih others
    have some : 0 < token.text.length := by
      rw [← String.length_toList]
      exact List.length_pos_iff.2 formed.text_ne_nil
    rw [List.forall_mem_cons, List.pairwise_cons, List.length_append, String.length_toList]
    refine ⟨⟨by omega, fun other member => ?_⟩, fun other member => ?_, ascending⟩
    · have bounds := within other member
      omega
    · have bounds := within other member
      omega

end IsDecomposition

/-- What is scanned from a position on are the tokens of a decomposition and their end. -/
theorem scanFrom_eq_ok_iff :
    scanFrom isFunction start cs = .ok tokens ↔
      ∃ inner, tokens = inner ++ [finish (start + cs.length)] ∧
        IsDecomposition isFunction start cs inner := by
  induction cs using WellFounded.induction
    (measure fun cs : List Char => cs.length).wf generalizing start tokens with
  | _ cs ih =>
    cases cs with
    | nil => simp [IsDecomposition.nil_iff, eq_comm]
    | cons c cs =>
      have shorter {token rest} (taken : next isFunction start c cs = .ok (token, rest)) :
          rest.length < (c :: cs).length := Nat.lt_succ_of_le (next_length taken)
      rw [scanFrom_cons]
      constructor
      · intro scanned
        cases taken : next isFunction start c cs with
        | error diagnostic => simp [taken] at scanned
        | ok piece =>
          obtain ⟨token, rest⟩ := piece
          obtain ⟨rfl, formed, complete⟩ := next_sound taken
          simp only [taken] at scanned
          cases others : scanFrom isFunction (token.position + token.text.length) rest with
          | error diagnostic => simp [others, Except.map] at scanned
          | ok tokens' =>
            simp only [others, Except.map, Except.ok.injEq] at scanned
            obtain ⟨inner, rfl, decomposition⟩ := (ih rest (shorter taken)).1 others
            rw [← scanned, ← next_text taken]
            refine ⟨token :: inner, ?_, .cons formed complete decomposition⟩
            rw [List.length_append, String.length_toList, Nat.add_assoc]
            rfl
      · rintro ⟨inner, rfl, decomposition⟩
        cases inner with
        | nil => cases decomposition.texts
        | cons token others =>
          obtain ⟨texts, formed, rfl, complete, decomposition⟩ := decomposition.uncons
          have taken := next_complete formed complete texts
          have scanned := (ih _ (shorter taken)).2 ⟨others, rfl, decomposition⟩
          simp only [taken, scanned, Except.map, List.cons_append, ← texts, List.length_append,
            String.length_toList, Nat.add_assoc]

/-- **Scanning is maximal munch.** The tokens of an expression are those of the decomposition of its
characters other than blanks, and the end of the input behind them; where there is no decomposition,
scanning fails. Characters have one decomposition at most, and its positions strictly ascend up to
the end. -/
theorem scan_iff_isDecomposition (isFunction : String → Bool) (expression : String) :
    let cs := Text.withoutBlanks expression
    (∀ tokens, scan isFunction expression = .ok tokens ↔
      ∃ inner, tokens = inner ++ [finish cs.length] ∧ IsDecomposition isFunction 0 cs inner) ∧
    (∀ inner inner', IsDecomposition isFunction 0 cs inner →
      IsDecomposition isFunction 0 cs inner' → inner = inner') ∧
    ∀ inner, IsDecomposition isFunction 0 cs inner →
      (inner ++ [finish cs.length]).Pairwise fun token after =>
        token.position < after.position := by
  intro cs
  have scanned {tokens} : scanFrom isFunction 0 cs = .ok tokens ↔
      ∃ inner, tokens = inner ++ [finish cs.length] ∧ IsDecomposition isFunction 0 cs inner := by
    rw [scanFrom_eq_ok_iff, Nat.zero_add]
  refine ⟨fun tokens => scanned, fun inner inner' first second => ?_, fun inner decomposition => ?_⟩
  · have same := scanned.2 ⟨inner, rfl, first⟩
    rw [scanned.2 ⟨inner', rfl, second⟩, Except.ok.injEq] at same
    exact (List.append_cancel_right same).symm
  · obtain ⟨within, ascending⟩ := decomposition.ascending
    refine List.pairwise_append.2 ⟨ascending, List.pairwise_singleton _ _, ?_⟩
    intro token member last same
    obtain rfl := List.mem_singleton.1 same
    have bounds := within token member
    rw [Nat.zero_add] at bounds
    exact bounds.2

end Reckoner.Token
