import Mathlib.Data.List.Sort
import Reckoner.Proofs.Rebinding
import Reckoner.Proofs.Registrations

/-! # Telling functions from variables

Which names are functions' matters to scanning for nothing but the kinds of the names: with other
functions a text is split at the same places or fails alike, and its tokens are the same with their
names told apart anew (`scanFrom_classified`). So a registration makes functions of the names that
are the same in lower case and leaves all else in a text alone, its evaluation included where the
text has no such name (`Calculator.register_frame`). -/

namespace Reckoner

namespace Token

variable {isFunction : String → Bool} {token : Token}

/-- The token, told apart anew if it is a name. -/
def classified (isFunction : String → Bool) (token : Token) : Token :=
  match token.kind with
  | .variable | .function =>
    { token with kind := if isFunction token.text then .function else .variable }
  | _ => token

@[simp] theorem classified_text : (token.classified isFunction).text = token.text := by
  unfold classified
  split <;> rfl

@[simp] theorem classified_position :
    (token.classified isFunction).position = token.position := by
  unfold classified
  split <;> rfl

/-- A name is a function's if it is said to be, and a variable's otherwise. -/
theorem classified_kind (name : token.IsIdentifier) :
    (token.classified isFunction).kind =
      if isFunction token.text then .function else .variable := by
  rcases name with kind | kind <;> simp [classified, kind]

/-- What is no name stays as it is. -/
theorem classified_of_not (other : ¬ token.IsIdentifier) :
    token.classified isFunction = token := by
  unfold classified
  split
  · rename_i kind
    exact absurd (.inl kind) other
  · rename_i kind
    exact absurd (.inr kind) other
  · rfl

/-- A name that is told apart anew is a name still. -/
theorem classified_isIdentifier :
    (token.classified isFunction).IsIdentifier ↔ token.IsIdentifier := by
  by_cases name : token.IsIdentifier
  · refine iff_of_true ?_ name
    rw [IsIdentifier, classified_kind name]
    cases isFunction token.text <;> simp
  · rw [classified_of_not name]

/-- Where the names are told apart alike, so is the token. -/
theorem classified_congr {isFunction' : String → Bool}
    (agree : token.IsIdentifier → isFunction' token.text = isFunction token.text) :
    token.classified isFunction' = token.classified isFunction := by
  by_cases name : token.IsIdentifier
  · have same := agree name
    rcases name with kind | kind <;> simp only [classified, kind, same]
  · rw [classified_of_not name, classified_of_not name]

/-- The first token is the same, told apart anew. -/
theorem next_classified (isFunction isFunction' : String → Bool) (position : Nat) (c : Char)
    (cs : List Char) :
    next isFunction' position c cs =
      (next isFunction position c cs).map fun (token, rest) =>
        (token.classified isFunction', rest) := by
  unfold next
  split
  · dsimp only
    split <;> rfl
  · split
    · simp only [Except.map]
      cases isFunction (String.ofList (c :: cs.takeWhile Name.isPart)) <;> rfl
    · split
      -- a symbol is no name
      · rename_i kind found
        obtain ⟨_, other, _⟩ : _ ∧ ¬ IsIdentifier _ ∧ WellFormed isFunction _ :=
          wellFormed_of_symbolKind? found position
        simp only [Except.map, classified_of_not other]
      · rfl

/-- **With other functions a text is scanned alike**, and its names are told apart anew. -/
theorem scanFrom_classified (isFunction isFunction' : String → Bool) (start : Nat)
    (cs : List Char) :
    scanFrom isFunction' start cs =
      (scanFrom isFunction start cs).map (List.map (classified isFunction')) := by
  induction cs using WellFounded.induction
    (measure fun cs : List Char => cs.length).wf generalizing start with
  | _ cs ih =>
    cases cs with
    | nil =>
      rw [scanFrom_nil, scanFrom_nil]
      rfl
    | cons c cs =>
      rw [scanFrom_cons, scanFrom_cons, next_classified isFunction]
      cases taken : next isFunction start c cs with
      | error d => rfl
      | ok piece =>
        obtain ⟨token, rest⟩ := piece
        have shorter : rest.length < (c :: cs).length := Nat.lt_succ_of_le (next_length taken)
        simp only [Except.map, classified_text, ih rest shorter]
        cases scanFrom isFunction (start + token.text.length) rest <;> rfl

/-- The second token is the first one, or it is a function where that is a name that is the same in
lower case. -/
structure Reclassified (name : String) (token token' : Token) : Prop where
  text : token'.text = token.text
  position : token'.position = token.position
  named : token.IsIdentifier → Text.lowerCase token.text = Text.lowerCase name →
    token'.kind = .function
  other : ¬ (token.IsIdentifier ∧ Text.lowerCase token.text = Text.lowerCase name) →
    token'.kind = token.kind

end Token

namespace Calculator

variable {σ : Type} {calculator other : Calculator σ} {text : String} {tokens : List Token}

/-- The tokens of an expression for another calculator are the same, told apart anew. -/
theorem tokens_classified (calculator other : Calculator σ) (text : String) :
    other.tokens text =
      (calculator.tokens text).map (List.map (Token.classified other.functions.has)) :=
  Token.scanFrom_classified calculator.functions.has other.functions.has 0 _

/-- The tokens of an expression are told apart as the calculator does. -/
theorem classified_of_tokens (scanned : calculator.tokens text = .ok tokens) {token : Token}
    (member : token ∈ tokens) : token.classified calculator.functions.has = token := by
  have again := tokens_classified calculator calculator text
  rw [scanned, Except.map, Except.ok.injEq] at again
  have same : tokens.map (Token.classified calculator.functions.has) = tokens.map id := by
    rw [← again, List.map_id]
  exact List.map_inj_left.1 same token member

/-- A calculator that tells the names of an expression apart alike gives the same tokens. -/
theorem tokens_congr (scanned : calculator.tokens text = .ok tokens)
    (agree : ∀ token ∈ tokens, token.IsIdentifier →
      other.functions.has token.text = calculator.functions.has token.text) :
    other.tokens text = .ok tokens := by
  have same : tokens.map (Token.classified other.functions.has) = tokens.map id := by
    refine List.map_inj_left.2 fun token member => ?_
    rw [Token.classified_congr (agree token member), classified_of_tokens scanned member, id]
  rw [tokens_classified calculator other, scanned, Except.map, same, List.map_id]

/-! ## One function more -/

variable {name : String} {routine : Routine σ}

/-- A registration makes functions of the tokens with its name, and changes no other token. -/
theorem reclassified_register (scanned : calculator.tokens text = .ok tokens) {token : Token}
    (member : token ∈ tokens) :
    token.Reclassified name
      (token.classified (calculator.register name routine).functions.has) where
  text := Token.classified_text
  position := Token.classified_position
  named identifier same := by
    have known : (calculator.register name routine).functions.has token.text = true :=
      (FunctionTable.has_register ..).2 (.inl same.symm)
    rw [Token.classified_kind identifier, known, if_pos rfl]
  other apart := by
    have agree (identifier : token.IsIdentifier) :
        (calculator.register name routine).functions.has token.text =
          calculator.functions.has token.text :=
      FunctionTable.has_register_of_ne fun same => apart ⟨identifier, same⟩
    rw [Token.classified_congr agree, classified_of_tokens scanned member]

/-- Lists of variables with the same members are the same. -/
theorem eq_of_mem_variablesOf {names : List String}
    (ascending : names.Pairwise fun low high => compare low high = .lt)
    (same : ∀ name, name ∈ variablesOf tokens ↔ name ∈ names) : variablesOf tokens = names :=
  List.Pairwise.eq_of_mem_iff ((variablesOf_ascending tokens).imp compare_lt_iff_lt.1)
    (ascending.imp compare_lt_iff_lt.1) same

/-- A registration takes the names that it makes functions of from the list of variables. -/
theorem variablesOf_register (scanned : calculator.tokens text = .ok tokens) :
    variablesOf (tokens.map (Token.classified (calculator.register name routine).functions.has)) =
      (variablesOf tokens).filter fun listed =>
        Text.lowerCase listed ≠ Text.lowerCase name := by
  refine eq_of_mem_variablesOf ((variablesOf_ascending tokens).filter _) fun listed => ?_
  simp only [mem_variablesOf, List.mem_filter, List.mem_map, decide_eq_true_eq]
  constructor
  · -- a name that is a variable's after the registration differs from the registered one
    rintro ⟨_, ⟨token, member, rfl⟩, kind, rfl⟩
    have reclassified := @reclassified_register _ _ _ _ name routine scanned token member
    have identifier : token.IsIdentifier := Token.classified_isIdentifier.1 (.inl kind)
    have apart : Text.lowerCase token.text ≠ Text.lowerCase name := by
      intro same
      rw [reclassified.named identifier same] at kind
      cases kind
    rw [Token.classified_text]
    refine ⟨⟨token, member, ?_, rfl⟩, apart⟩
    rw [← reclassified.other fun both => apart both.2, kind]
  · rintro ⟨⟨token, member, kind, rfl⟩, apart⟩
    have reclassified := @reclassified_register _ _ _ _ name routine scanned token member
    refine ⟨_, ⟨token, member, rfl⟩, ?_, Token.classified_text⟩
    rw [reclassified.other fun both => apart both.2, kind]

/-- **What a registration can change.** An expression cannot be split into tokens after it exactly
if it could not before, with the same diagnostic; otherwise its tokens have the same texts and
positions, those with the registered name, in whatever case, are functions, and the kinds of all
others are the same. The variables listed are those listed before without these names. The
calculation of an expression without the name does the same under all bindings. -/
theorem register_frame (calculator : Calculator σ) (name : String) (routine : Routine σ)
    (text : String) :
    (∀ d, (calculator.register name routine).tokens text = .error d ↔
      calculator.tokens text = .error d) ∧
    (∀ tokens, calculator.tokens text = .ok tokens →
      ∃ tokens', (calculator.register name routine).tokens text = .ok tokens' ∧
        List.Forall₂ (Token.Reclassified name) tokens tokens') ∧
    (calculator.register name routine).variableNames text =
      (calculator.variableNames text).map (List.filter fun listed =>
        Text.lowerCase listed ≠ Text.lowerCase name) ∧
    ((∀ tokens, calculator.tokens text = .ok tokens → ∀ token ∈ tokens, token.IsIdentifier →
        Text.lowerCase token.text ≠ Text.lowerCase name) →
      ∀ bindings, (calculator.register name routine).calculate text bindings =
        calculator.calculate text bindings) := by
  have rescanned := tokens_classified calculator (calculator.register name routine) text
  cases scanned : calculator.tokens text with
  | error d =>
    rw [scanned] at rescanned
    refine ⟨fun d' => ?_, nofun, ?_, fun _ bindings => ?_⟩
    · rw [rescanned]
      rfl
    · rw [variableNames, variableNames, scanned, rescanned]
      rfl
    · rw [calculate_of_error scanned, calculate_of_error rescanned]
  | ok tokens =>
    rw [scanned, Except.map] at rescanned
    refine ⟨fun d => by simp [rescanned], fun _ same => ?_, ?_, fun apart bindings => ?_⟩
    · cases same
      refine ⟨_, rescanned, List.forall₂_map_right_iff.2 (List.forall₂_same.2 ?_)⟩
      exact fun token member => reclassified_register scanned member
    · rw [variableNames, variableNames, scanned, rescanned, Except.map, Except.map, Except.map,
        variablesOf_register scanned]
    · replace apart := apart tokens rfl
      have same : (calculator.register name routine).tokens text = .ok tokens :=
        tokens_congr scanned fun token member identifier =>
          FunctionTable.has_register_of_ne (apart token member identifier)
      rw [calculate_of_tokens scanned, calculate_of_tokens same]
      refine evaluateWithin_congr maxLevels fun token member => ⟨fun _ => rfl, fun function => ?_⟩
      have other := apart token member (.inr function)
      exact (FunctionTable.find?_register ..).trans (if_neg other.symm)

end Calculator

end Reckoner
