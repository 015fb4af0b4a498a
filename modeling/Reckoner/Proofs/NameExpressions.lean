import Reckoner.Assignment
import Reckoner.Proofs.Atoms
import Reckoner.Proofs.Printing

/-! # Names as expressions

A text is a valid name exactly when it is scanned as a single token that is a name, and itself its
text (`Calculator.valid_iff_tokens`): the check of a whole text and the scanning of characters agree
on every text. As an expression a name is a variable, unless a function has it; then it is a call
that lacks its parenthesis. So a variable that an assignment binds can be used exactly where no
function shadows it (`Calculator.usable_unless_shadowed`). -/

namespace Reckoner

/-- The text of a name is valid, whatever the name stands for. -/
theorem Token.WellFormed.valid_of_isIdentifier {isFunction : String → Bool} {token : Token}
    (formed : token.WellFormed isFunction) (identifier : token.IsIdentifier) :
    Name.valid token.text = true := by
  rcases identifier with kind | kind
  · rw [WellFormed, kind] at formed
    exact formed.1
  · rw [WellFormed, kind] at formed
    exact formed.1

namespace Calculator

variable {σ : Type} {calculator : Calculator σ} {name text : String} {tokens : List Token}
  {token : Token}

/-! ## Names among tokens -/

/-- A name among the tokens is valid. -/
theorem valid_of_tokens (scanned : calculator.tokens text = .ok tokens) (member : token ∈ tokens)
    (identifier : token.IsIdentifier) : Name.valid token.text = true := by
  have inside : token.kind ≠ .endOfInput := by
    rcases identifier with kind | kind <;> simp [kind]
  exact (wellFormed_of_tokens scanned member inside).valid_of_isIdentifier identifier

/-- What is listed as a variable is a valid name that no function has. -/
theorem valid_of_mem_variableNames {names : List String}
    (listed : calculator.variableNames text = .ok names) (member : name ∈ names) :
    Name.valid name = true ∧ calculator.functions.has name = false := by
  rw [variableNames] at listed
  cases scanned : calculator.tokens text with
  | error d =>
    rw [scanned] at listed
    cases listed
  | ok tokens =>
    rw [scanned] at listed
    cases listed
    obtain ⟨token, inside, kind, rfl⟩ := mem_variablesOf.1 member
    have formed := wellFormed_of_tokens scanned inside (by simp [kind])
    rw [Token.WellFormed, kind] at formed
    exact formed

/-! ## Names alone -/

/-- The token that a name is by itself. -/
def nameToken (calculator : Calculator σ) (name : String) : Token :=
  ⟨if calculator.functions.has name then .function else .variable, name, 0⟩

/-- The token of a name has the form of its kind, if the name is valid. -/
theorem nameToken_wellFormed (calculator : Calculator σ) (named : Name.valid name = true) :
    (calculator.nameToken name).WellFormed calculator.functions.has := by
  unfold nameToken
  cases function : calculator.functions.has name with
  | true => exact ⟨named, function⟩
  | false => exact ⟨named, function⟩

/-- A text that has a decomposition has no blanks, and the tokens of the decomposition are its
tokens. -/
theorem tokens_of_isDecomposition
    (decomposition : Token.IsDecomposition calculator.functions.has 0 text.toList tokens) :
    calculator.tokens text = .ok (tokens ++ [.finish text.length]) := by
  have plain : Text.withoutBlanks text = text.toList := by
    refine List.filter_eq_self.2 fun c member => ?_
    have kept : Text.isBlank c = false := decomposition.isBlank_eq_false c member
    rw [kept]
    rfl
  have scanned := Token.scanFrom_eq_ok_iff.2 ⟨tokens, rfl, decomposition⟩
  rw [Nat.zero_add, String.length_toList] at scanned
  rw [Calculator.tokens, Token.scan, plain]
  exact scanned

/-- A valid name is scanned as one token. -/
theorem tokens_of_valid (calculator : Calculator σ) (named : Name.valid name = true) :
    calculator.tokens name = .ok [calculator.nameToken name, .finish name.length] :=
  tokens_of_isDecomposition
    (Token.IsDecomposition.singleton (calculator.nameToken_wellFormed named))

/-- **A text is a valid name exactly when it is scanned as one token that is a name.** The token has
the whole text, stands at the beginning, and the end of the input comes right after it. -/
theorem valid_iff_tokens (calculator : Calculator σ) (name : String) :
    Name.valid name = true ↔
      ∃ kind, (kind = .variable ∨ kind = .function) ∧
        calculator.tokens name = .ok [⟨kind, name, 0⟩, .finish name.length] := by
  constructor
  · intro named
    refine ⟨_, ?_, calculator.tokens_of_valid named⟩
    cases calculator.functions.has name with
    | true => exact .inr rfl
    | false => exact .inl rfl
  · rintro ⟨kind, identifier, scanned⟩
    exact valid_of_tokens scanned (List.mem_cons_self ..) identifier

/-! ## The value of a name -/

variable {bindings : Bindings}

/-- An expression that is an operand has its value. -/
theorem calculate_of_operand {e : Expr} {length : Nat}
    (scanned : calculator.tokens text = .ok (tokens ++ [.finish length]))
    (operand : Derives .operand tokens e) (shallow : e.nesting ≤ maxLevels) :
    calculator.calculate text bindings = e.value ⟨calculator.functions, bindings⟩ := by
  have whole : Token.beforeEnd (tokens ++ [.finish length]) = tokens :=
    Token.beforeEnd_append operand.kind_ne_endOfInput rfl
  have derives := operand.of_operand .whole
  rw [← whole] at derives
  rw [calculate_of_tokens scanned, evaluateWithin_eq_valueWithin _ derives,
    Expr.valueWithin_eq_value _ shallow]

/-- A name that no function has is calculated by looking its variable up. -/
theorem calculate_of_variable (named : Name.valid name = true)
    (free : calculator.functions.has name = false) :
    calculator.calculate name bindings =
      ofExcept (Scope.lookup ⟨calculator.functions, bindings⟩ name 0) := by
  have token : calculator.nameToken name = ⟨.variable, name, 0⟩ := by rw [nameToken, free]; rfl
  have scanned := calculator.tokens_of_valid named
  rw [token] at scanned
  have operand : Derives .operand [⟨.variable, name, 0⟩] (.variable name 0) := .unsigned (.var rfl)
  have shallow : (Expr.variable name 0).nesting ≤ maxLevels := by
    rw [Expr.nesting]
    decide
  rw [calculate_of_operand scanned operand shallow, Expr.value]

/-- A name that a function has lacks the parenthesis of a call. -/
theorem calculate_of_function (named : Name.valid name = true)
    (taken : calculator.functions.has name = true) :
    calculator.calculate name bindings = throw ⟨.unexpected .endOfInput, name.length⟩ := by
  have token : calculator.nameToken name = ⟨.function, name, 0⟩ := by rw [nameToken, taken]; rfl
  have scanned := calculator.tokens_of_valid named
  rw [token] at scanned
  -- reading stops where the parenthesis is missing, before anything is evaluated
  rw [calculate_of_tokens scanned]
  rfl

/-- A bound name has its value, unless a function has the name. -/
theorem calculate_name (named : Name.valid name = true) {value : Float}
    (bound : bindings[name]? = some value) :
    calculator.calculate name bindings =
      if calculator.functions.has name then throw ⟨.unexpected .endOfInput, name.length⟩
      else pure value := by
  cases function : calculator.functions.has name with
  | true => exact calculate_of_function named function
  | false =>
    rw [calculate_of_variable named function, Scope.lookup]
    simp only [bound]
    rfl

end Calculator

/-! ## Assignments -/

/-- An assignment is read only for a valid name. -/
theorem Assignment.valid_of_read {text : String} {assignment : Assignment}
    (read : Assignment.read text = .ok assignment) : Name.valid assignment.name = true := by
  unfold Assignment.read at read
  split at read
  · cases read
  · rw [ofParts] at read
    split at read
    · rename_i named
      split at read
      · cases read
        rw [Name.valid, String.toList_ofList]
        exact named
      · cases read
    · cases read

/-- **What is bound can be used unless a function shadows it.** The texts that are valid names are
those that are scanned as one token with the whole text. An assignment binds such a name, and where
it is bound, the name as an expression has the value that the assignment gives; where a function has
the name, what is wrong is that the input ends behind it. The names that are listed as variables of
some expression are the valid ones that no function has. -/
theorem Calculator.usable_unless_shadowed {σ : Type} (calculator : Calculator σ) :
    (∀ name, Name.valid name = true ↔
      ∃ kind, (kind = .variable ∨ kind = .function) ∧
        calculator.tokens name = .ok [⟨kind, name, 0⟩, .finish name.length]) ∧
    (∀ text assignment, Assignment.read text = .ok assignment →
      Name.valid assignment.name = true ∧
      ∀ bindings : Bindings, bindings[assignment.name]? = some assignment.value →
        calculator.calculate assignment.name bindings =
          if calculator.functions.has assignment.name then
            throw ⟨.unexpected .endOfInput, assignment.name.length⟩
          else pure assignment.value) ∧
    ∀ name, (∃ text names, calculator.variableNames text = .ok names ∧ name ∈ names) ↔
      Name.valid name = true ∧ calculator.functions.has name = false := by
  refine ⟨calculator.valid_iff_tokens, fun text assignment read => ?_, fun name => ?_⟩
  · have named := Assignment.valid_of_read read
    exact ⟨named, fun bindings bound => calculate_name named bound⟩
  · constructor
    · rintro ⟨text, names, listed, member⟩
      exact valid_of_mem_variableNames listed member
    · rintro ⟨named, free⟩
      have scanned := calculator.tokens_of_valid named
      refine ⟨name, _, by rw [variableNames, scanned]; rfl, mem_variablesOf.2 ?_⟩
      exact ⟨_, List.mem_cons_self .., by simp [nameToken, free], rfl⟩

/-- An assignment to `Abs` is read, but the name stands for a function; `x` has its value. -/
theorem Calculator.usable_unless_shadowed_abs :
    let calculator : Calculator Unit := ⟨FunctionTable.empty.register "ABS" fun _ => pure 0⟩
    (∃ value, Assignment.read " Abs = 7 " = .ok ⟨"Abs", value⟩ ∧
      calculator.calculate "Abs" (Std.TreeMap.empty.insert "Abs" value) =
        throw ⟨.unexpected .endOfInput, 3⟩) ∧
    ∃ value, Assignment.read "x=7" = .ok ⟨"x", value⟩ ∧
      calculator.calculate "x" (Std.TreeMap.empty.insert "x" value) = pure value := by
  intro calculator
  obtain ⟨_, usable, _⟩ := calculator.usable_unless_shadowed
  have bound (name : String) (value : Float) :
      (Std.TreeMap.empty.insert name value : Bindings)[name]? = some value :=
    Std.TreeMap.getElem?_insert_self
  obtain ⟨value, read⟩ : ∃ value, Assignment.read " Abs = 7 " = .ok ⟨"Abs", value⟩ := by
    constructor
    with_unfolding_all rfl
  obtain ⟨value', read'⟩ : ∃ value, Assignment.read "x=7" = .ok ⟨"x", value⟩ := by
    constructor
    with_unfolding_all rfl
  have taken : calculator.functions.has "Abs" = true := by with_unfolding_all rfl
  have free : calculator.functions.has "x" = false := by with_unfolding_all rfl
  refine ⟨⟨value, read, ?_⟩, ⟨value', read', ?_⟩⟩
  · have shadowed := (usable _ _ read).2 _ (bound "Abs" value)
    have length : "Abs".length = 3 := by with_unfolding_all rfl
    rw [taken] at shadowed
    rw [← length]
    exact shadowed
  · have usable := (usable _ _ read').2 _ (bound "x" value')
    rw [free] at usable
    exact usable

end Reckoner
