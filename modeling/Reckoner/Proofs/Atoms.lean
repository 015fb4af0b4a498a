import Reckoner.Calculator
import Reckoner.Proofs.CorrectPrefix
import Reckoner.Proofs.ScanFaults

/-! # Numbers and variables are looked at in their order

The atoms of an expression are its numbers and its variables, each an operand by itself. However
deep an atom stands, evaluation looks at it after all atoms to its left and before all atoms to its
right (`Consults`): where there is a value, every atom has one, and a diagnostic about an atom is
about the first one without a value (`evaluateWithin_firstFailing`). So the names of the variables
of an expression, which are listed without reading it, are exactly those that calculating it asks
for (`calculate_variableNames`). -/

namespace Reckoner

open Evaluation

/-! ## Atoms -/

namespace Token

/-- Whether the token is a number or a variable. -/
def isAtom (token : Token) : Bool :=
  decide (token.kind = .number) || decide (token.kind = .variable)

/-- The numbers and the variables among tokens. -/
def atoms (tokens : List Token) : List Token := tokens.filter isAtom

/-- The atoms of tokens beside each other stand beside each other. -/
@[simp] theorem atoms_append (tokens more : List Token) :
    atoms (tokens ++ more) = atoms tokens ++ atoms more := List.filter_append ..

/-- A token that is no atom adds none. -/
theorem atoms_cons_of_not {token : Token} (other : token.isAtom = false) (tokens : List Token) :
    atoms (token :: tokens) = atoms tokens := by
  rw [atoms, List.filter_cons_of_neg (by simp [other])]
  rfl

/-- An operator is no atom. -/
theorem isAtom_of_op? {token : Token} {op : Op} (found : token.op? = some op) :
    token.isAtom = false := by
  rw [isAtom, kind_of_op? found]
  rfl

end Token

namespace Expr

mutual

/-- The numbers and the variables of a tree from left to right. -/
def atoms : Expr → List Token
  | .literal text position => [⟨.number, text, position⟩]
  | .variable name position => [⟨.variable, name, position⟩]
  | .call _ _ arguments => atomsEach arguments
  | .grouped _ inner => atoms inner
  | .signed _ _ operand => atoms operand
  | .binary _ _ left right => atoms left ++ atoms right

/-- The numbers and the variables of several trees. -/
def atomsEach : List Expr → List Token
  | [] => []
  | e :: es => atoms e ++ atomsEach es

end

/-- The atoms of trees beside each other stand beside each other. -/
theorem atomsEach_append (es fs : List Expr) :
    atomsEach (es ++ fs) = atomsEach es ++ atomsEach fs := by
  induction es with
  | nil => rfl
  | cons e es ih => rw [List.cons_append, atomsEach, atomsEach, ih, List.append_assoc]

/-- A single tree has its own atoms. -/
theorem atomsEach_singleton (e : Expr) : atomsEach [e] = e.atoms := by
  rw [atomsEach, atomsEach, List.append_nil]

end Expr

/-- The atoms of a chain are those of its parts. -/
theorem Chain.atoms_eq {level : Level} {tokens : List Token} {e : Expr}
    (parts : Chain level (fun tokens e => Token.atoms tokens = e.atoms) tokens e) :
    Token.atoms tokens = e.atoms := by
  induction parts with
  | first part => exact part
  | joined _ found _ part ih =>
    rw [Token.atoms_append, Token.atoms_cons_of_not (Token.isAtom_of_op? found), ih, part,
      Expr.atoms]

/-- The atoms of arguments are those of each of them. -/
theorem Separated.atoms_eq {tokens : List Token} {es : List Expr}
    (arguments : Separated (fun tokens e => Token.atoms tokens = e.atoms) tokens es) :
    Token.atoms tokens = Expr.atomsEach es := by
  induction arguments with
  | one argument => rw [argument, Expr.atomsEach_singleton]
  | more _ comma argument ih =>
    rw [Token.atoms_append, Token.atoms_cons_of_not (by simp [Token.isAtom, comma]), ih, argument,
      Expr.atomsEach_append, Expr.atomsEach_singleton]

/-- The atoms of a phrase are those of its tree. -/
theorem Derives.atoms_eq {phrase : Phrase} {tokens : List Token} {e : Expr}
    (derives : Derives phrase tokens e) : Token.atoms tokens = e.atoms := by
  induction derives using Derives.induct with
  | chain _ parts => exact (parts.mono fun _ _ part => part.2).atoms_eq
  | signed found _ ih =>
    obtain ⟨op, found, _⟩ := Option.bind_eq_some_iff.1 found
    rw [Token.atoms_cons_of_not (Token.isAtom_of_op? found), ih, Expr.atoms]
  | unsigned _ ih => exact ih
  | @number token kind =>
    obtain ⟨_, text, position⟩ := token
    cases kind
    rfl
  | @var token kind =>
    obtain ⟨_, text, position⟩ := token
    cases kind
    rfl
  | call _ ih => exact ih
  | grouped opens _ closes ih =>
    rw [Token.atoms_cons_of_not (by simp [Token.isAtom, opens]), Token.atoms_append,
      Token.atoms_cons_of_not (by simp [Token.isAtom, closes]), ih, Expr.atoms]
    exact List.append_nil _
  | withoutArguments function opens closes =>
    simp [Token.atoms, Token.isAtom, function, opens, closes, Expr.atoms, Expr.atomsEach]
  | withArguments function opens _ closes arguments =>
    rw [Token.atoms_cons_of_not (by simp [Token.isAtom, function]),
      Token.atoms_cons_of_not (by simp [Token.isAtom, opens]), Token.atoms_append,
      Token.atoms_cons_of_not (by simp [Token.isAtom, closes]), Expr.atoms,
      (arguments.mono fun _ _ argument => argument.2).atoms_eq]
    exact List.append_nil _

/-- Where reading breaks off, the atoms taken are those of the parts that are complete. -/
theorem Stops.atoms_eq {levels : Nat} {phrase : Phrase} {taken : List Token} {parts : List Expr}
    {wanted : Wanted} {token : Token} (stops : Stops levels phrase taken parts wanted token) :
    Token.atoms taken = Expr.atomsEach parts := by
  have arguments {tokens es} (separated : Separated (Derives .expression) tokens es) :=
    (separated.mono fun _ _ derives => derives.atoms_eq).atoms_eq
  induction stops with
  | lessDepth => rfl
  | operand => rfl
  | signed found _ ih =>
    obtain ⟨op, found, _⟩ := Option.bind_eq_some_iff.1 found
    rw [Token.atoms_cons_of_not (Token.isAtom_of_op? found), ih]
  | inGroup opens _ ih => rw [Token.atoms_cons_of_not (by simp [Token.isAtom, opens]), ih]
  | groupEnd opens derives =>
    rw [Token.atoms_cons_of_not (by simp [Token.isAtom, opens]), derives.atoms_eq,
      Expr.atomsEach_singleton]
  | callStart function =>
    rw [Token.atoms_cons_of_not (by simp [Token.isAtom, function])]
    rfl
  | inFirstArgument function opens _ _ ih =>
    rw [Token.atoms_cons_of_not (by simp [Token.isAtom, function]),
      Token.atoms_cons_of_not (by simp [Token.isAtom, opens]), ih]
  | inArgument function opens separated _ comma _ ih =>
    rw [Token.atoms_cons_of_not (by simp [Token.isAtom, function]),
      Token.atoms_cons_of_not (by simp [Token.isAtom, opens]), Token.atoms_append,
      Token.atoms_cons_of_not (by simp [Token.isAtom, comma]), arguments separated, ih,
      Expr.atomsEach_append]
  | callEnd function opens separated =>
    rw [Token.atoms_cons_of_not (by simp [Token.isAtom, function]),
      Token.atoms_cons_of_not (by simp [Token.isAtom, opens]), arguments separated]
  | inFirst _ ih => exact ih
  | inPart joined _ found _ _ ih =>
    rw [Token.atoms_append, Token.atoms_cons_of_not (Token.isAtom_of_op? found), ih,
      (joined.mono fun _ _ derives => derives.atoms_eq).atoms_eq, Expr.atomsEach]

/-- Where tokens are not read, the parts complete before the fault have all atoms before it. -/
theorem Expr.atoms_of_ofTokens_eq_error {levels : Nat} {tokens : List Token} {fault : Fault}
    (failed : Expr.ofTokens levels tokens = .error fault) :
    ∃ taken, tokens = taken ++ fault.rest ∧ Token.atoms taken = Expr.atomsEach fault.parts := by
  rw [Expr.ofTokens, bind_eq_error] at failed
  rcases failed with failed | ⟨⟨e, rest⟩, read, unfinished⟩
  · obtain ⟨taken, equal, stops⟩ := Rule.whole_stops levels tokens fault failed
    exact ⟨taken, equal, stops.atoms_eq⟩
  · obtain ⟨taken, equal, derives, _⟩ := (Rule.whole_reads levels).sound read
    simp only at unfinished
    split at unfinished
    · cases unfinished
    · cases unfinished
      exact ⟨taken, equal, by rw [derives.atoms_eq, Expr.atomsEach_singleton]⟩

/-! ## Looking at atoms -/

/-- What is found out about an atom: the float that a number spells or the value of a variable. -/
def Scope.atom {σ : Type} (scope : Scope σ) (token : Token) : Except Diagnostic Float :=
  match token.kind with
  | .number => Scope.literal token.text token.position
  | _ => scope.lookup token.text token.position

/-- A number is read. -/
theorem Scope.atom_number {σ : Type} (scope : Scope σ) {token : Token}
    (kind : token.kind = .number) :
    scope.atom token = Scope.literal token.text token.position := by
  rw [atom, kind]

/-- A variable is looked up. -/
theorem Scope.atom_variable {σ : Type} (scope : Scope σ) {token : Token}
    (kind : token.kind = .variable) :
    scope.atom token = scope.lookup token.text token.position := by
  rw [atom, kind]

/-- The diagnostic is about a number or a variable. -/
def Diagnostic.IsAboutAtom (d : Diagnostic) : Prop :=
  d.problem = .malformedNumber ∨ ∃ name, d.problem = .unknownVariable name

section Consulting

variable {σ α β : Type} (scope : Scope σ)

/-- The diagnostic is that of the first atom without a value. -/
def FirstFailing (tokens : List Token) (d : Diagnostic) : Prop :=
  ∃ before token after, tokens = before ++ token :: after ∧ scope.atom token = .error d ∧
    ∀ earlier ∈ before, ∃ v, scope.atom earlier = .ok v

/-- The computation looks at the atoms one by one and goes on while they have values. -/
structure Consults (x : Evaluation σ α) (tokens : List Token) : Prop where
  valued : ∀ {memory a memory'}, x.run.run memory = (.ok a, memory') →
    ∀ token ∈ tokens, ∃ v, scope.atom token = .ok v
  failed : ∀ {d}, Fails x d → d.IsAboutAtom → FirstFailing scope tokens d

variable {scope} {x : Evaluation σ α} {f : α → Evaluation σ β} {tokens more : List Token}
  {d : Diagnostic}

/-- What is about the first atoms is about all of them. -/
theorem FirstFailing.append (first : FirstFailing scope tokens d) (more : List Token) :
    FirstFailing scope (tokens ++ more) d := by
  obtain ⟨before, token, after, rfl, failed, valued⟩ := first
  exact ⟨before, token, after ++ more, by simp, failed, valued⟩

/-- The first failing atom is a token, and the atoms before it have values. -/
theorem FirstFailing.exists_token (first : FirstFailing scope (Token.atoms tokens) d) :
    ∃ before token after, tokens = before ++ token :: after ∧ token.isAtom = true ∧
      scope.atom token = .error d ∧
      ∀ earlier ∈ before, earlier.isAtom = true → ∃ v, scope.atom earlier = .ok v := by
  obtain ⟨before, token, after, split, failed, valued⟩ := first
  obtain ⟨left, right, rfl, rfl, atoms⟩ := List.filter_eq_append_iff.1 split
  obtain ⟨between, after', rfl, none, atom, rfl⟩ := List.filter_eq_cons_iff.1 atoms
  refine ⟨left ++ between, token, after', by simp, atom, failed, fun earlier member isAtom => ?_⟩
  rcases List.mem_append.1 member with member | member
  · exact valued earlier (List.mem_filter.2 ⟨member, isAtom⟩)
  · exact absurd isAtom (none earlier member)

namespace Consults

/-- A computation without atoms does not fail because of one. -/
theorem of_not_fails (never : ∀ d, Fails x d → ¬ d.IsAboutAtom) : Consults scope x [] :=
  ⟨fun _ _ member => absurd member List.not_mem_nil,
    fun fails about => absurd about (never _ fails)⟩

/-- A value looks at nothing. -/
theorem pure (a : α) : Consults scope (Pure.pure a) [] :=
  of_not_fails fun _ fails => absurd fails (not_fails_pure a)

/-- Two steps look at the atoms of the first and then at those of the second. -/
theorem bind (first : Consults scope x tokens) (second : ∀ a, Consults scope (f a) more) :
    Consults scope (x >>= f) (tokens ++ more) where
  valued run := by
    obtain ⟨a, between, ran, run⟩ := run_bind_eq_ok.1 run
    rw [List.forall_mem_append]
    exact ⟨first.valued ran, (second a).valued run⟩
  failed := by
    rintro d ⟨memory, memory', run⟩ about
    rcases run_bind_eq_error.1 run with run | ⟨a, between, ran, run⟩
    · exact (first.failed ⟨memory, memory', run⟩ about).append more
    · -- the second step fails only after all atoms of the first have had their values
      obtain ⟨before, token, after, rfl, failed, valued⟩ :=
        (second a).failed ⟨between, memory', run⟩ about
      exact ⟨tokens ++ before, token, after, by simp, failed,
        List.forall_mem_append.2 ⟨first.valued ran, valued⟩⟩

/-- What is done with a value in the end looks at nothing. -/
theorem bind_pure {g : α → β} (first : Consults scope x tokens) :
    Consults scope (x >>= fun a => Pure.pure (g a)) tokens := by
  have both := first.bind fun a => pure (g a)
  rwa [List.append_nil] at both

/-- Looking at an atom is looking at that atom. -/
theorem atom (token : Token) : Consults scope (ofExcept (scope.atom token)) [token] where
  valued run := by
    cases found : scope.atom token with
    | error d =>
      rw [found] at run
      cases run
    | ok v => exact List.forall_mem_singleton.2 ⟨v, found⟩
  failed fails _ := ⟨[], token, [], rfl, fails.of_ofExcept, by simp⟩

/-- An operator looks at no atoms. -/
theorem apply (op : Op) (position : Nat) (left right : Float) :
    Consults scope (ofExcept (op.apply position left right)) [] := by
  refine of_not_fails fun d fails => ?_
  obtain ⟨_, rfl⟩ := Op.apply_eq_error fails.of_ofExcept
  simp [Diagnostic.IsAboutAtom]

/-- A call looks at no atoms once its arguments have their values. -/
theorem call (name : String) (position : Nat) (values : List Float) :
    Consults scope (scope.call name position values) [] := by
  refine of_not_fails fun d fails => ?_
  obtain ⟨cause, rfl⟩ := Scope.fails_call fails
  simp [Diagnostic.IsAboutAtom]

end Consults

/-- Trees that each look at their atoms do so one after the other. -/
theorem Expr.values_consults {es : List Expr}
    (each : ∀ e ∈ es, Consults scope (e.value scope) e.atoms) :
    Consults scope (Expr.values scope es) (Expr.atomsEach es) := by
  induction es with
  | nil => exact .pure []
  | cons e es ih =>
    rw [List.forall_mem_cons] at each
    rw [Expr.values, Expr.atomsEach]
    exact each.1.bind fun v => (ih each.2).bind_pure

/-- The value of a tree looks at the atoms of the tree. -/
theorem Expr.value_consults (e : Expr) : Consults scope (e.value scope) e.atoms := by
  induction e using Expr.induct with
  | literal text position => exact .atom ⟨.number, text, position⟩
  | var name position => exact .atom ⟨.variable, name, position⟩
  | call name position arguments ih =>
    have both := (Expr.values_consults ih).bind (Consults.call name position)
    rw [List.append_nil] at both
    rwa [Expr.value, Expr.atoms]
  | grouped position inner ih => rwa [Expr.value, Expr.atoms]
  | signed sign position operand ih =>
    rw [Expr.value, Expr.atoms]
    exact ih.bind_pure
  | binary op position left right ihLeft ihRight =>
    rw [Expr.value, Expr.atoms]
    refine ihLeft.bind fun x => ?_
    have both := ihRight.bind fun y => Consults.apply op position x y
    rwa [List.append_nil] at both

end Consulting

/-! ## Token sequences -/

/-- The diagnostic of a fault is about no atom. -/
theorem Fault.not_isAboutAtom (fault : Fault) : ¬ fault.diagnostic.IsAboutAtom := by
  cases wanted : fault.wanted <;> simp [Diagnostic.IsAboutAtom, Fault.diagnostic, wanted]

variable {σ : Type} {scope : Scope σ} {levels : Nat} {tokens : List Token}

/-- Where tokens have a value, so have all their atoms. -/
theorem evaluateWithin_atoms {memory memory' : σ} {v : Float}
    (run : (evaluateWithin levels scope tokens).run.run memory = (.ok v, memory')) :
    ∀ token ∈ Token.atoms (Token.beforeEnd tokens), ∃ v, scope.atom token = .ok v := by
  obtain ⟨e, derives, _, value⟩ := (evaluateWithin_eq_ok scope).1 run
  rw [derives.atoms_eq]
  exact e.value_consults.valued value

/-- Where evaluating tokens ends with a diagnostic, it is that of the fault at which reading stops,
or that of the trees that are complete among tokens which begin an expression. -/
theorem evaluateWithin_eq_error {memory memory' : σ} {d : Diagnostic}
    (run : (evaluateWithin levels scope tokens).run.run memory = (.error d, memory')) :
    (∃ fault, Expr.ofTokens levels tokens = .error fault ∧ d = fault.diagnostic) ∨
    ∃ taken rest trees, tokens = taken ++ rest ∧ (∀ token ∈ taken, token.kind ≠ .endOfInput) ∧
      Viable taken ∧ Token.atoms taken = Expr.atomsEach trees ∧
      d.Within taken (Token.current rest) ∧
      (Expr.values scope trees).run.run memory = (.error d, memory') := by
  cases read : Expr.ofTokens levels tokens with
  | ok e =>
    have value : evaluateWithin levels scope tokens = e.value scope := by
      rw [evaluateWithin, read]
    rw [value] at run
    have derives := (Expr.ofTokens_eq_ok.1 read).1
    have whole : Derives .expression (Token.beforeEnd tokens ++ []) e := by rwa [List.append_nil]
    have ends : Phrase.EndsBefore .expression (Token.current (Token.fromEnd tokens)) :=
      Phrase.endsBefore_of_kind (by simp [Token.current_fromEnd])
    refine .inr ⟨Token.beforeEnd tokens, Token.fromEnd tokens, [e],
      (Token.beforeEnd_append_fromEnd tokens).symm, derives.kind_ne_endOfInput, whole.viable, ?_,
      derives.located _ ends d ⟨memory, memory', run⟩, ?_⟩
    · rw [derives.atoms_eq, Expr.atomsEach_singleton]
    · rw [Expr.values]
      exact run_bind_eq_error.2 (.inl run)
  | error fault =>
    have raised : evaluateWithin levels scope tokens = fault.raise scope := by
      rw [evaluateWithin, read]
      rfl
    rw [raised] at run
    obtain ⟨d', between, run', parts | rfl⟩ := @Fault.run_raise σ Float scope fault memory
    · rw [run'] at run
      cases run
      obtain ⟨taken, equal, inside, viable, _, located⟩ := Expr.ofTokens_eq_error read
      obtain ⟨taken', equal', same⟩ := Expr.atoms_of_ofTokens_eq_error read
      obtain rfl := List.append_cancel_right (equal.symm.trans equal')
      exact .inr ⟨taken, fault.rest, fault.parts, equal, inside, viable, same,
        located scope d ⟨memory, memory', parts⟩, parts⟩
    · rw [run'] at run
      cases run
      exact .inl ⟨fault, rfl, rfl⟩

/-- A diagnostic about an atom is that of the first atom without a value, which stands among tokens
that begin an expression. -/
theorem evaluateWithin_firstFailing {d : Diagnostic}
    (fails : Fails (evaluateWithin levels scope tokens) d) (about : d.IsAboutAtom) :
    ∃ taken rest, tokens = taken ++ rest ∧ (∀ token ∈ taken, token.kind ≠ .endOfInput) ∧
      Viable taken ∧ FirstFailing scope (Token.atoms taken) d := by
  obtain ⟨memory, memory', run⟩ := fails
  rcases evaluateWithin_eq_error run with
    ⟨fault, _, rfl⟩ | ⟨taken, rest, trees, equal, inside, viable, atoms, _, failed⟩
  · exact absurd about fault.not_isAboutAtom
  · refine ⟨taken, rest, equal, inside, viable, ?_⟩
    rw [atoms]
    exact (Expr.values_consults fun e _ => e.value_consults).failed
      ⟨memory, memory', failed⟩ about

/-! ## The variables of an expression -/

/-- A variable has a value exactly if its name is bound. -/
theorem Scope.exists_atom_iff {token : Token} (kind : token.kind = .variable) :
    (∃ v, scope.atom token = .ok v) ↔ token.text ∈ scope.bindings := by
  rw [scope.atom_variable kind, Scope.lookup, Std.TreeMap.mem_iff_isSome_getElem?]
  cases scope.bindings[token.text]? <;> simp

/-- Where tokens have a value, all their variables are bound. -/
theorem evaluateWithin_bound {memory memory' : σ} {v : Float}
    (run : (evaluateWithin levels scope tokens).run.run memory = (.ok v, memory'))
    {token : Token} (member : token ∈ Token.beforeEnd tokens) (kind : token.kind = .variable) :
    token.text ∈ scope.bindings := by
  have atom : token ∈ Token.atoms (Token.beforeEnd tokens) :=
    List.mem_filter.2 ⟨member, by simp [Token.isAtom, kind]⟩
  exact (Scope.exists_atom_iff kind).1 (evaluateWithin_atoms run token atom)

/-- What is unknown is a variable whose name is not bound. -/
theorem Scope.atom_eq_unknownVariable {token : Token} {name : String} {position : Nat}
    (atom : token.isAtom = true)
    (failed : scope.atom token = .error ⟨.unknownVariable name, position⟩) :
    token.kind = .variable ∧ token.text = name ∧ token.position = position ∧
      name ∉ scope.bindings := by
  rcases Bool.or_eq_true_iff.1 atom with kind | kind
  · rw [scope.atom_number (of_decide_eq_true kind), Scope.literal] at failed
    split at failed <;> cases failed
  · have kind := of_decide_eq_true kind
    have unbound : ¬ ∃ v, scope.atom token = .ok v := by
      rintro ⟨v, found⟩
      rw [failed] at found
      cases found
    rw [Scope.exists_atom_iff kind] at unbound
    rw [scope.atom_variable kind, Scope.lookup] at failed
    split at failed
    · cases failed
    · cases failed
      exact ⟨kind, rfl, rfl, unbound⟩

/-- What is malformed is a number that spells no float. -/
theorem Scope.atom_eq_malformedNumber {token : Token} {position : Nat} (atom : token.isAtom = true)
    (failed : scope.atom token = .error ⟨.malformedNumber, position⟩) :
    token.kind = .number ∧ token.position = position ∧ Decimal.readFloat? token.text = none := by
  rcases Bool.or_eq_true_iff.1 atom with kind | kind
  · have kind := of_decide_eq_true kind
    rw [scope.atom_number kind, Scope.literal] at failed
    split at failed
    · cases failed
    · rename_i none
      cases failed
      exact ⟨kind, rfl, none⟩
  · rw [scope.atom_variable (of_decide_eq_true kind), Scope.lookup] at failed
    split at failed <;> cases failed

/-- The variable at the position is the first one among the tokens whose name is not bound. -/
def Token.IsFirstUnbound (bindings : Bindings) (tokens : List Token) (name : String)
    (position : Nat) : Prop :=
  ∃ before token after, tokens = before ++ token :: after ∧ token.kind = .variable ∧
    token.text = name ∧ token.position = position ∧ name ∉ bindings ∧
    ∀ earlier ∈ before, earlier.kind = .variable → earlier.text ∈ bindings

namespace Calculator

variable {calculator : Calculator σ} {text : String} {bindings : Bindings}

/-- Calculating an expression is evaluating its tokens. -/
theorem calculate_of_tokens (scanned : calculator.tokens text = .ok tokens) :
    calculator.calculate text bindings =
      evaluateWithin maxLevels ⟨calculator.functions, bindings⟩ tokens := by
  rw [calculate, scanned]
  rfl

/-- Calculating what is not scanned ends with the fault of scanning. -/
theorem calculate_of_error {d : Diagnostic} (failed : calculator.tokens text = .error d) :
    calculator.calculate text bindings = throw d := by
  rw [calculate, failed]
  rfl

/-- The tokens of an expression are those of its decomposition and the end of the input. -/
theorem tokens_eq_ok (scanned : calculator.tokens text = .ok tokens) :
    ∃ inner, tokens = inner ++ [Token.finish (Text.withoutBlanks text).length] ∧
      Token.IsDecomposition calculator.functions.has 0 (Text.withoutBlanks text) inner := by
  have whole := Token.scanFrom_eq_ok_iff.1 scanned
  rwa [Nat.zero_add] at whole

/-- Every token of an expression other than its end has the form of its kind. -/
theorem wellFormed_of_tokens (scanned : calculator.tokens text = .ok tokens) {token : Token}
    (member : token ∈ tokens) (inside : token.kind ≠ .endOfInput) :
    token.WellFormed calculator.functions.has := by
  obtain ⟨inner, rfl, decomposition⟩ := tokens_eq_ok scanned
  rcases List.mem_append.1 member with member | last
  · exact decomposition.formed token member
  · rw [List.mem_singleton.1 last] at inside
    exact absurd rfl inside

/-- The variables of an expression are listed unless it cannot be split into tokens. -/
theorem tokens_of_variableNames_error {d : Diagnostic}
    (failed : calculator.variableNames text = .error d) : calculator.tokens text = .error d := by
  rw [variableNames] at failed
  cases scanned : calculator.tokens text with
  | error cause =>
    rw [scanned] at failed
    cases failed
    rfl
  | ok tokens =>
    rw [scanned] at failed
    cases failed

/-- All tokens of an expression come before the end of the input. -/
theorem beforeEnd_tokens {inner : List Token} {cs : List Char} {last : Nat}
    (decomposition : Token.IsDecomposition calculator.functions.has 0 cs inner) :
    Token.beforeEnd (inner ++ [Token.finish last]) = inner := by
  refine Token.beforeEnd_append (fun token member ends => ?_) rfl
  have formed := decomposition.formed token member
  rw [Token.WellFormed, ends] at formed
  exact formed

/-- A token of an expression comes before the end of the input, unless it is the end. -/
theorem mem_beforeEnd_of_tokens (scanned : calculator.tokens text = .ok tokens) {token : Token}
    (member : token ∈ tokens) (other : token.kind ≠ .endOfInput) :
    token ∈ Token.beforeEnd tokens := by
  obtain ⟨inner, rfl, decomposition⟩ := tokens_eq_ok scanned
  rw [beforeEnd_tokens decomposition]
  rcases List.mem_append.1 member with inside | last
  · exact inside
  · rw [List.mem_singleton.1 last] at other
    exact absurd rfl other

/-- An expression with a value has all its variables bound. -/
theorem names_bound_of_value {memory memory' : σ} {v : Float}
    (run : (calculator.calculate text bindings).run.run memory = (.ok v, memory')) :
    ∃ names, calculator.variableNames text = .ok names ∧ ∀ name ∈ names, name ∈ bindings := by
  cases scanned : calculator.tokens text with
  | error d =>
    rw [calculate_of_error scanned] at run
    cases run
  | ok tokens =>
    rw [calculate_of_tokens scanned] at run
    refine ⟨_, by rw [variableNames, scanned]; rfl, fun name listed => ?_⟩
    obtain ⟨token, member, kind, rfl⟩ := mem_variablesOf.1 listed
    exact evaluateWithin_bound run (mem_beforeEnd_of_tokens scanned member (by simp [kind])) kind

/-- The unknown variable that is reported is listed, and it is the first one that is not bound. -/
theorem isFirstUnbound_of_unknownVariable {memory memory' : σ} {name : String} {position : Nat}
    (run : (calculator.calculate text bindings).run.run memory =
      (.error ⟨.unknownVariable name, position⟩, memory')) :
    ∃ tokens names, calculator.tokens text = .ok tokens ∧
      calculator.variableNames text = .ok names ∧ name ∈ names ∧
      Token.IsFirstUnbound bindings tokens name position := by
  cases scanned : calculator.tokens text with
  | error d =>
    rw [calculate_of_error scanned] at run
    cases run
    rcases Token.scan_eq_error scanned with ⟨_, problem, _⟩ | ⟨problem, _⟩ <;> cases problem
  | ok tokens =>
    rw [calculate_of_tokens scanned] at run
    obtain ⟨taken, rest, rfl, _, _, first⟩ :=
      evaluateWithin_firstFailing ⟨memory, memory', run⟩ (.inr ⟨name, rfl⟩)
    obtain ⟨before, token, after, rfl, atom, failed, valued⟩ := first.exists_token
    obtain ⟨kind, rfl, rfl, unbound⟩ := Scope.atom_eq_unknownVariable atom failed
    refine ⟨_, _, rfl, by rw [variableNames, scanned]; rfl, ?_, before, token, after ++ rest,
      by simp, kind, rfl, rfl, unbound, fun earlier member kind => ?_⟩
    · exact mem_variablesOf.2 ⟨token, by simp, kind, rfl⟩
    · exact (Scope.exists_atom_iff kind).1 (valued earlier member (by simp [Token.isAtom, kind]))

/-- **The variables listed are exactly those that calculating asks for.** An expression with a value
has all its variables bound. The unknown variable that is reported is listed and not bound, and it
is the first one of the expression that is not bound. So with all variables bound that are listed,
none is reported. -/
theorem calculate_variableNames (calculator : Calculator σ) (text : String) (bindings : Bindings)
    (memory : σ) :
    (∀ v memory', (calculator.calculate text bindings).run.run memory = (.ok v, memory') →
      ∃ names, calculator.variableNames text = .ok names ∧ ∀ name ∈ names, name ∈ bindings) ∧
    (∀ name position memory', (calculator.calculate text bindings).run.run memory =
        (.error ⟨.unknownVariable name, position⟩, memory') →
      ∃ tokens names, calculator.tokens text = .ok tokens ∧
        calculator.variableNames text = .ok names ∧ name ∈ names ∧
        Token.IsFirstUnbound bindings tokens name position) ∧
    ((∀ names, calculator.variableNames text = .ok names → ∀ name ∈ names, name ∈ bindings) →
      ∀ name position memory', (calculator.calculate text bindings).run.run memory ≠
        (.error ⟨.unknownVariable name, position⟩, memory')) := by
  refine ⟨fun v memory' run => names_bound_of_value run,
    fun name position memory' run => isFirstUnbound_of_unknownVariable run,
    fun bound name position memory' run => ?_⟩
  obtain ⟨tokens, names, _, listed, member, _, _, _, _, _, _, _, unbound, _⟩ :=
    isFirstUnbound_of_unknownVariable run
  exact unbound (bound names listed name member)

end Calculator

end Reckoner
