import Reckoner.Proofs.Rebinding
import Reckoner.Proofs.Registrations

/-! # The spelling of function names

Functions are known by their names in lower case, so the names of functions in an expression may be
spelled in any case, while a variable in another case is another variable. `Respells` relates two
texts that differ in the spelling of function names only. They are split into tokens at the same
places and in the same kinds (`scanFrom_of_respells`), and their calculations go on in lockstep:
a failed call alone tells the spelling, by the name that its diagnostic carries
(`Calculator.calculate_of_respells`). -/

namespace Reckoner

namespace Token

/-! ## Tokens in another spelling -/

/-- The second token is the first one or, if that is a function, the same function in another
spelling of the same length. -/
structure Respelled (token token' : Token) : Prop where
  kind : token'.kind = token.kind
  position : token'.position = token.position
  text : token.kind ≠ .function → token'.text = token.text
  named : token.kind = .function → Name.isName token'.text.toList = true
  lowerCase : Text.lowerCase token'.text = Text.lowerCase token.text
  length : token'.text.length = token.text.length

/-- Whether a name is a function's does not depend on its case. -/
def CaseBlind (isFunction : String → Bool) : Prop :=
  ∀ {name name' : String}, Text.lowerCase name' = Text.lowerCase name →
    isFunction name' = isFunction name

variable {isFunction : String → Bool} {position : Nat} {c : Char}
  {cs cs' rest rest' : List Char} {token token' : Token} {d : Diagnostic}

/-- A token is a spelling of itself if it is not a function with a text that is no name. -/
theorem Respelled.refl (named : token.kind = .function → Name.isName token.text.toList = true) :
    token.Respelled token :=
  ⟨rfl, rfl, fun _ => rfl, named, rfl, rfl⟩

/-- In another spelling a token stands for the same operator, if for any. -/
theorem Respelled.op?_eq (respelled : token.Respelled token') : token'.op? = token.op? := by
  rw [op?, op?, respelled.kind]
  cases kind : token.kind with
  | operator => simp only [respelled.text (by simp [kind])]
  | _ => rfl

/-- In another spelling a text has the form of its kind. -/
theorem WellFormed.respelled (blind : CaseBlind isFunction) (formed : token.WellFormed isFunction)
    (respelled : token.Respelled token') : token'.WellFormed isFunction := by
  by_cases function : token.kind = .function
  · unfold WellFormed at formed ⊢
    rw [function] at formed
    rw [respelled.kind, function]
    exact ⟨respelled.named function, (blind respelled.lowerCase).trans formed.2⟩
  · unfold WellFormed at formed ⊢
    rwa [respelled.kind, respelled.text function]

/-- What does not prolong a token does not prolong it in another spelling. -/
theorem Complete.respelled (complete : token.Complete rest) (respelled : token.Respelled token') :
    token'.Complete rest := by
  unfold Complete IsIdentifier at complete ⊢
  rwa [respelled.kind]

/-! ## Texts in another spelling -/

/-- From a position on, the characters are the same but for the spelling of the names of functions.
Where a token fails, what follows is not split into tokens and may be anything. -/
inductive Respells (isFunction : String → Bool) : Nat → List Char → List Char → Prop
  | nil {position : Nat} : Respells isFunction position [] []
  | token {position : Nat} {c : Char} {cs rest rest' : List Char} {token token' : Token}
      (taken : next isFunction position c cs = .ok (token, rest))
      (respelled : token.Respelled token')
      (others : Respells isFunction (position + token.text.length) rest rest') :
      Respells isFunction position (c :: cs) (token'.text.toList ++ rest')
  | stopped {position : Nat} {c : Char} {before after : List Char} {d : Diagnostic}
      (failed : next isFunction position c (before ++ after) = .error d)
      (within : d.position ≤ position + before.length) (after' : List Char) :
      Respells isFunction position (c :: (before ++ after)) (c :: (before ++ after'))

/-- The texts begin with the same character or both with a name. -/
theorem Respells.first (respells : Respells isFunction position cs cs') {c' : Char}
    (first : cs'.head? = some c') :
    ∃ c, cs.head? = some c ∧ (c' = c ∨ Name.isStart c = true ∧ Name.isStart c' = true) := by
  have starts {text run : List Char} {s : Char} (same : text = s :: run)
      (named : Name.isName text = true) : Name.isStart s = true := by
    rw [same, Name.isName, Bool.and_eq_true] at named
    exact named.1
  cases respells with
  | nil => cases first
  | @token _ c cs rest rest' token token' taken respelled _ =>
    refine ⟨c, rfl, ?_⟩
    have formed := (next_sound taken).2.1
    have whole := next_text taken
    obtain ⟨s, run, text⟩ := List.exists_cons_of_ne_nil formed.text_ne_nil
    rw [text, List.cons_append, List.cons.injEq] at whole
    obtain ⟨rfl, _⟩ := whole
    by_cases function : token.kind = .function
    · rw [WellFormed, function] at formed
      have named := respelled.named function
      cases text' : token'.text.toList with
      | nil =>
        rw [text', Name.isName] at named
        cases named
      | cons s' run' =>
        rw [text', List.cons_append, List.head?_cons, Option.some.injEq] at first
        subst first
        exact .inr ⟨starts text formed.1, starts text' named⟩
    · rw [respelled.text function, text, List.cons_append, List.head?_cons,
        Option.some.injEq] at first
      exact .inl first.symm
  | stopped =>
    cases first
    exact ⟨_, rfl, .inl rfl⟩

/-- What does not prolong a token does not prolong it in another spelling of what follows. -/
theorem Complete.of_respells (complete : token.Complete rest)
    (respells : Respells isFunction position rest rest') : token.Complete rest' := by
  intro c' first'
  obtain ⟨c, first, rfl | ⟨start, start'⟩⟩ := respells.first first'
  · exact complete c' first
  · -- a name follows, and the token is no name
    refine ⟨fun _ => isNumberPart_of_isStart start', fun name => ?_⟩
    have prolonged := (complete c first).2 name
    rw [Name.isPart_of_isStart start] at prolonged
    cases prolonged

/-! ## Scanning in another spelling -/

/-- **Another spelling of function names is scanned alike**: it fails in the same way, or its tokens
are the same in the other spelling. -/
theorem scanFrom_of_respells (blind : CaseBlind isFunction)
    (respells : Respells isFunction position cs cs') :
    (∀ d, scanFrom isFunction position cs = .error d →
      scanFrom isFunction position cs' = .error d) ∧
    ∀ tokens, scanFrom isFunction position cs = .ok tokens →
      ∃ tokens', scanFrom isFunction position cs' = .ok tokens' ∧
        List.Forall₂ Respelled tokens tokens' := by
  induction respells with
  | @nil position =>
    refine ⟨fun d failed => failed, fun tokens scanned => ⟨tokens, scanned, ?_⟩⟩
    rw [scanFrom_nil] at scanned
    cases scanned
    exact .cons (.refl (by simp [finish])) .nil
  | @token position c cs rest rest' token token' taken respelled others ih =>
    obtain ⟨rfl, formed, complete⟩ := next_sound taken
    have formed' := formed.respelled blind respelled
    have complete' := (complete.of_respells others).respelled respelled
    obtain ⟨c', run', text'⟩ := List.exists_cons_of_ne_nil formed'.text_ne_nil
    have taken' : next isFunction token.position c' (run' ++ rest') = .ok (token', rest') := by
      rw [← respelled.position]
      exact next_complete formed' complete' (by rw [text', List.cons_append])
    rw [text', List.cons_append, scanFrom_cons, scanFrom_cons, taken, taken']
    simp only [respelled.length]
    obtain ⟨fails, scans⟩ := ih
    cases scanned : scanFrom isFunction (token.position + token.text.length) rest with
    | error d =>
      rw [fails d scanned]
      exact ⟨fun _ same => same, fun _ other => by cases other⟩
    | ok tokens =>
      obtain ⟨tokens', scanned', alike⟩ := scans tokens scanned
      rw [scanned']
      refine ⟨(fun _ other => by cases other), fun _ same => ⟨token' :: tokens', rfl, ?_⟩⟩
      cases same
      exact .cons respelled alike
  | @stopped position c before after d failed within after' =>
    have failed' := next_error_of_within failed within after'
    rw [scanFrom_cons, scanFrom_cons, failed, failed']
    exact ⟨fun _ same => same, fun _ other => by cases other⟩

/-- Where characters are split into tokens, the tokens in another spelling make up another spelling
of them. -/
theorem IsDecomposition.respells {tokens tokens' : List Token}
    (decomposition : IsDecomposition isFunction position cs tokens)
    (respelled : List.Forall₂ Respelled tokens tokens') :
    Respells isFunction position cs (characters tokens') := by
  induction respelled generalizing position cs with
  | nil =>
    obtain rfl : [] = cs := decomposition.texts
    exact .nil
  | @cons token token' tokens tokens' same _ ih =>
    obtain ⟨rfl, formed, rfl, complete, others⟩ := decomposition.uncons
    obtain ⟨c, run, text⟩ := List.exists_cons_of_ne_nil formed.text_ne_nil
    have whole : token.text.toList ++ characters tokens = c :: (run ++ characters tokens) := by
      rw [text, List.cons_append]
    rw [whole, characters_cons]
    exact .token (next_complete formed complete whole) same (ih others)

end Token

/-! ## Calculating in another spelling -/

/-- Whether a table knows a name does not depend on its case. -/
theorem FunctionTable.has_caseBlind {σ : Type} (table : FunctionTable σ) :
    Token.CaseBlind table.has := by
  intro name name' same
  rw [has, has, same]

/-- A call whose failures are placed runs as the call does. -/
theorem Evaluation.run_adapt {σ : Type} {x : ExceptT CallFailure (StateM σ) Float}
    {result : Except CallFailure Float} {memory memory' : σ}
    (ran : x.run.run memory = (result, memory')) (f : CallFailure → Diagnostic) :
    (x.adapt f).run.run memory = (result.mapError f, memory') := by
  have placed : (x.adapt f).run.run memory =
      ((x.run.run memory).1.mapError f, (x.run.run memory).2) := rfl
  rw [placed, ran]

namespace Calculator

variable {σ : Type} {calculator : Calculator σ} {text text' : String} {tokens tokens' : List Token}

/-- The texts differ in the spelling of the names of functions and in blanks only. -/
def Respells (calculator : Calculator σ) (text text' : String) : Prop :=
  Token.Respells calculator.functions.has 0 (Text.withoutBlanks text) (Text.withoutBlanks text')

/-- The text has the name of a function at the position. -/
def Names (calculator : Calculator σ) (text : String) (position : Nat) (name : String) : Prop :=
  ∃ tokens, calculator.tokens text = .ok tokens ∧
    ∃ token ∈ tokens, token.kind = .function ∧ token.position = position ∧ token.text = name

/-- The second diagnostic is the first one, but a call that failed has the name that the text has
there. -/
def Rewords (calculator : Calculator σ) (text : String) (d d' : Diagnostic) : Prop :=
  d'.position = d.position ∧
    match d.problem with
    | .failedCall _ cause =>
      ∃ name, calculator.Names text d.position name ∧ d'.problem = .failedCall name cause
    | problem => d'.problem = problem

/-- A diagnostic that is not about a call needs no other words. -/
theorem Rewords.of_ne {d d' : Diagnostic} (position : d'.position = d.position)
    (problem : d'.problem = d.problem)
    (other : ∀ name cause, d.problem ≠ .failedCall name cause) : calculator.Rewords text d d' := by
  refine ⟨position, ?_⟩
  split
  · rename_i name cause same
    exact absurd same (other name cause)
  · exact problem

/-- Another spelling is split into the same tokens in the other spelling, or fails alike. -/
theorem tokens_of_respells (respells : calculator.Respells text text') :
    (∀ d, calculator.tokens text = .error d → calculator.tokens text' = .error d) ∧
      ∀ tokens, calculator.tokens text = .ok tokens →
        ∃ tokens', calculator.tokens text' = .ok tokens' ∧
          List.Forall₂ Token.Respelled tokens tokens' :=
  Token.scanFrom_of_respells calculator.functions.has_caseBlind respells

/-- Tokens in another spelling are a text in another spelling. -/
theorem respells_of_tokens {last : Token}
    (scanned : calculator.tokens text = .ok (tokens ++ [last]))
    (respelled : List.Forall₂ Token.Respelled tokens tokens')
    (written : Text.withoutBlanks text' = Token.characters tokens') :
    calculator.Respells text text' := by
  obtain ⟨inner, same, decomposition⟩ := tokens_eq_ok scanned
  obtain ⟨rfl, _⟩ := List.append_inj' same rfl
  rw [Respells, written]
  exact decomposition.respells respelled

/-- Tokens in another spelling have the same kinds and positions. -/
theorem places_of_respelled (respelled : List.Forall₂ Token.Respelled tokens tokens') :
    tokens'.map (fun token => (token.kind, token.position)) =
      tokens.map fun token => (token.kind, token.position) := by
  induction respelled with
  | nil => rfl
  | cons same _ ih => rw [List.map_cons, List.map_cons, ih, same.kind, same.position]

/-- Tokens in another spelling have the same variables. -/
theorem variablesOf_of_respelled (respelled : List.Forall₂ Token.Respelled tokens tokens') :
    variablesOf tokens' = variablesOf tokens := by
  have texts : (tokens'.filter (·.kind = .variable)).map (·.text) =
      (tokens.filter (·.kind = .variable)).map (·.text) := by
    induction respelled with
    | nil => rfl
    | @cons token token' _ _ same _ ih =>
      by_cases kind : token.kind = .variable
      · have kind' : token'.kind = .variable := same.kind.trans kind
        have text : token'.text = token.text := same.text (by simp [kind])
        simp only [List.filter_cons, kind, kind', decide_true, if_true, List.map_cons, text, ih]
      · have kind' : ¬ token'.kind = .variable := by rwa [same.kind]
        simp only [List.filter_cons, kind, kind', decide_false, Bool.false_eq_true, if_false, ih]
  rw [variablesOf, variablesOf, texts]

/-- What cannot be split into tokens is wrong before any call. -/
theorem not_failedCall_of_tokens {d : Diagnostic} (failed : calculator.tokens text = .error d)
    (name : String) (cause : CallFailure) : d.problem ≠ .failedCall name cause := by
  rcases Token.scan_eq_error failed with ⟨c, problem, _⟩ | ⟨problem, _⟩ <;> simp [problem]

/-- A function among the tokens of a text is known. -/
theorem has_of_tokens (scanned : calculator.tokens text = .ok tokens) {token : Token}
    (member : token ∈ tokens) (function : token.kind = .function) :
    calculator.functions.has token.text = true := by
  have formed := wellFormed_of_tokens scanned member (by simp [function])
  rw [Token.WellFormed, function] at formed
  exact formed.2

/-- The token is one of a text in another spelling: a function is known and the text has it. -/
structure IsSpelling (calculator : Calculator σ) (text' : String) (token token' : Token) :
    Prop where
  respelled : token.Respelled token'
  known : token.kind = .function → calculator.functions.has token.text = true
  written : token.kind = .function → calculator.Names text' token.position token'.text

/-- The comparison of the tokens of an expression with those of another spelling. -/
def spelling (calculator : Calculator σ) (text' : String) : Descent.Comparison where
  token := calculator.IsSpelling text'
  left := List.Forall₂ (calculator.IsSpelling text')
  fault := calculator.Rewords text'
  excused _ := False

/-- The tokens of an expression are those of another spelling. -/
theorem spelling_left (respelled : List.Forall₂ Token.Respelled tokens tokens')
    (scanned : calculator.tokens text = .ok tokens)
    (scanned' : calculator.tokens text' = .ok tokens') :
    (calculator.spelling text').left tokens tokens' := by
  have known := @has_of_tokens σ calculator text tokens scanned
  have written : ∀ token' ∈ tokens', token'.kind = .function →
      calculator.Names text' token'.position token'.text := fun token' member function =>
    ⟨tokens', scanned', token', member, function, rfl, rfl⟩
  clear scanned scanned'
  show List.Forall₂ (calculator.IsSpelling text') tokens tokens'
  induction respelled with
  | nil => exact .nil
  | @cons token token' tokens tokens' same _ ih =>
    rw [List.forall_mem_cons] at written
    refine .cons ⟨same, known List.mem_cons_self, fun function => ?_⟩
      (ih (fun member => known (List.mem_cons_of_mem _ member)) written.2)
    rw [← same.position]
    exact written.1 (same.kind.trans function)

/-- A call of a known function is the same in another spelling, but for the name in its failure. -/
theorem call_spelling (scope : Scope σ) (same : scope.functions = calculator.functions)
    {token token' : Token} (spelled : calculator.IsSpelling text' token token')
    (function : token.kind = .function) (arguments : List Float) (memory : σ) :
    (calculator.spelling text').Results
      ((scope.call token.text token.position arguments).run.run memory)
      ((scope.call token'.text token'.position arguments).run.run memory) := by
  obtain ⟨respelled, known, written⟩ := spelled
  have known := known function
  rw [FunctionTable.has_eq_isSome, Option.isSome_iff_exists] at known
  obtain ⟨routine, found⟩ := known
  have found' : calculator.functions.find? token'.text = some routine := by
    rw [← found, FunctionTable.find?, FunctionTable.find?, respelled.lowerCase]
  rw [Scope.call, Scope.call, same, FunctionTable.invoke_of_find? found,
    FunctionTable.invoke_of_find? found', respelled.position]
  cases ran : (routine arguments).run.run memory with
  | mk result memory' =>
    rw [Evaluation.run_adapt ran, Evaluation.run_adapt ran]
    cases result with
    | ok v => exact .value v memory'
    | error cause => exact .failure memory' ⟨rfl, token'.text, written function, rfl⟩

/-- An expression and another spelling of it are evaluated in lockstep. -/
theorem spelling_lockstep (calculator : Calculator σ) (text' : String) (bindings : Bindings) :
    Descent.Lockstep (calculator.spelling text') ⟨calculator.functions, bindings⟩
      ⟨calculator.functions, bindings⟩ where
  current := by
    intro rest rest' alike
    cases alike with
    | nil => exact ⟨.refl (by simp [Token.finish]), by simp [Token.finish], by simp [Token.finish]⟩
    | cons alike _ => exact alike
  tail := by
    intro rest rest' alike _
    cases alike with
    | nil => exact .nil
    | cons _ alike => exact alike
  kind spelled := spelled.respelled.kind
  op? spelled := spelled.respelled.op?_eq
  literal := by
    intro token token' spelled kind memory
    rw [spelled.respelled.text (by simp [kind]), spelled.respelled.position]
    refine .refl fun d failed => .of_ne rfl rfl ?_
    rw [Scope.literal] at failed
    split at failed <;> cases failed
    simp
  lookup := by
    intro token token' spelled kind memory
    rw [spelled.respelled.text (by simp [kind]), spelled.respelled.position]
    refine .refl fun d failed => .of_ne rfl rfl ?_
    rw [Scope.lookup] at failed
    split at failed <;> cases failed
    simp
  call spelled function arguments memory := call_spelling _ rfl spelled function arguments memory
  fault spelled _ other := .of_ne spelled.respelled.position rfl other

/-- **Function names ignore case, variables do not.** An expression and another spelling of its
function names have tokens of the same kinds at the same positions and list the same variables, or
fail alike when they are split into tokens. Calculating them ends with the same value or with the
same diagnostic, except that a failed call is reported under the name that stands there. Variables
are looked up as they are written: a value under another name than those listed, be it one of them
in another case, makes no difference. -/
theorem calculate_of_respells (calculator : Calculator σ) {text text' : String}
    (respells : calculator.Respells text text') :
    (calculator.tokens text').map (List.map fun token => (token.kind, token.position)) =
        (calculator.tokens text).map (List.map fun token => (token.kind, token.position)) ∧
      calculator.variableNames text' = calculator.variableNames text ∧
      (∀ (bindings : Bindings) (memory : σ),
        (∀ v memory', (calculator.calculate text bindings).run.run memory = (.ok v, memory') →
          (calculator.calculate text' bindings).run.run memory = (.ok v, memory')) ∧
        ∀ d memory', (calculator.calculate text bindings).run.run memory = (.error d, memory') →
          ∃ d', (calculator.calculate text' bindings).run.run memory = (.error d', memory') ∧
            calculator.Rewords text' d d') ∧
      ∀ (bindings : Bindings) (name : String) (x : Float),
        (∀ names, calculator.variableNames text = .ok names → name ∉ names) →
        calculator.calculate text (bindings.insert name x) =
          calculator.calculate text bindings := by
  obtain ⟨fails, scans⟩ := tokens_of_respells respells
  refine ⟨?_, ?_, fun bindings memory => ?_, fun bindings name x other => ?_⟩
  · cases scanned : calculator.tokens text with
    | error d => rw [fails d scanned]
    | ok tokens =>
      obtain ⟨tokens', scanned', respelled⟩ := scans tokens scanned
      rw [scanned', Except.map, Except.map, places_of_respelled respelled]
  · cases scanned : calculator.tokens text with
    | error d => rw [variableNames, variableNames, scanned, fails d scanned]
    | ok tokens =>
      obtain ⟨tokens', scanned', respelled⟩ := scans tokens scanned
      rw [variableNames, variableNames, scanned, scanned', Except.map, Except.map,
        variablesOf_of_respelled respelled]
  · cases scanned : calculator.tokens text with
    | error d =>
      rw [calculate_of_error scanned, calculate_of_error (fails d scanned)]
      refine ⟨fun v memory' ran => ran, fun d' memory' ran => ⟨d', ran, ?_⟩⟩
      cases ran
      exact .of_ne rfl rfl (not_failedCall_of_tokens scanned)
    | ok tokens =>
      obtain ⟨tokens', scanned', respelled⟩ := scans tokens scanned
      rw [calculate_of_tokens scanned, calculate_of_tokens scanned']
      have results := (spelling_lockstep calculator text' bindings).evaluateWithin maxLevels
        (spelling_left respelled scanned scanned') memory
      refine ⟨fun v memory' ran => ?_, fun d memory' ran => ?_⟩
      · rw [ran] at results
        exact results.of_value
      · rw [ran] at results
        exact results.of_failure id
  · refine calculate_congr fun names listed name' member => ?_
    have apart : name ≠ name' := fun same => other names listed (same ▸ member)
    rw [Std.TreeMap.getElem?_insert, if_neg (by simpa using apart)]

/-- A function that is called in another case fails under the name that it is called by. -/
theorem calculate_of_respells_failure :
    let calculator : Calculator Unit := .register ⟨.empty⟩ "F" fun _ => throw (.wrongArity 2 1)
    let bindings : Bindings := Std.TreeMap.empty.insert "x" 0.0
    calculator.Respells "F(x)" "f (x)" ∧
      (calculator.calculate "F(x)" bindings).run.run () =
        (.error ⟨.failedCall "F" (.wrongArity 2 1), 0⟩, ()) ∧
      ∃ d', (calculator.calculate "f (x)" bindings).run.run () = (.error d', ()) ∧
        calculator.Rewords "f (x)" ⟨.failedCall "F" (.wrongArity 2 1), 0⟩ d' := by
  intro calculator bindings
  have scanned : calculator.tokens "F(x)" = .ok ([⟨.function, "F", 0⟩, ⟨.leftParen, "(", 1⟩,
      ⟨.variable, "x", 2⟩, ⟨.rightParen, ")", 3⟩] ++ [Token.finish 4]) := by
    decide +kernel
  have spelled : Token.Respelled ⟨.function, "F", 0⟩ ⟨.function, "f", 0⟩ :=
    ⟨rfl, rfl, by simp, fun _ => by decide +kernel, by decide +kernel, rfl⟩
  have respells : calculator.Respells "F(x)" "f (x)" := by
    refine respells_of_tokens scanned (.cons spelled (.cons (.refl (by simp))
      (.cons (.refl (by simp)) (.cons (.refl (by simp)) .nil)))) ?_
    decide +kernel
  have ran : (calculator.calculate "F(x)" bindings).run.run () =
      (.error ⟨.failedCall "F" (.wrongArity 2 1), 0⟩, ()) := by
    rw [calculate_of_tokens scanned]
    with_unfolding_all rfl
  exact ⟨respells, ran, ((calculate_of_respells calculator respells).2.2.1 bindings ()).2 _ _ ran⟩

end Calculator

end Reckoner
