import Reckoner.Dialogue
import Reckoner.Proofs.LowerCase
import Reckoner.Proofs.NameExpressions
import Reckoner.Proofs.Registrations

/-! # Calling what is listed

A function table lists its functions in lower case, and every listed function can be called: under
each name that it was registered with, and in the table also under the name listed
(`FunctionTable.listed_functions_callable`). In an expression the listed name calls it as well, if
it is a name. With valid names registered it is one unless it holds the combining dot of a capital I
with a dot above, which no expression can hold (`FunctionTable.listed_dotted_name_not_valid`). -/

namespace Reckoner

variable {σ : Type}

namespace Calculator

/-- The tokens of a call without arguments, and the end of the input. -/
def callTokens (name : String) : List Token :=
  [⟨.function, name, 0⟩, ⟨.leftParen, "(", name.length⟩, ⟨.rightParen, ")", name.length + 1⟩,
    .finish (name.length + 2)]

/-- The call of a function without arguments is scanned as its name and two parentheses. -/
theorem tokens_call {calculator : Calculator σ} {name : String} (named : Name.valid name = true)
    (known : calculator.functions.has name = true) :
    calculator.tokens (name ++ "()") = .ok (callTokens name) := by
  have token : calculator.nameToken name = ⟨.function, name, 0⟩ := by
    rw [nameToken, if_pos known]
  have head := Token.IsDecomposition.singleton (calculator.nameToken_wellFormed named)
  have laid := head.join Token.symbolKind?_leftParen
    (Token.IsDecomposition.nil.join Token.symbolKind?_rightParen .nil)
  have text : (name ++ "()").toList = name.toList ++ '(' :: ([] ++ ')' :: []) := by simp
  have length : (name ++ "()").length = name.length + 2 := by
    rw [String.length_append]
    rfl
  rw [token] at laid
  rw [tokens_of_isDecomposition (text ▸ laid), length, callTokens]
  simp [String.length_toList]

end Calculator

/-- The banner of a dialogue lists the functions. -/
theorem Dialogue.functions_mem_banner (calculator : Calculator σ) :
    Remark.functions calculator.functions.names ∈ banner calculator := by
  simp [banner]

namespace FunctionTable

/-- The names of the standard functions are valid. -/
theorem standard_valid :
    ∀ name ∈ StandardFunctions.list.map Prod.fst, Name.valid name = true := by decide

variable {origin : Origin} {history : List (String × Routine σ)}

/-- If valid names are registered, all names of the table were valid when they were put in. -/
theorem Origin.valid_of_mem (named : ∀ entry ∈ history, Name.valid entry.1 = true) :
    ∀ entry ∈ origin.entries ++ history, Name.valid entry.1 = true := by
  refine List.forall_mem_append.2 ⟨fun entry member => ?_, named⟩
  cases origin with
  | empty => cases member
  | standard =>
    obtain ⟨⟨name, function⟩, listed, rfl⟩ := List.mem_map.1 member
    exact standard_valid name (List.mem_map.2 ⟨_, listed, rfl⟩)

/-- What is found under a name in lower case is what the table holds under it. -/
theorem find?_of_lowerCase {table : FunctionTable σ} {name : String}
    (lower : Text.lowerCase name = name) : table.find? name = table.entries[name]? := by
  rw [find?, lower]

/-- **Every listed function can be called.** If the registered names are valid, the table knows each
name that it lists, and a call under it runs what the table holds there, which is what was
registered last under the name in any case. A listed name is valid, and can be called in an
expression, unless it holds the combining dot; it does so exactly if it was registered with a
capital I with a dot above. Under the names with which it was registered, an expression can call
every function. -/
theorem listed_functions_callable
    (named : ∀ entry ∈ history, Name.valid entry.1 = true) {name : String}
    (listed : name ∈ (origin.after history).names) :
    let calculator : Calculator σ := ⟨origin.after history⟩
    (∃ names, .functions names ∈ Dialogue.banner calculator ∧ name ∈ names) ∧
    calculator.functions.has name = true ∧
    (∃ routine, calculator.functions.entries[name]? = some routine ∧
      IsLast (origin.entries ++ history) name routine ∧
      calculator.functions.invoke name = routine) ∧
    (Name.valid name = true ↔ '\u0307' ∉ name.toList) ∧
    ((∃ rest, calculator.tokens (name ++ "()") = .ok (⟨.function, name, 0⟩ :: rest)) ↔
      '\u0307' ∉ name.toList) ∧
    ∀ entry ∈ origin.entries ++ history, Text.lowerCase entry.1 = name →
      ('\u0307' ∈ name.toList ↔ '\u0130' ∈ entry.1.toList) ∧
      calculator.functions.invoke entry.1 = calculator.functions.invoke name ∧
      calculator.tokens (entry.1 ++ "()") = .ok (Calculator.callTokens entry.1) := by
  intro calculator
  obtain ⟨first, registered, same⟩ := (origin.mem_names_after history name).1 listed
  have lower : Text.lowerCase name = name := by rw [← same, Text.lowerCase_lowerCase]
  have known : calculator.functions.has name = true :=
    (origin.has_after history name).2 ⟨first, registered, same.trans lower.symm⟩
  have valid : Name.valid name = true ↔ '\u0307' ∉ name.toList := by
    rw [← same]
    exact Name.valid_lowerCase_iff (Origin.valid_of_mem named first registered)
  obtain ⟨routine, last⟩ := exists_isLast ⟨first, registered, same.trans lower.symm⟩
  have found : calculator.functions.find? name = some routine := by
    show (origin.after history).find? name = some routine
    rw [Origin.after_eq]
    exact find?_registerAll_of_isLast last
  -- a listed name is in lower case, so the table holds under it what a search for it finds
  refine ⟨⟨_, Dialogue.functions_mem_banner calculator, listed⟩, known,
    ⟨routine, ?_, last, invoke_of_find? found⟩, valid, ?_, fun entry member same => ?_⟩
  · rw [← find?_of_lowerCase lower, found]
  · rw [← valid]
    constructor
    · rintro ⟨rest, scanned⟩
      exact Calculator.valid_of_tokens scanned (List.mem_cons_self ..) (.inr rfl)
    · exact fun named => ⟨_, Calculator.tokens_call named known⟩
  · have named : Name.valid entry.1 = true := Origin.valid_of_mem named entry member
    have equal : Text.lowerCase entry.1 = Text.lowerCase name := same.trans lower.symm
    have found' : calculator.functions.find? entry.1 = calculator.functions.find? name := by
      rw [find?, find?, equal]
    refine ⟨?_, ?_, Calculator.tokens_call named ?_⟩
    · rw [← same]
      exact Name.dot_mem_lowerCase_iff named
    · rw [invoke_of_find? found, invoke_of_find? (found'.trans found)]
    · rw [has_eq_isSome, found', ← has_eq_isSome]
      exact known

/-- What is registered under a capital I with a dot above is called under it and under its name in
lower case, which is not valid. -/
theorem listed_functions_callable_dotted :
    let history : List (String × Routine Unit) := [("\u0130x", Routine.zero), ("Sum", Routine.sum)]
    let calculator : Calculator Unit := ⟨Origin.empty.after history⟩
    (∀ entry ∈ history, Name.valid entry.1 = true) ∧
      calculator.functions.names = ["i\u0307x", "sum"] ∧
      calculator.functions.has "i\u0307x" = true ∧ Name.valid "i\u0307x" = false ∧
      calculator.tokens "\u0130x()" = .ok (Calculator.callTokens "\u0130x") ∧
      calculator.functions.has "sum" = true ∧ Name.valid "sum" = true := by
  intro history calculator
  have named : ∀ entry ∈ history, Name.valid entry.1 = true := by
    simp only [history, List.forall_mem_cons]
    decide
  have names : calculator.functions.names = ["i\u0307x", "sum"] := by with_unfolding_all rfl
  have dotted : "i\u0307x" ∈ (Origin.empty.after history).names := by
    show _ ∈ calculator.functions.names
    simp [names]
  have plain : "sum" ∈ (Origin.empty.after history).names := by
    show _ ∈ calculator.functions.names
    simp [names]
  obtain ⟨_, known, _, valid, _, calls⟩ := listed_functions_callable named dotted
  obtain ⟨_, known', _, valid', _⟩ := listed_functions_callable named plain
  refine ⟨named, names, known, ?_, ?_, known', valid'.2 (by decide)⟩
  · rw [← Bool.not_eq_true, valid]
    decide
  · exact (calls ("\u0130x", Routine.zero) (by simp [history]) (by decide)).2.2

/-- **A listed name need not be a name.** A capital I with a dot above is a valid name. What is
registered under it is listed as a small i with a combining dot, which is no valid name, and whose
call is no expression. -/
theorem listed_dotted_name_not_valid :
    let history : List (String × Routine Unit) := [("\u0130", Routine.zero)]
    let calculator : Calculator Unit := ⟨Origin.empty.after history⟩
    (∀ entry ∈ history, Name.valid entry.1 = true) ∧
      "i\u0307" ∈ calculator.functions.names ∧ Name.valid "i\u0307" = false ∧
      calculator.tokens "i\u0307()" = .error ⟨.unknownCharacter '\u0307', 1⟩ := by
  intro history calculator
  have named : ∀ entry ∈ history, Name.valid entry.1 = true := by
    simp only [history, List.forall_mem_cons]
    decide
  have names : calculator.functions.names = ["i\u0307"] := by with_unfolding_all rfl
  refine ⟨named, by simp [names], by decide, ?_⟩
  decide +kernel

end FunctionTable

end Reckoner
