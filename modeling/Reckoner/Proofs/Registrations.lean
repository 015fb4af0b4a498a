import Mathlib.Data.String.Basic
import Reckoner.StandardFunctions

/-! # Histories of a function table

Whatever has been registered, a function table holds under a name, without regard to case, what was
registered last under it. A registration leaves every other name alone
(`find?_registerAll_of_forall_ne`), and registrations under different names can change places
(`Alike.of_swap`). The standard functions stand in their table as if they had been registered
(`Origin.table_eq`), so that a history may begin with them (`last_registration_wins`). -/

namespace Reckoner

namespace FunctionTable

variable {σ : Type}

/-! ## Registering one after the other -/

/-- Registers routines under names, one after the other. -/
def registerAll (table : FunctionTable σ) (history : List (String × Routine σ)) :
    FunctionTable σ :=
  history.foldl (fun table entry => table.register entry.1 entry.2) table

/-- The routine is that of the last entry whose name is the same in lower case. -/
def IsLast (history : List (String × Routine σ)) (name : String) (routine : Routine σ) : Prop :=
  ∃ before entry after, history = before ++ entry :: after ∧ entry.2 = routine ∧
    Text.lowerCase entry.1 = Text.lowerCase name ∧
    ∀ later ∈ after, Text.lowerCase later.1 ≠ Text.lowerCase name

section

variable {table other : FunctionTable σ} {history : List (String × Routine σ)} {name : String}
  {routine : Routine σ}

@[simp] theorem registerAll_nil : table.registerAll [] = table := rfl

@[simp] theorem registerAll_cons (entry : String × Routine σ) :
    table.registerAll (entry :: history) =
      (table.register entry.1 entry.2).registerAll history := rfl

/-- Two histories one after the other are one. -/
theorem registerAll_append (more : List (String × Routine σ)) :
    table.registerAll (history ++ more) = (table.registerAll history).registerAll more :=
  List.foldl_append

/-- What is registered under other names changes nothing under a name. -/
theorem find?_registerAll_of_forall_ne
    (apart : ∀ entry ∈ history, Text.lowerCase entry.1 ≠ Text.lowerCase name) :
    (table.registerAll history).find? name = table.find? name := by
  induction history generalizing table with
  | nil => rfl
  | cons entry history ih =>
    rw [List.forall_mem_cons] at apart
    rw [registerAll_cons, ih apart.2, find?_register, if_neg apart.1]

/-- What was registered last under a name is found under it. -/
theorem find?_registerAll_of_isLast (last : IsLast history name routine) :
    (table.registerAll history).find? name = some routine := by
  obtain ⟨before, entry, after, rfl, rfl, same, apart⟩ := last
  rw [registerAll_append, registerAll_cons, find?_registerAll_of_forall_ne apart, find?_register,
    if_pos same]

/-- Where something was registered under a name, something was registered last. -/
theorem exists_isLast
    (registered : ∃ entry ∈ history, Text.lowerCase entry.1 = Text.lowerCase name) :
    ∃ routine, IsLast history name routine := by
  induction history with
  | nil => simp at registered
  | cons entry history ih =>
    by_cases again : ∃ later ∈ history, Text.lowerCase later.1 = Text.lowerCase name
    · obtain ⟨routine, before, last, after, rfl, found⟩ := ih again
      exact ⟨routine, entry :: before, last, after, rfl, found⟩
    -- nothing after the first entry takes its place
    · obtain ⟨found, member, same⟩ := registered
      have first : found = entry := by
        rcases List.mem_cons.1 member with first | later
        · exact first
        · exact absurd ⟨found, later, same⟩ again
      subst first
      exact ⟨found.2, [], found, history, rfl, rfl, same,
        fun later member same => again ⟨later, member, same⟩⟩

/-- A registration makes its name known, and no other one. -/
theorem has_register (table : FunctionTable σ) (registered name : String) (routine : Routine σ) :
    (table.register registered routine).has name = true ↔
      Text.lowerCase registered = Text.lowerCase name ∨ table.has name = true := by
  simp [has, register, Std.TreeMap.contains_insert]

/-- A registration under another name changes nothing about a name. -/
theorem has_register_of_ne {registered : String}
    (apart : Text.lowerCase name ≠ Text.lowerCase registered) :
    (table.register registered routine).has name = table.has name := by
  rw [Bool.eq_iff_iff, has_register]
  exact or_iff_right apart.symm

/-- The names known are those known before and those registered. -/
theorem has_registerAll :
    (table.registerAll history).has name = true ↔
      (∃ entry ∈ history, Text.lowerCase entry.1 = Text.lowerCase name) ∨
        table.has name = true := by
  induction history generalizing table with
  | nil => simp
  | cons entry history ih =>
    rw [registerAll_cons, ih, has_register, List.exists_mem_cons_iff]
    exact or_left_comm.trans or_assoc.symm

/-- The names listed are those listed before and those registered, in lower case. -/
theorem mem_names_registerAll :
    name ∈ (table.registerAll history).names ↔
      (∃ entry ∈ history, Text.lowerCase entry.1 = name) ∨ name ∈ table.names := by
  induction history generalizing table with
  | nil => simp
  | cons entry history ih =>
    rw [registerAll_cons, ih, mem_names_register, List.exists_mem_cons_iff]
    exact or_left_comm.trans or_assoc.symm

/-- The names are listed in strictly ascending order of their characters, one after the other. -/
theorem names_ascending_toList (table : FunctionTable σ) :
    table.names.Pairwise fun low high => low.toList < high.toList :=
  table.names_ascending.imp fun less => String.lt_iff_toList_lt.1 (compare_lt_iff_lt.1 less)

/-- A function that is unknown fails under its name as written. -/
theorem invoke_of_not_has (unknown : table.has name = false) (arguments : List Float) :
    table.invoke name arguments = throw (.unknownFunction name) := by
  rw [has_eq_isSome, Option.isSome_eq_false_iff, Option.isNone_iff_eq_none] at unknown
  rw [invoke, unknown]

/-- A function that is found is called. -/
theorem invoke_of_find? (found : table.find? name = some routine) :
    table.invoke name = routine := by
  funext arguments
  rw [invoke, found]

/-! ## Tables with the same answers -/

/-- The tables hold the same routines under the same names. -/
def Alike (table other : FunctionTable σ) : Prop := table.entries.Equiv other.entries

namespace Alike

/-- Registering the same keeps tables alike. -/
theorem register (alike : Alike table other) (name : String) (routine : Routine σ) :
    Alike (table.register name routine) (other.register name routine) :=
  Std.TreeMap.Equiv.insert alike _ _

/-- The same history keeps tables alike. -/
theorem registerAll (alike : Alike table other) (history : List (String × Routine σ)) :
    Alike (table.registerAll history) (other.registerAll history) := by
  induction history generalizing table other with
  | nil => exact alike
  | cons entry history ih => exact ih (alike.register entry.1 entry.2)

/-- Two registrations under different names can change places. -/
theorem of_swap {first second : String × Routine σ}
    (apart : Text.lowerCase first.1 ≠ Text.lowerCase second.1) :
    Alike ((table.register first.1 first.2).register second.1 second.2)
      ((table.register second.1 second.2).register first.1 first.2) := by
  refine Std.TreeMap.Equiv.of_forall_constGet?_eq fun key => ?_
  change (((table.entries.insert _ _).insert _ _)[key]? : Option (Routine σ)) =
    ((table.entries.insert _ _).insert _ _)[key]?
  simp only [Std.TreeMap.getElem?_insert, Std.compare_eq_iff_eq]
  by_cases isFirst : Text.lowerCase first.1 = key
  · rw [if_neg fun isSecond => apart (isFirst.trans isSecond.symm), if_pos isFirst, if_pos isFirst]
  · rw [if_neg isFirst, if_neg isFirst]

/-- Tables that are alike know the same names. -/
theorem has_eq (alike : Alike table other) (name : String) : table.has name = other.has name :=
  Std.TreeMap.Equiv.contains_eq alike

/-- Tables that are alike call the same functions. -/
theorem invoke_eq (alike : Alike table other) (name : String) :
    table.invoke name = other.invoke name := by
  have same : table.find? name = other.find? name := Std.TreeMap.Equiv.getElem?_eq alike
  funext arguments
  rw [invoke, invoke, same]

/-- Tables that are alike list the same names. -/
theorem names_eq (alike : Alike table other) : table.names = other.names :=
  Std.TreeMap.Equiv.keys_eq alike

end Alike

end

/-! ## From the first table on -/

/-- The tables to begin with. -/
inductive Origin
  /-- The table without functions. -/
  | empty
  /-- The table of the standard functions. -/
  | standard

namespace Origin

/-- The table to begin with. -/
def table : Origin → FunctionTable σ
  | .empty => .empty
  | .standard => .standard

/-- What is in the table to begin with. -/
def entries : Origin → List (String × Routine σ)
  | .empty => []
  | .standard => StandardFunctions.list.map fun (name, function) => (name, .ofFunction function)

/-- The table that a history leaves. -/
def after (origin : Origin) (history : List (String × Routine σ)) : FunctionTable σ :=
  origin.table.registerAll history

end Origin

/-- A table of names in lower case is one in which the routines were registered. -/
theorem ofList_eq_registerAll {routines : List (String × Routine σ)}
    (lower : ∀ entry ∈ routines, Text.lowerCase entry.1 = entry.1) :
    ofList routines = empty.registerAll routines := by
  have each (entries : Std.TreeMap String (Routine σ)) :
      ⟨routines.foldl (fun entries entry => entries.insert entry.1 entry.2) entries⟩ =
        registerAll ⟨entries⟩ routines := by
    induction routines generalizing entries with
    | nil => rfl
    | cons entry routines ih =>
      rw [List.forall_mem_cons] at lower
      rw [List.foldl_cons, ih lower.2, registerAll_cons, register, lower.1]
  exact each ∅

/-- The names of the standard functions are in lower case. -/
theorem standard_lowerCase :
    ∀ name ∈ StandardFunctions.list.map Prod.fst, Text.lowerCase name = name := by decide

/-- Every table to begin with is one in which its routines were registered. -/
theorem Origin.table_eq (origin : Origin) :
    (origin.table : FunctionTable σ) = FunctionTable.empty.registerAll origin.entries := by
  cases origin with
  | empty => rfl
  | standard =>
    rw [table, FunctionTable.standard, entries]
    refine ofList_eq_registerAll fun entry member => ?_
    obtain ⟨⟨name, function⟩, listed, rfl⟩ := List.mem_map.1 member
    exact standard_lowerCase name (List.mem_map.2 ⟨_, listed, rfl⟩)

/-- What a history leaves is what was registered from the beginning. -/
theorem Origin.after_eq (origin : Origin) (history : List (String × Routine σ)) :
    origin.after history = FunctionTable.empty.registerAll (origin.entries ++ history) := by
  rw [after, table_eq, registerAll_append]

/-- The names known after a history are those registered, in any case. -/
theorem Origin.has_after (origin : Origin) (history : List (String × Routine σ)) (name : String) :
    (origin.after history).has name = true ↔
      ∃ entry ∈ origin.entries ++ history, Text.lowerCase entry.1 = Text.lowerCase name := by
  have unknown : ¬ (FunctionTable.empty : FunctionTable σ).has name = true := by simp [has_eq_isSome]
  rw [after_eq, has_registerAll, or_iff_left unknown]

/-- The names listed after a history are those registered, in lower case. -/
theorem Origin.mem_names_after (origin : Origin) (history : List (String × Routine σ))
    (name : String) :
    name ∈ (origin.after history).names ↔
      ∃ entry ∈ origin.entries ++ history, Text.lowerCase entry.1 = name := by
  have unlisted : name ∉ (FunctionTable.empty : FunctionTable σ).names := by
    simp [names, FunctionTable.empty]
  rw [after_eq, mem_names_registerAll, or_iff_left unlisted]

/-- **The last registration under a name wins.** However many routines have been registered in a
table that was empty or held the standard functions, a name is known exactly if a name registered or
there from the beginning is the same in lower case; then one of these is the last, and a call runs
its routine. Without one a call fails and tells the name as written. The names listed are those in
lower case, each once, in ascending order of their characters, and a further registration takes none
away. Two neighbouring registrations under names that differ in lower case can change places. -/
theorem last_registration_wins (origin : Origin) (history : List (String × Routine σ)) :
    (∀ name, (origin.after history).has name = true ↔
      ∃ entry ∈ origin.entries ++ history, Text.lowerCase entry.1 = Text.lowerCase name) ∧
    (∀ name, (origin.after history).has name = true →
      ∃ routine, IsLast (origin.entries ++ history) name routine) ∧
    (∀ name routine, IsLast (origin.entries ++ history) name routine →
      (origin.after history).invoke name = routine) ∧
    (∀ name arguments, (origin.after history).has name = false →
      (origin.after history).invoke name arguments = throw (.unknownFunction name)) ∧
    ((origin.after history).names.Pairwise fun low high => low.toList < high.toList) ∧
    (∀ name, name ∈ (origin.after history).names ↔
      ∃ entry ∈ origin.entries ++ history, Text.lowerCase entry.1 = name) ∧
    (∀ name routine, (origin.after history).names ⊆
      (origin.after (history ++ [(name, routine)])).names) ∧
    (∀ before first second rest, history = before ++ first :: second :: rest →
      Text.lowerCase first.1 ≠ Text.lowerCase second.1 →
      (∀ name, (origin.after history).has name =
        (origin.after (before ++ second :: first :: rest)).has name) ∧
      (∀ name, (origin.after history).invoke name =
        (origin.after (before ++ second :: first :: rest)).invoke name) ∧
      (origin.after history).names =
        (origin.after (before ++ second :: first :: rest)).names) := by
  refine ⟨origin.has_after history,
    fun name known => exists_isLast ((origin.has_after history name).1 known),
    fun name routine last => ?_,
    fun name arguments unknown => invoke_of_not_has unknown arguments, names_ascending_toList _,
    origin.mem_names_after history, fun name routine listed member => ?_,
    fun before first second rest split apart => ?_⟩
  · rw [Origin.after_eq]
    exact invoke_of_find? (find?_registerAll_of_isLast last)
  · rw [Origin.after, registerAll_append, registerAll_cons, registerAll_nil, mem_names_register]
    exact .inr member
  · have alike : Alike (origin.after history : FunctionTable σ)
        (origin.after (before ++ second :: first :: rest)) := by
      rw [split, Origin.after, Origin.after, registerAll_append, registerAll_append]
      exact (Alike.of_swap apart).registerAll rest
    exact ⟨alike.has_eq, alike.invoke_eq, alike.names_eq⟩

end FunctionTable

end Reckoner
