import Std.Data.TreeMap
import Reckoner.Routine
import Reckoner.Text.LowerCase

/-! # Function tables

A function table holds routines under names in lower case. Names are looked up without regard to
case, a later registration takes the place of an earlier one, and the names are listed in ascending
order of their characters. -/

namespace Reckoner

/-- The functions that an expression can call. -/
structure FunctionTable (σ : Type) where
  /-- The routines under their names in lower case. -/
  entries : Std.TreeMap String (Routine σ)

namespace FunctionTable

variable {σ : Type}

/-- A table without functions. -/
def empty : FunctionTable σ := ⟨∅⟩

/-- A table of the routines under their names as given. -/
def ofList (routines : List (String × Routine σ)) : FunctionTable σ :=
  ⟨routines.foldl (fun entries (name, routine) => entries.insert name routine) ∅⟩

/-- Puts a routine under a name, in place of the one that was there. -/
def register (table : FunctionTable σ) (name : String) (routine : Routine σ) : FunctionTable σ :=
  ⟨table.entries.insert (Text.lowerCase name) routine⟩

/-- The routine under a name. -/
def find? (table : FunctionTable σ) (name : String) : Option (Routine σ) :=
  table.entries[Text.lowerCase name]?

/-- Whether there is a routine under a name. -/
def has (table : FunctionTable σ) (name : String) : Bool :=
  table.entries.contains (Text.lowerCase name)

/-- Calls the function of a name. The failure for a missing function tells the name as written. -/
def invoke (table : FunctionTable σ) (name : String) : Routine σ := fun arguments =>
  match table.find? name with
  | some routine => routine arguments
  | none => throw (.unknownFunction name)

/-- The names in ascending order. -/
def names (table : FunctionTable σ) : List String := table.entries.keys

/-! ## Looking up after registering -/

@[simp] theorem find?_empty (name : String) : (empty : FunctionTable σ).find? name = none := by
  simp [find?, empty]

/-- A registration is found under every name that is the same in lower case. -/
theorem find?_register (table : FunctionTable σ) (name other : String) (routine : Routine σ) :
    (table.register name routine).find? other =
      if Text.lowerCase name = Text.lowerCase other then some routine else table.find? other := by
  simp [find?, register, Std.TreeMap.getElem?_insert]

/-- A name is known exactly when a routine is found under it. -/
theorem has_eq_isSome (table : FunctionTable σ) (name : String) :
    table.has name = (table.find? name).isSome := by
  simp [has, find?]

/-- The names are listed in strictly ascending order. -/
theorem names_ascending (table : FunctionTable σ) :
    table.names.Pairwise fun low high => compare low high = .lt :=
  Std.TreeMap.ordered_keys

/-- A registration adds its name in lower case to the names. -/
theorem mem_names_register (table : FunctionTable σ) (name other : String)
    (routine : Routine σ) :
    other ∈ (table.register name routine).names ↔
      Text.lowerCase name = other ∨ other ∈ table.names := by
  simp [names, register, Std.TreeMap.mem_keys, Std.TreeMap.mem_insert]

end FunctionTable

end Reckoner
