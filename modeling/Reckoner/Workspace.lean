import Reckoner.Calculator

/-! # Workspaces

A workspace holds a calculator, values of variables, the tokens that were split last, what functions
have noted, and a copy of a calculator that was set aside. `perform` carries out a command and gives
its answer. The two calculators are independent of each other; everything else is shared. -/

namespace Reckoner

/-- What functions have noted, the last note first. -/
abbrev Notes := List Float

/-- The state of a workspace. -/
structure Workspace where
  calculator : Calculator Notes
  bindings : Bindings
  kept : List Token
  notes : Notes
  aside : Option (Calculator Notes)

namespace Workspace

/-- A command to a workspace. -/
inductive Command
  /-- Puts a function into the calculator. -/
  | register (name : String) (routine : Routine Notes)
  /-- Asks whether a function has the name. -/
  | has (name : String)
  /-- Asks for the names of the functions. -/
  | names
  /-- Calls a function. -/
  | invoke (name : String) (arguments : List Float)
  /-- Gives a variable a value. -/
  | set (name : String) (value : Float)
  /-- Takes the value of a variable away. -/
  | unset (name : String)
  /-- Evaluates an expression. -/
  | calculate (expression : String)
  /-- Asks for the variables of an expression. -/
  | extract (expression : String)
  /-- Splits an expression into tokens and keeps them. -/
  | tokenize (expression : String)
  /-- Evaluates the tokens kept. -/
  | evaluate
  /-- Asks for the notes since the last time. -/
  | notes
  /-- Sets a copy of the calculator aside. -/
  | save
  /-- Exchanges the calculator for the one set aside. -/
  | swap
  /-- Asks for a description of the calculator. -/
  | describe

/-- What a command comes to. -/
inductive Answer
  | nothing
  | flag (value : Bool)
  | count (value : Nat)
  | text (value : String)
  | number (value : Float)
  | numbers (values : List Float)
  | names (values : List String)
  | tokens (values : List Token)
  | failure (cause : CallFailure)
  | diagnostic (cause : Diagnostic)

/-- The answer of an evaluation, or of anything else that can end with a diagnostic. -/
def Answer.ofExcept {α : Type} (answer : α → Answer) : Except Diagnostic α → Answer
  | .ok value => answer value
  | .error cause => .diagnostic cause

/-- A new workspace. -/
def new (calculator : Calculator Notes) (bindings : Bindings) : Workspace :=
  ⟨calculator, bindings, [], [], none⟩

/-- Evaluates in a workspace; the notes made until a failure stay. -/
def run (workspace : Workspace) (evaluation : Evaluation Notes Float) : Answer × Workspace :=
  let (result, notes) := evaluation.run.run workspace.notes
  (.ofExcept .number result, { workspace with notes := notes })

/-- Carries out a command. -/
def perform (workspace : Workspace) : Command → Answer × Workspace
  | .register name routine =>
    let calculator := workspace.calculator.register name routine
    (.names calculator.functions.names, { workspace with calculator := calculator })
  | .has name => (.flag (workspace.calculator.functions.has name), workspace)
  | .names => (.names workspace.calculator.functions.names, workspace)
  | .invoke name arguments =>
    match (workspace.calculator.functions.invoke name arguments).run.run workspace.notes with
    | (.ok value, notes) => (.number value, { workspace with notes := notes })
    | (.error failure, notes) => (.failure failure, { workspace with notes := notes })
  | .set name value =>
    let bindings := workspace.bindings.insert name value
    (.count bindings.size, { workspace with bindings := bindings })
  | .unset name =>
    (.flag (workspace.bindings.contains name),
      { workspace with bindings := workspace.bindings.erase name })
  | .calculate expression =>
    workspace.run (workspace.calculator.calculate expression workspace.bindings)
  | .extract expression =>
    (.ofExcept .names (workspace.calculator.variableNames expression), workspace)
  | .tokenize expression =>
    match workspace.calculator.tokens expression with
    | .ok tokens => (.tokens tokens, { workspace with kept := tokens })
    | .error diagnostic => (.diagnostic diagnostic, workspace)
  | .evaluate =>
    workspace.run (workspace.calculator.evaluate workspace.kept workspace.bindings)
  | .notes => (.numbers workspace.notes.reverse, { workspace with notes := [] })
  | .save => (.nothing, { workspace with aside := some workspace.calculator })
  | .swap =>
    match workspace.aside with
    | some calculator =>
      (.names calculator.functions.names,
        { workspace with calculator := calculator, aside := some workspace.calculator })
    | none => (.nothing, workspace)
  | .describe => (.text workspace.calculator.describe, workspace)

/-- Carries out commands one after the other. -/
def performAll (workspace : Workspace) : List Command → List Answer
  | [] => []
  | command :: commands =>
    let (answer, next) := workspace.perform command
    answer :: next.performAll commands

end Workspace

end Reckoner
