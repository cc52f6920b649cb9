import Codebook.Template.Call
import Codebook.Template.Tree

/-!
# What is kept while a template is rendered

Most values never change. What does is kept in a store: the cells of the namespaces and of what
macros take from around their declarations, what loops remember of the questions whether something
has changed, and the macros that have been declared.

A value that is a namespace comes with entries, which are brought up to date when the value is
looked up under a name.

Evaluation goes from store to store. It either gives a result or the first problem with its line.
-/

namespace Codebook.Template

/-- A macro that has been declared. What it takes from around its declaration is in a cell. -/
structure Routine where
  parameters : List Parameter
  body : List Stmt
  closure : Nat

/-- What is kept while a template is rendered. -/
structure Store where
  cells : List (List (Text × Value))
  memories : List (Nat × List Value)
  routines : List Routine

namespace Store

/-- The store at first. -/
def empty : Store := ⟨[], [], []⟩

/-- The entries of a cell. -/
def cell (store : Store) (place : Nat) : List (Text × Value) := (store.cells[place]?).getD []

/-- The store with a further cell. -/
def withCell (store : Store) (entries : List (Text × Value)) : Store :=
  { store with cells := store.cells ++ [entries] }

/-- The store with a value for a name in a cell. -/
def withEntry (store : Store) (place : Nat) (name : Text) (value : Value) : Store :=
  { store with cells := store.cells.modify place fun entries =>
      (name, value) :: entries.filter (·.1 != name) }

/-- The store with what is remembered under a number. -/
def withMemory (store : Store) (place : Nat) (values : List Value) : Store :=
  { store with memories := (place, values) :: store.memories }

/-- The store without what is remembered under a number. -/
def forgetting (store : Store) (place : Nat) : Store :=
  { store with memories := store.memories.filter (·.1 != place) }

/-- The store with a further macro. -/
def withRoutine (store : Store) (routine : Routine) : Store :=
  { store with routines := store.routines ++ [routine] }

end Store

/-! ## Values that are up to date -/

mutual

/-- The value with the entries that namespaces have by now. -/
def Value.updated (entries : Nat → List (Value × Value)) : Value → Value
  | .list items => .list (Value.allUpdated entries items)
  | .iterator counted items => .iterator counted (Value.allUpdated entries items)
  | .map (.shared cell) _ => .map (.shared cell) (entries cell)
  | .map use its => .map use (Value.entriesUpdated entries its)
  | .group common items => .group (common.updated entries) (Value.allUpdated entries items)
  | .loop state previous next =>
    .loop state (previous.updated entries) (next.updated entries)
  | value => value

/-- The items with the entries that namespaces have by now. -/
def Value.allUpdated (entries : Nat → List (Value × Value)) : List Value → List Value
  | [] => []
  | item :: rest => item.updated entries :: Value.allUpdated entries rest

/-- The entries with those that namespaces have by now. -/
def Value.entriesUpdated (entries : Nat → List (Value × Value)) :
    List (Value × Value) → List (Value × Value)
  | [] => []
  | (key, value) :: rest =>
    (key.updated entries, value.updated entries) :: Value.entriesUpdated entries rest

end

/-- The entries of a namespace in the order of their names, up to date themselves to some depth. -/
def Store.entries (store : Store) : Nat → Nat → List (Value × Value)
  | 0, _ => []
  | depth + 1, place =>
    (entriesOf (namedEntries (store.cell place))).map fun (key, value) =>
      (key, value.updated (store.entries depth))

/-- The value as it is by now. No namespace is inside others deeper than there are cells. -/
def Store.update (store : Store) (value : Value) : Value :=
  if store.cells.isEmpty then value else value.updated (store.entries store.cells.length)

/-! ## Evaluation -/

/-- Evaluation goes from store to store, unless there is a problem. -/
abbrev Eval (α : Type) := StateT Store (Except TemplateError) α

/-- A result, with its problem placed on a line. -/
def onLine {α : Type} (line : Nat) : Except Problem α → Eval α
  | .ok a => pure a
  | .error problem => throw (.failed problem line)

/-- Evaluation stops with a problem on a line. -/
def failOn {α : Type} (line : Nat) (problem : Problem) : Eval α := throw (.failed problem line)

end Codebook.Template
