import Codebook.Template.Display
import Codebook.Template.Filter.Kinds
import Codebook.Template.Scope
import Codebook.Template.Test

/-!
# An overview of all names

What `debug` shows when it is called without arguments: the names in scope with their values, each
once, and the names of everything that is there for every template.
-/

namespace Codebook.Template

/-- A structure over several lines: its name and its fields. -/
def spreadFields (depth : Nat) (name : Text) (fields : List (Text × Text)) : Text :=
  name ++ ' ' :: spread '\x7b' '\x7d' depth (fields.map fun (field, text) =>
    field ++ ": ".toList ++ text)

/-- Texts over several lines. -/
def spreadNames (depth : Nat) (names : List Text) : Text :=
  (Value.ofTexts names).spreadText depth

/-- The names of a frame with their values, in the order of the names, and those behind it. -/
def Frame.entries (context : Context) (store : Store) (frame : Frame) : List (Text × Value) :=
  let named := fun attributes : List (Text × Value) =>
    (entriesOf (namedEntries attributes.reverse)).filterMap fun (key, value) =>
      key.text?.map fun name => (name, value)
  let behind :=
    match frame.backing with
    | .none => []
    | .context => [("codes".toList, context.codes), ("version".toList, .text version)]
    | .cell place => store.cell place
  named frame.locals ++ named behind

/-- The names in scope with their values. A name that an inner frame has is left out of the outer
ones. -/
def Scope.entries (context : Context) (store : Store) (scope : Scope) : List (Value × Value) :=
  let all := scope.flatMap (·.entries context store)
  namedEntries (all.foldl (fun found entry =>
    if found.any (·.1 == entry.1) then found else found ++ [entry]) [])

/-- The functions that are there for every template, in the order of their names. -/
def functionEntries : List (Value × Value) :=
  entriesOf (namedEntries (Function.all.map (fun f => (f.name, .function f)) ++
    Builtin.all.map fun b => (b.name, .builtin b)))

/-- What there is at a place in a template. -/
def Env.overview (env : Env) (store : Store) (scope : Scope) : Text :=
  spreadFields 0 "State".toList [
    ("name".toList, TemplateError.templateName.quoted),
    ("current_block".toList, match env.block with
      | none => "None".toList
      | some name => "Some".toList ++ spread '(' ')' 1 [name.quoted]),
    ("auto_escape".toList, if env.escape then "Html".toList else "None".toList),
    ("ctx".toList, (Value.map .plain (scope.entries env.context store)).spreadText 1),
    ("env".toList, spreadFields 1 "Environment".toList [
      ("globals".toList, (Value.map .plain functionEntries).spreadText 2),
      ("tests".toList, spreadNames 2 (Test.all.map Prod.fst)),
      ("filters".toList, spreadNames 2 (Filter.all.map Prod.fst)),
      ("templates".toList, spreadNames 2 [])])]

end Codebook.Template
