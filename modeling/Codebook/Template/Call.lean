import Codebook.Catalog
import Codebook.Phrase
import Codebook.Template.Argument

/-!
# Calling functions

The functions of a template are the operations on phrases, and `key`, which looks a code up in
the catalog. A list that is left out is empty. Besides them there are functions that make ranges
of numbers and maps, which do not depend on the catalog.
-/

namespace Codebook.Template

/-- What rendering depends on besides the template. -/
structure Context where
  catalog : Catalog
  mode : Phrase.MapMode

/-- The value of a function. -/
def Function.apply (context : Context) (f : Function) (arguments : List Value) :
    Except Problem Value :=
  match f with
  | .key => do
    let code ← codeArgument arguments[0]?
    noMoreThan 1 arguments
    return .text (context.catalog.get code)
  | .normalize => do
    let description ← textArgument arguments[0]?
    noMoreThan 1 arguments
    return .text (Phrase.normalize description)
  | .split => do
    let separator ← textArgument arguments[0]?
    let value ← textArgument arguments[1]?
    noMoreThan 2 arguments
    return .ofTexts (Phrase.split separator value)
  | .join => do
    let separator ← textArgument arguments[0]?
    let values ← textsArgument arguments[1]?
    noMoreThan 2 arguments
    return .text (Phrase.join separator values)
  | .title => do
    let values ← textsArgument arguments[0]?
    noMoreThan 1 arguments
    return .ofTexts (Phrase.title values)
  | .map => do
    let old ← textArgument arguments[0]?
    let new ← textArgument arguments[1]?
    let values ← textsArgument arguments[2]?
    noMoreThan 3 arguments
    return .ofTexts (Phrase.map context.mode old new values)

/-! ## Ranges and maps -/

/-- A bound of a range. -/
def boundArgument : Option Value → Except Problem Nat := countArgument "u32".toList 0x100000000

/-- How many numbers a range may have. -/
def maxRange : Nat := 100000

/-- The numbers from one to another, each so much larger than the one before it. -/
def range (first behind step : Nat) : Except Problem Value :=
  if step = 0 then .error (.refused "cannot create range with step of 0".toList)
  else
    let count := (behind - first + step - 1) / step
    if maxRange < count then .error (.refused "range has too many elements".toList)
    else
      .ok (.iterator true ((List.range count).map fun place => .natural (first + place * step)))

/-- The value of a call of `range`: with one argument, the numbers below it. -/
def callRange (arguments : List Value) : Except Problem Value := do
  let lower ← boundArgument arguments[0]?
  let upper? ← optional boundArgument arguments[1]?
  let step? ← optional boundArgument arguments[2]?
  noMoreThan 3 arguments
  match upper? with
  | some upper => range lower upper (step?.getD 1)
  | none => range 0 lower (step?.getD 1)

/-- The value of a call of `dict`: a map with the entries of another one and further ones. -/
def callDict (arguments : List Value) : Except Problem Value := do
  let given := Given.of arguments
  let base ←
    match given.positional[0]? with
    | none | some .undefined | some .nothing | some .null => pure []
    | some value =>
      match value.entries? with
      | some entries => pure entries
      | none => throw .mapExpected
  noMoreThan 1 given.positional
  return .map .plain (entriesOf (base ++ given.keywords))

/-- The entries of a new namespace: those of a map, as far as their keys are texts. -/
def namespaceEntries (arguments : List Value) : Except Problem (List (Text × Value)) := do
  let entries ←
    match arguments[0]? with
    | none | some .undefined | some .nothing | some .null => pure []
    | some value =>
      match value.entries? with
      | some entries => pure entries
      | none =>
        throw (.refused ("expected object or keyword arguments, got ".toList ++ value.kind.name))
  noMoreThan 1 arguments
  return (entriesOf entries).filterMap fun (key, value) => key.text?.map fun name => (name, value)

end Codebook.Template
