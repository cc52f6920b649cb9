import Codebook.Template.Filter.Lists
import Codebook.Template.Test

/-!
# Applying filters

A filter is applied to the value in front of it. All but `default` need a value to work on, where
what comes from a condition without an alternative counts as an empty one.

`map` applies another filter to each item of a list, `select` and `reject` ask a test of each. The
filter that is applied takes its arguments from those of `map` behind its name, so filters are
applied inside each other only as long as there are arguments.

`Filter.all` has every filter that is there without being asked for: `tojson` and `urlencode` are
not, so they are unknown here.
-/

namespace Codebook.Template

/-! ## Choosing items -/

/-- Whether a value counts as true, or whether the test holds of it that is named. -/
def passes (name? : Option Text) (arguments : List Value) (value : Value) : Except Problem Bool :=
  match name? with
  | none => .ok value.isTrue
  | some name => applyTest name value arguments

/-- The test that items are chosen by, which has to be there. -/
def testArgument (argument : Option Value) : Except Problem (Option Text) := do
  let name? ← optional textArgument argument
  match name?.bind fun name => if (Test.ofName? name).isNone then some name else none with
  | some _ => .error .testMissing
  | none => return name?

/-- The items that pass, or those that do not; `part` is what is looked at. -/
def chosen (holds : Bool) (part : Value → Except Problem Value) (name? : Option Text)
    (arguments : List Value) : List Value → Except Problem (List Value)
  | [] => .ok []
  | item :: rest => do
    let passed ← passes name? arguments (← part item)
    let others ← chosen holds part name? arguments rest
    return if passed == holds then item :: others else others

/-! ## Attributes of items -/

/-- The attribute of an item, or another value where there is none. -/
def attributeOr (key default item : Value) : Except Problem Value :=
  match key.text?.elim (item.item key) item.itemAlong with
  | .ok value => .ok (if value.isUndefined then default else value)
  | .error problem => if default.isUndefined then .error problem else .ok default

/-- The attributes of the items that `map` is asked for, if it is. -/
def mappedAttributes? (value : Value) (arguments : List Value) :
    Option (Except Problem (List Value)) :=
  let given := Given.of arguments
  (given.keyword? "attribute".toList).map fun key => do
    noMoreThan 0 given.positional
    given.onlyNamed ["attribute".toList, "default".toList]
    (← value.iterate).mapM (attributeOr key ((given.keyword? "default".toList).getD .undefined))

/-! ## All filters -/

/-- The filter that is to be applied to each item, which has to be there. -/
def filterArgument (argument : Value) : Except Problem Text :=
  match argument.text? with
  | none => .error (.refused "filter name must be a string".toList)
  | some name => if (Filter.ofName? name).isNone then .error .filterMissing else .ok name

/-- The value of a filter by name. The recursion is on the arguments. -/
def applyFilter : List Value → Text → Value → Except Problem Value
  | arguments, name, value =>
    match Filter.ofName? name with
    | none => .error (.unknownFilter name)
    | some filter => do
      let value ← if filter = .default then pure value else value.defined
      match filter with
      | .text filter => (filter.apply value arguments).map .text
      | .number filter => filter.apply value arguments
      | .markup filter => filter.apply value arguments
      | .item filter => filter.apply value arguments
      | .list filter => filter.apply value arguments
      | .default => value.orDefault arguments
      | .each (.choose holds) => do
        let name? ← testArgument arguments[0]?
        return .list (← chosen holds pure name? (arguments.drop 1) (← value.iterate))
      | .each (.chooseByAttribute holds) => do
        let path ← textArgument arguments[0]?
        let name? ← testArgument arguments[1]?
        return .list
          (← chosen holds (·.itemAlong path) name? (arguments.drop 2) (← value.iterate))
      | .each .map =>
        match mappedAttributes? value arguments with
        | some attributes => return .list (← attributes)
        | none =>
          match arguments with
          | [] => .error (.refused "filter name is required".toList)
          | first :: rest => do
            let name ← filterArgument first
            return .list (← (← value.iterate).mapM fun item => applyFilter rest name item)

end Codebook.Template
