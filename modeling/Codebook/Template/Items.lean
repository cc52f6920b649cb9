import Codebook.Template.Comparing
import Codebook.Text.Numeral
import Codebook.Text.Split

/-!
# What values are made of

The items that a loop goes through, the attributes of a value, and parts of texts and lists. A text
is made of its characters, a map of its keys. Places are counted from the front, starting with
zero, or from the end if they are negative; where there is nothing, the item is undefined.
-/

namespace Codebook.Template

/-! ## Items -/

/-- A list of texts as a value. -/
def Value.ofTexts (texts : List Text) : Value := .list (texts.map .text)

/-- The names of attributes as values. -/
def namesOf (attributes : List (Text × Value)) : List Value :=
  attributes.map fun (name, _) => .text name

/-- The items that a loop over a value goes through, if it has any kind of items. -/
def Value.items? : Value → Option (List Value)
  | .list items | .iterator _ items => some items
  | .group common items => some [common, .list items]
  | .text t | .markup t => some (t.map fun c => .text [c])
  | .map _ entries => some (entries.map Prod.fst)
  | .loop state previous next => some (namesOf (state.attributes previous next))
  | .routine head => some (namesOf head.attributes)
  | .undefined | .null | .nothing => some []
  | _ => none

/-- The items of a value that is no single text and not nothing. -/
def Value.members? (value : Value) : Option (List Value) :=
  if value.kind = .text || value.kind = .undefined || value.kind = .null then none
  else value.items?

/-- The items that a loop over a value goes through. -/
def Value.iterate (value : Value) : Except Problem (List Value) :=
  match value with
  | .undefined => .error .undefinedValue
  | _ =>
    match value.items? with
    | some items => .ok items
    | none => .error (.notIterable value.kind)

/-- How many characters or items a value has. -/
def Value.length? (value : Value) : Option Nat :=
  if value.kind = .undefined || value.kind = .null || !value.counted then none
  else value.items?.map List.length

/-- How many items a loop over a value has, where that is known beforehand: the characters of a
text are not counted. -/
def Value.itemCount? (value : Value) : Option Nat :=
  if value.kind = .text || !value.counted then none else value.items?.map List.length

/-- Whether a value counts as true. Nothing, zero and what is empty do not. -/
def Value.isTrue : Value → Bool
  | .undefined | .nothing | .null => false
  | .boolean value => value
  | .natural value => value != 0
  | .integer value => value != 0
  | .float value => value != 0
  | .text value | .markup value => !value.isEmpty
  | .list items => !items.isEmpty
  | .iterator counted items => !counted || !items.isEmpty
  | .map _ entries => !entries.isEmpty
  | .group _ _ | .function _ | .builtin _ | .routine _ | .loop _ _ _ => true

/-- Whether a value counts as true, where there has to be one. -/
def Value.test (value : Value) : Except Problem Bool := value.defined.map Value.isTrue

/-! ## Attributes and single items -/

/-- The item at a place, counted from the end if the place is negative. -/
def itemAt? {α : Type} (items : List α) (place : Int) : Option α :=
  if 0 ≤ place then items[place.toNat]?
  else if (-place).toNat ≤ items.length then items[items.length - (-place).toNat]? else none

/-- The item of a value at an index or a key, if there is one. -/
def Value.lookup? (value index : Value) : Option Value :=
  match value with
  | .list items | .iterator _ items => index.code?.bind fun code => itemAt? items code.value
  | .group common items =>
    if index.text? = some "grouper".toList then some common
    else if index.text? = some "list".toList then some (.list items)
    else index.code?.bind fun code => itemAt? [common, .list items] code.value
  | .text t | .markup t =>
    (index.code?.bind fun code => itemAt? t code.value).map fun c => .text [c]
  | .map _ entries => entryOf? entries index
  | .loop state previous next => entryOf? (namedEntries (state.attributes previous next)) index
  | .routine head => entryOf? (namedEntries head.attributes) index
  | _ => none

/-- The item of a value at an index, which may be undefined. -/
def Value.item (value index : Value) : Except Problem Value :=
  if value.isUndefined then .error .undefinedValue else .ok ((value.lookup? index).getD .undefined)

/-- The attribute of a value, which may be undefined. The characters of a text have none. -/
def Value.attribute (value : Value) (name : Text) : Except Problem Value := value.item (.text name)

/-- The item that is reached by a path of names and places with dots between them. -/
def Value.itemAlong (value : Value) (path : Text) : Except Problem Value :=
  (Text.splitOn ['.'] path).foldlM (fun value step =>
    match Text.digitsValue? 10 step with
    | some place => value.item (.natural place)
    | none => value.attribute step) value

/-- The item that is reached by a path, or another value where there is none. -/
def Value.itemAlongOr (value : Value) (path : Text) (default : Value) : Value :=
  match value.itemAlong path with
  | .ok item => if item.isUndefined then default else item
  | .error _ => default

/-! ## Slices -/

/-- The place where a slice starts or stops, which a negative number counts from the end. -/
def sliceEnd (length : Nat) (place : Int) : Nat :=
  if 0 ≤ place then place.toNat else (length + place).toNat

/-- The place behind the one where a slice towards the front starts or stops. -/
def sliceBehind (length : Nat) (place : Int) : Nat :=
  if 0 ≤ place then place.toNat + 1 else (length + place + 1).toNat

/-- Every so many items, from the first one on. -/
def everyNth {α : Type} (step : Nat) : Nat → List α → List α
  | _, [] => []
  | 0, x :: rest => x :: everyNth step (step - 1) rest
  | skip + 1, _ :: rest => everyNth step skip rest

/-- The items from one place to another, each so many places behind the one before it. A negative
step goes from the end to the front. -/
def sliced {α : Type} (items : List α) (start stop : Option Int) (step : Int) : List α :=
  if 0 < step then
    let first := sliceEnd items.length (start.getD 0)
    let last := (stop.map (sliceEnd items.length)).getD items.length
    everyNth step.toNat 0 ((items.take last).drop first)
  else
    let first := (start.map (sliceBehind items.length)).getD items.length
    let behind := (stop.map (sliceBehind items.length)).getD 0
    everyNth (-step).toNat 0 ((items.take first).drop behind).reverse

/-- A number that says where a slice starts, stops or goes on, unless it is left out. -/
def sliceNumber (value : Value) : Except Problem (Option Int) :=
  match value with
  | .null => .ok none
  | _ =>
    match value.code? with
    | some code => .ok (some code.value)
    | none => .error (.cannotConvert value.kind "i64".toList)

/-- Some of the characters or items of a value. -/
def Value.slice (value start stop step : Value) : Except Problem Value := do
  if value.isUndefined then .error .undefinedValue
  let start ← sliceNumber start
  let stop ← sliceNumber stop
  let step := (← sliceNumber step).getD 1
  if step = 0 then .error (.refused "cannot slice by step size of 0".toList)
  match value.text?, value.elements? with
  | some t, _ => return .text (sliced t start stop step)
  | none, some items => return .iterator value.counted (sliced items start stop step)
  | none, none =>
    if value.kind = .null then return .list []
    else
      .error (.refused ("value of type ".toList ++ value.kind.name ++ " cannot be sliced".toList))

end Codebook.Template
