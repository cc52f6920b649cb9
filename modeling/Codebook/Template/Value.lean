import Codebook.Decimal.Layout
import Codebook.Text.Quoted

/-!
# The values of a template

What an expression stands for while a template is rendered. Two values mean that there is none:
`undefined` comes from a name, an attribute or an item that does not exist and may hardly be used,
while `nothing` comes from a condition without an alternative and shows as the empty text.

Whole numbers are of two sorts. A `natural` has been written down or counted and is never below
zero; an `integer` is a code or the result of a calculation. A text that is `markup` is shown as it
stands even where texts are escaped. A list that has been put together from others is an `iterator`:
it has the same items, but is of another kind. The items of some iterators are not counted before
they are needed; such an iterator does not show them.

A map has its entries in the order of their keys. The names of arguments and a namespace are maps as
well; a namespace lives in a cell of the store, and the entries that it comes with are those that
were last seen there.

`Value.toText` is the text that a value shows as. Inside a list texts are quoted, so a list shows
which of its items are texts.
-/

namespace Codebook.Template

/-- The functions that a template can call. -/
inductive Function where
  | key
  | normalize
  | split
  | join
  | title
  | map
  deriving DecidableEq, Repr

/-- The name of a function. -/
def Function.name : Function → Text
  | .key => "key".toList
  | .normalize => "normalize".toList
  | .split => "split".toList
  | .join => "join".toList
  | .title => "title".toList
  | .map => "map".toList

/-- All functions. -/
def Function.all : List Function := [.key, .normalize, .split, .join, .title, .map]

/-- The function with a name. -/
def Function.ofName? (name : Text) : Option Function := all.find? (·.name == name)

/-- The functions that are there for every template, whatever it is rendered for. -/
inductive Builtin where
  | range
  | dict
  | debug
  | newNamespace
  deriving DecidableEq, Repr

/-- The name of a built-in function. -/
def Builtin.name : Builtin → Text
  | .range => "range".toList
  | .dict => "dict".toList
  | .debug => "debug".toList
  | .newNamespace => "namespace".toList

/-- All built-in functions. -/
def Builtin.all : List Builtin := [.range, .dict, .debug, .newNamespace]

/-- The built-in function with a name. -/
def Builtin.ofName? (name : Text) : Option Builtin := all.find? (·.name == name)

/-- What a macro tells about itself: its place among all macros, its name, the names of its
parameters, and whether it asks for its caller. -/
structure RoutineHead where
  place : Nat
  name : Text
  parameters : List Text
  asksCaller : Bool
  deriving DecidableEq, Repr

/-- How far a loop has come: the items before this one, and all items where their number is known;
how many loops it has called itself through; and where it remembers what `changed` was asked. -/
structure LoopState where
  index : Nat
  length? : Option Nat
  depth : Nat
  memory : Nat
  deriving DecidableEq, Repr

/-- What a map is used for. -/
inductive MapUse where
  | plain
  /-- Arguments by their names. -/
  | keywords
  /-- The entries of a cell of the store, which is a namespace. -/
  | shared (cell : Nat)
  deriving DecidableEq, Repr

/-- A value. -/
inductive Value where
  | undefined
  | nothing
  | null
  | boolean (value : Bool)
  | natural (value : Nat)
  | integer (value : Int)
  | float (value : Float)
  | text (value : Text)
  | markup (value : Text)
  | list (items : List Value)
  | iterator (counted : Bool) (items : List Value)
  | map (use : MapUse) (entries : List (Value × Value))
  /-- The items that have something in common, and what that is. -/
  | group (common : Value) (items : List Value)
  | function (f : Function)
  | builtin (b : Builtin)
  /-- A macro. -/
  | routine (head : RoutineHead)
  /-- A loop, with the items in front of this one and behind it. -/
  | loop (state : LoopState) (previous next : Value)

/-- The kinds of values that messages tell apart. -/
inductive Kind where
  | undefined
  | null
  | boolean
  | number
  | text
  | sequence
  | map
  | iterator
  | object
  deriving DecidableEq, Repr

/-- The kind of a value. -/
def Value.kind : Value → Kind
  | .undefined | .nothing => .undefined
  | .null => .null
  | .boolean _ => .boolean
  | .natural _ | .integer _ | .float _ => .number
  | .text _ | .markup _ => .text
  | .list _ | .group _ _ => .sequence
  | .map _ _ | .loop _ _ _ => .map
  | .iterator _ _ => .iterator
  | .function _ | .builtin _ | .routine _ => .object

/-- The name of a kind. -/
def Kind.name : Kind → Text
  | .undefined => "undefined".toList
  | .null => "none".toList
  | .boolean => "bool".toList
  | .number => "number".toList
  | .text => "string".toList
  | .sequence => "sequence".toList
  | .map => "map".toList
  | .iterator => "iterator".toList
  | .object => "plain object".toList

/-- Whether there is no value. -/
def Value.isUndefined : Value → Bool
  | .undefined | .nothing => true
  | _ => false

/-- Whether it is known how many items a list has. -/
def Value.counted : Value → Bool
  | .iterator counted _ => counted
  | _ => true

/-- The characters of a text. -/
def Value.text? : Value → Option Text
  | .text t | .markup t => some t
  | _ => none

/-- The items of a list, whether it was written down or put together. -/
def Value.elements? : Value → Option (List Value)
  | .list items | .iterator _ items => some items
  | .group common items => some [common, .list items]
  | _ => none

/-! ## Maps -/

/-- A number, if it is known. -/
def Value.ofCount? (count? : Option Nat) : Value := count?.elim .undefined .natural

/-- What a loop tells about itself. Where the number of its items is not known, no item is told to
be the last. -/
def LoopState.attributes (state : LoopState) (previous next : Value) : List (Text × Value) :=
  [("index0".toList, .natural state.index),
    ("index".toList, .natural (state.index + 1)),
    ("length".toList, .ofCount? state.length?),
    ("revindex".toList, .ofCount? (state.length?.map (· - state.index))),
    ("revindex0".toList, .ofCount? (state.length?.map (· - state.index - 1))),
    ("first".toList, .boolean (state.index == 0)),
    ("last".toList, .boolean (state.length? == some (state.index + 1))),
    ("depth".toList, .natural (state.depth + 1)),
    ("depth0".toList, .natural state.depth),
    ("previtem".toList, previous),
    ("nextitem".toList, next)]

/-- What a macro tells about itself. -/
def RoutineHead.attributes (head : RoutineHead) : List (Text × Value) :=
  [("name".toList, .text head.name),
    ("arguments".toList, .list (head.parameters.map .text)),
    ("caller".toList, .boolean head.asksCaller)]

/-- Values by their names, as entries of a map. -/
def namedEntries (attributes : List (Text × Value)) : List (Value × Value) :=
  attributes.map fun (name, value) => (.text name, value)

/-- The entries of a map. A loop is a map of what it tells about itself. -/
def Value.entries? : Value → Option (List (Value × Value))
  | .map _ entries => some entries
  | .loop state previous next => some (namedEntries (state.attributes previous next))
  | _ => none

/-! ## Texts of values -/

/-- A float inside a list has an exponent below a ten-thousandth and from ten to the sixteenth
on. -/
def itemLayout : Decimal.Layout := ⟨fun leading => -4 ≤ leading && leading ≤ 15, false⟩

/-- The text of a truth value. -/
def booleanText (value : Bool) : Text := if value then "True".toList else "False".toList

/-- The text of a loop: the numbers of the items before this one and of all items. -/
def LoopState.toText (state : LoopState) : Text :=
  "<loop ".toList ++ Text.ofNat state.index ++ '/' ::
    (state.length?.elim ['?'] Text.ofNat) ++ ['>']

/-- The text of a macro. -/
def RoutineHead.toText (head : RoutineHead) : Text := "<macro ".toList ++ head.name ++ ['>']

/-- The text of a function, which is the same for all of them. -/
def Function.toText (_ : Function) : Text :=
  "errors_const::render::Generator::environment::\x7b\x7bclosure\x7d\x7d".toList

/-- The text of a built-in function. -/
def Builtin.toText (b : Builtin) : Text := "minijinja::functions::builtins::".toList ++ b.name

/-- The texts of some items, with commas between them and brackets around them. -/
def bracketed (items : List Text) : Text := '[' :: ", ".toList.intercalate items ++ [']']

/-- The texts of some entries, with commas between them and braces around them. -/
def braced (entries : List Text) : Text := '\x7b' :: ", ".toList.intercalate entries ++ ['\x7d']

mutual

/-- The text of a value inside a list. -/
def Value.itemText : Value → Text
  | .undefined | .nothing => "undefined".toList
  | .null => "None".toList
  | .boolean value => booleanText value
  | .natural value => Text.ofNat value
  | .integer value => Text.ofInt value
  | .float value => Decimal.ofFloat itemLayout value
  | .text value | .markup value => value.quoted
  | .list items => bracketed (Value.itemTexts items)
  | .iterator counted items =>
    if counted then bracketed (Value.itemTexts items) else "<iterator>".toList
  | .map _ entries => braced (Value.entryTexts entries)
  | .group common items => bracketed [common.itemText, bracketed (Value.itemTexts items)]
  | .function f => f.toText
  | .builtin b => b.toText
  | .routine head => head.toText
  | .loop state _ _ => state.toText

/-- The texts of the items of a list. -/
def Value.itemTexts : List Value → List Text
  | [] => []
  | item :: rest => item.itemText :: Value.itemTexts rest

/-- The texts of the entries of a map. -/
def Value.entryTexts : List (Value × Value) → List Text
  | [] => []
  | (key, value) :: rest =>
    (key.itemText ++ ": ".toList ++ value.itemText) :: Value.entryTexts rest

end

/-- The text of a value. -/
def Value.toText : Value → Text
  | .undefined | .nothing => []
  | .float value => Decimal.ofFloat .full value
  | .text value | .markup value => value
  | value => value.itemText

end Codebook.Template
