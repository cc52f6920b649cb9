import Codebook.Template.Items

/-!
# Arguments

What functions, filters and tests make of the values that they are given. Arguments are taken from
the left, each turned into what is needed; only when all of them could be is it an error to have
given more. Arguments with names come as one map behind all others.
-/

namespace Codebook.Template

/-! ## Single arguments -/

/-- Any value, but there has to be one. -/
def valueArgument : Option Value → Except Problem Value
  | none => .error .missingArgument
  | some value => value.defined

/-- A text: any value can be one but a map of arguments, but there has to be a value. -/
def textArgument : Option Value → Except Problem Text
  | none => .error .missingArgument
  | some .undefined => .error .undefinedValue
  | some (.map .keywords _) => .error (.refused "cannot convert kwargs to string".toList)
  | some value => .ok value.toText

/-- A text that is given as one. -/
def nameArgument : Option Value → Except Problem Text
  | none => .error .missingArgument
  | some value =>
    match value.text? with
    | some t => .ok t
    | none => .error (.refused "value is not a string".toList)

/-- A code. -/
def codeArgument : Option Value → Except Problem Code
  | none => .error .missingArgument
  | some value =>
    match value.code? with
    | some code => .ok code
    | none => .error (.cannotConvert value.kind "i64".toList)

/-- A whole number below a bound; `sort` is the name of such numbers. -/
def countArgument (sort : Text) (bound : Nat) : Option Value → Except Problem Nat
  | none => .error .missingArgument
  | some value =>
    match value.count?.filter (· < bound) with
    | some count => .ok count
    | none => .error (.cannotConvert value.kind sort)

/-- A number of items. -/
def sizeArgument : Option Value → Except Problem Nat :=
  countArgument "usize".toList 0x10000000000000000

/-- A list of texts. -/
def textsArgument : Option Value → Except Problem (List Text)
  | none => .ok []
  | some value =>
    match value.members? with
    | some items => items.mapM fun item => textArgument (some item)
    | none => .error .listExpected

/-- Whether an argument counts as true. -/
def flagArgument : Option Value → Except Problem Bool
  | none => .error .missingArgument
  | some value => value.test

/-- An argument that may be left out. -/
def optional {α : Type} (argument : Option Value → Except Problem α) :
    Option Value → Except Problem (Option α)
  | none | some .null | some .undefined | some .nothing => .ok none
  | some value => (argument (some value)).map some

/-- There are no arguments but those that have been taken. -/
def noMoreThan (count : Nat) (arguments : List Value) : Except Problem Unit :=
  if count < arguments.length then .error .tooManyArguments else .ok ()

/-! ## Arguments with names -/

/-- Arguments, of which those with names have been set apart. -/
structure Given where
  positional : List Value
  keywords : List (Value × Value)

/-- Some arguments, of which those with names are set apart. -/
def Given.of (arguments : List Value) : Given :=
  match arguments.getLast? with
  | some (.map .keywords entries) => ⟨arguments.dropLast, entries⟩
  | _ => ⟨arguments, []⟩

/-- The argument with a name. -/
def Given.keyword? (given : Given) (name : Text) : Option Value :=
  entryOf? given.keywords (.text name)

/-- Whether there is a true argument with a name. -/
def Given.flag (given : Given) (name : Text) : Except Problem Bool :=
  (optional flagArgument (given.keyword? name)).map (·.getD false)

/-- No argument has a name but these. -/
def Given.onlyNamed (given : Given) (names : List Text) : Except Problem Unit :=
  given.keywords.forM fun entry =>
    match entry.1.text? with
    | some name => if name ∈ names then .ok () else .error (.unknownArgument name)
    | none => .error (.refused "non string keys passed to kwargs".toList)

end Codebook.Template
