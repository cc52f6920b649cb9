import Codebook.Phrase

/-!
# Options

What can be asked for on the command line: a setting takes a value, a switch does not. Each may be
given once. `Options.set` and `Options.turn` add one to those that were given before, and are the
only places where a value is refused.
-/

namespace Codebook.CommandLine

/-- An option with a value. -/
inductive Setting where
  /-- Where the catalog is. -/
  | json
  /-- Where the template is. -/
  | template
  /-- Where the output goes. -/
  | output
  /-- Which words a template's `map` leaves in its list. -/
  | mapMode
  deriving DecidableEq, Repr

/-- An option without a value. -/
inductive Switch where
  /-- Shows no events but errors. -/
  | quiet
  /-- Asks for the version. -/
  | version
  /-- Asks for the usage. -/
  | help
  deriving DecidableEq, Repr

/-- Something that has a name on the command line. -/
inductive Item where
  | setting (setting : Setting)
  | switch (switch : Switch)
  deriving DecidableEq, Repr

namespace Item

/-- All of them. -/
def all : List Item :=
  [setting .json, setting .template, setting .output, setting .mapMode,
    switch .quiet, switch .version, switch .help]

/-- The name that is written behind two dashes. -/
def longName : Item → Text
  | setting .json => "json".toList
  | setting .template => "template".toList
  | setting .output => "output".toList
  | setting .mapMode => "map-mode".toList
  | switch .quiet => "quiet".toList
  | switch .version => "version".toList
  | switch .help => "help".toList

/-- The letter that is written behind one dash, for those that have one. -/
def letter? : Item → Option Char
  | setting .json | setting .mapMode => none
  | setting .template => some 't'
  | setting .output => some 'o'
  | switch .quiet => some 'q'
  | switch .version => some 'V'
  | switch .help => some 'h'

/-- What a long name stands for. -/
def ofLongName? (name : Text) : Option Item := all.find? (·.longName = name)

/-- What a letter stands for. -/
def ofLetter? (c : Char) : Option Item := all.find? (·.letter? = some c)

end Item

/-- Why a command line is refused. -/
inductive Rejection where
  /-- Nothing has this name. -/
  | unknown (argument : Text)
  /-- There is no place for an argument without a name. -/
  | unexpected (argument : Text)
  /-- A setting without a value. -/
  | missingValue (setting : Setting)
  /-- A path without a character. -/
  | emptyValue (setting : Setting)
  /-- A value that is none of those there are. -/
  | invalidValue (setting : Setting) (value : Text)
  /-- A switch with a value. -/
  | unneededValue (switch : Switch)
  /-- An option that was given before. -/
  | repeated (item : Item)
  deriving DecidableEq, Repr

/-- The reason in words. -/
def Rejection.message : Rejection → Text
  | .unknown argument => "unknown option ".toList ++ argument
  | .unexpected argument => "unexpected argument ".toList ++ argument
  | .missingValue setting => (Item.setting setting).longName ++ " needs a value".toList
  | .emptyValue setting => (Item.setting setting).longName ++ " needs a path".toList
  | .invalidValue setting value =>
    (Item.setting setting).longName ++ " cannot be ".toList ++ value
  | .unneededValue switch => (Item.switch switch).longName ++ " takes no value".toList
  | .repeated item => item.longName ++ " is given twice".toList

/-- The options that were given. -/
structure Options where
  json? : Option Text
  template? : Option Text
  output? : Option Text
  mapMode? : Option Phrase.MapMode
  quiet : Bool
  deriving DecidableEq, Repr

namespace Options

/-- No options. -/
def none : Options := ⟨.none, .none, .none, .none, false⟩

/-- The mode of a template's `map`, which is `substitute` unless something else is given. -/
def mapMode (options : Options) : Phrase.MapMode := options.mapMode?.getD .substitute

/-- The mode that a word names. -/
def readMapMode (word : Text) : Except Rejection Phrase.MapMode :=
  if word = "substitute".toList then .ok .substitute
  else if word = "legacy".toList then .ok .legacy
  else .error (.invalidValue .mapMode word)

/-- A value for a path. -/
def readPath (setting : Setting) (path : Text) : Except Rejection Text :=
  if path = [] then .error (.emptyValue setting) else .ok path

/-- What is given already is not given again. -/
def refuseRepetition {α : Type} (item : Item) : Option α → Except Rejection Unit
  | .none => .ok ()
  | some _ => .error (.repeated item)

/-- The options with a value for one more setting. -/
def set (options : Options) (setting : Setting) (value : Text) : Except Rejection Options :=
  match setting with
  | .json => do
    refuseRepetition (.setting .json) options.json?
    return { options with json? := some value }
  | .template => do
    refuseRepetition (.setting .template) options.template?
    return { options with template? := some (← readPath .template value) }
  | .output => do
    refuseRepetition (.setting .output) options.output?
    return { options with output? := some (← readPath .output value) }
  | .mapMode => do
    refuseRepetition (.setting .mapMode) options.mapMode?
    return { options with mapMode? := some (← readMapMode value) }

end Options

end Codebook.CommandLine
