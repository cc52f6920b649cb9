import Codebook.Template.Argument
import Codebook.Template.Filter.Kinds
import Codebook.Unicode.Case

/-!
# Tests

What can be asked of a value behind `is`. Most tests can be asked of what is undefined, too, and do
not hold of it.

Which lists and maps share their place in memory is not kept: one is the same as another here if it
is equal to it.
-/

namespace Codebook.Template

/-- The tests that a template can make. -/
inductive Test where
  | undefined
  | defined
  | null
  | safe
  | ofKind (kind : Kind)
  | integer
  | float
  | odd
  | even
  | iterable
  | lower
  | upper
  | constant (value : Bool)
  | divisible
  | startsWith
  | endsWith
  | same
  /-- A comparison with another value. -/
  | compared (comparison : Comparison)
  | contained
  /-- Whether there is a filter with a name. -/
  | filterName
  /-- Whether there is a test with a name. -/
  | testName
  deriving DecidableEq, Repr

/-- All tests with their names, in the order of the names. -/
def Test.all : List (Text × Test) := [
  ("!=".toList, .compared .notEqual), ("<".toList, .compared .less),
  ("<=".toList, .compared .lessEqual), ("==".toList, .compared .equal),
  (">".toList, .compared .greater), (">=".toList, .compared .greaterEqual),
  ("boolean".toList, .ofKind .boolean), ("defined".toList, .defined),
  ("divisibleby".toList, .divisible), ("endingwith".toList, .endsWith),
  ("eq".toList, .compared .equal), ("equalto".toList, .compared .equal),
  ("escaped".toList, .safe), ("even".toList, .even), ("false".toList, .constant false),
  ("filter".toList, .filterName), ("float".toList, .float), ("ge".toList, .compared .greaterEqual),
  ("greaterthan".toList, .compared .greater), ("gt".toList, .compared .greater),
  ("in".toList, .contained), ("int".toList, .integer), ("integer".toList, .integer),
  ("iterable".toList, .iterable), ("le".toList, .compared .lessEqual),
  ("lessthan".toList, .compared .less), ("lower".toList, .lower),
  ("lt".toList, .compared .less), ("mapping".toList, .ofKind .map),
  ("ne".toList, .compared .notEqual), ("none".toList, .null), ("number".toList, .ofKind .number),
  ("odd".toList, .odd), ("safe".toList, .safe), ("sameas".toList, .same),
  ("sequence".toList, .ofKind .sequence), ("startingwith".toList, .startsWith),
  ("string".toList, .ofKind .text), ("test".toList, .testName), ("true".toList, .constant true),
  ("undefined".toList, .undefined), ("upper".toList, .upper)]

/-- The test with a name. -/
def Test.ofName? (name : Text) : Option Test := all.lookup name

/-- The integer that a value stands for. -/
def Value.integer? (value : Value) : Option Int :=
  (value.number?.bind Number.toInt?).filter inRange

/-- Whether a value is an integer, and not a double. -/
def Value.isInteger : Value → Bool
  | .natural _ | .integer _ => true
  | _ => false

/-- Whether one number is a multiple of another. -/
def Value.isMultiple (value divisor : Value) : Bool :=
  match value.number?, divisor.number? with
  | some a, some b =>
    match a.integers? b with
    | some (m, n) => n != 0 && m % n == 0
    | none => Decimal.remainder a.toFloat b.toFloat == 0
  | _, _ => false

/-- Whether two values are the same: integers are not the same as equal doubles. -/
def Value.isSame (a b : Value) : Bool :=
  match a, b with
  | .map (.shared cell) _, .map (.shared cell') _ => cell == cell'
  | .function f, .function g => f = g
  | .routine head, .routine head' => head = head'
  | _, _ => a.kind == b.kind && a.isInteger == b.isInteger && a.equals b

/-- Any value, undefined or not, but there has to be an argument. -/
def givenArgument : Option Value → Except Problem Value
  | none => .error .missingArgument
  | some value => .ok value

/-- Whether a test that is asked of a value by itself holds. -/
def Test.ofValue (test : Test) (value : Value) : Except Problem Bool :=
  match test with
  | .undefined => .ok value.isUndefined
  | .defined => .ok !value.isUndefined
  | .null => .ok (value.kind == .null)
  | .safe => .ok (match value with
    | .markup _ => true
    | _ => false)
  | .ofKind kind => .ok (value.kind == kind)
  | .integer => .ok value.isInteger
  | .float => .ok (match value with
    | .float _ => true
    | _ => false)
  | .odd => value.defined.map fun value => value.integer?.any fun n => n % 2 != 0
  | .even => value.defined.map fun value => value.integer?.any fun n => n % 2 == 0
  | .iterable => .ok value.items?.isSome
  | .lower => (nameArgument (some value)).map fun t => t.all Unicode.isLower
  | .upper => (nameArgument (some value)).map fun t => t.all Unicode.isUpper
  | .filterName => (nameArgument (some value)).map fun name => (Filter.ofName? name).isSome
  | .testName => (nameArgument (some value)).map fun name => (Test.ofName? name).isSome
  | .constant b => .ok (match value with
    | .boolean c => b == c
    | _ => false)
  | _ => .error .missingArgument

/-- Whether a test holds of a value. -/
def Test.apply (test : Test) (value : Value) (arguments : List Value) : Except Problem Bool :=
  match test with
  | .divisible => do
    let divisor ← givenArgument arguments[0]?
    noMoreThan 1 arguments
    return value.isMultiple divisor
  | .startsWith => do
    let whole ← textArgument (some value)
    let part ← textArgument arguments[0]?
    noMoreThan 1 arguments
    return part.isPrefixOf whole
  | .endsWith => do
    let whole ← textArgument (some value)
    let part ← textArgument arguments[0]?
    noMoreThan 1 arguments
    return part.isSuffixOf whole
  | .same => do
    let other ← givenArgument arguments[0]?
    noMoreThan 1 arguments
    return value.isSame other
  | .compared op => do
    let other ← givenArgument arguments[0]?
    noMoreThan 1 arguments
    op.between value other
  | .contained => do
    let container ← valueArgument arguments[0]?
    noMoreThan 1 arguments
    return (container.holds value).toOption.getD false
  | test => do
    noMoreThan 0 arguments
    test.ofValue value

/-- Whether a test by name holds of a value. -/
def applyTest (name : Text) (value : Value) (arguments : List Value) : Except Problem Bool :=
  match Test.ofName? name with
  | some test => test.apply value arguments
  | none => .error (.unknownTest name)

end Codebook.Template
