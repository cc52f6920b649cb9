import Codebook.Decimal.Nearest
import Codebook.Template.Argument
import Codebook.Template.Filter.Kinds
import Codebook.Text.Numeral

/-!
# Filters that make numbers and truth values
-/

namespace Codebook.Template

/-! ## Numbers from texts -/

/-- A text without a sign in front, and whether the sign was that of a negative number. -/
def unsigned : Text → Bool × Text
  | '-' :: rest => (true, rest)
  | '+' :: rest => (false, rest)
  | text => (false, text)

/-- The integer that a text writes down, if calculations reach it. -/
def integerOf? (text : Text) : Option Int :=
  let (negative, digits) := unsigned text
  ((Text.digitsValue? 10 digits).map fun n => if negative then -(n : Int) else n).filter inRange

/-- The exponent that a text writes down behind the letter `e`; where there is nothing it is
zero. -/
def exponentOf? : Text → Option Int
  | [] => some 0
  | e :: rest =>
    if e = 'e' || e = 'E' then
      let (negative, digits) := unsigned rest
      (Text.digitsValue? 10 digits).map fun n => if negative then -(n : Int) else n
    else none

/-- The magnitude of the double that a text without a sign writes down. -/
def magnitudeOf? (text : Text) : Option Float :=
  let word := text.map Char.toLower
  if word = "inf".toList || word = "infinity".toList then some (1.0 / 0.0)
  else if word = "nan".toList then some (0.0 / 0.0)
  else
    let whole := text.takeWhile Char.isDigit
    let behind := text.dropWhile Char.isDigit
    let point := behind.head? = some '.'
    let fraction := if point then behind.tail.takeWhile Char.isDigit else []
    let power := if point then behind.tail.dropWhile Char.isDigit else behind
    match Text.digitsValue? 10 (whole ++ fraction), exponentOf? power with
    | some digits, some exponent =>
      some (Decimal.Digits.toFloat ⟨digits, exponent - fraction.length⟩)
    | _, _ => none

/-- The double that a text writes down. -/
def floatOf (text : Text) : Except Problem Float :=
  if text.isEmpty then .error (.refused "cannot parse float from empty string".toList)
  else
    let (negative, digits) := unsigned text
    match magnitudeOf? digits with
    | some magnitude => .ok (if negative then -magnitude else magnitude)
    | none => .error (.refused "invalid float literal".toList)

/-- The integer that a double has in front of its point; the nearest one that calculations reach. -/
def integerPart (x : Float) : Int :=
  match (Number.float (Decimal.truncate x)).toInt? with
  | some n => max leastInteger (min n greatestInteger)
  | none => if x.isNaN then 0 else if x < 0 then leastInteger else greatestInteger

/-! ## Single filters -/

/-- The number of characters or items. -/
def Value.length (value : Value) : Except Problem Value :=
  match value.length? with
  | some length => .ok (.natural length)
  | none => .error (.noLength value.kind)

/-- The number without its sign. -/
def Value.magnitude : Value → Except Problem Value
  | .natural n => .ok (.natural n)
  | .integer n =>
    if n = leastInteger then .error (.refused "overflow on abs".toList)
    else .ok (.integer n.natAbs)
  | .float x => .ok (.float x.abs)
  | _ => .error (.refused "cannot get absolute value".toList)

/-- The number with so many places behind the point. -/
def Value.rounded (places : Int) : Value → Except Problem Value
  | .natural n => .ok (.natural n)
  | .integer n => .ok (.integer n)
  | .float x =>
    let power := (10.0 : Float).pow (Float.ofInt places)
    .ok (.float ((power * x).round / power))
  | value => .error (.refused ("cannot round value (".toList ++ value.kind.name ++ [')']))

/-- The number of places to which a number is rounded. -/
def placesArgument : Option Value → Except Problem Int
  | none => .error .missingArgument
  | some value =>
    match value.code?.filter fun code => code.value.natAbs < 0x80000000 with
    | some code => .ok code.value
    | none => .error (.cannotConvert value.kind "i32".toList)

/-- The value as an integer. -/
def Value.toInteger : Value → Except Problem Value
  | .undefined | .nothing | .null => .ok (.natural 0)
  | .boolean b => .ok (.natural (if b then 1 else 0))
  | .natural n => .ok (.natural n)
  | .integer n => .ok (.integer n)
  | .float x => .ok (.integer (integerPart x))
  | .text t | .markup t =>
    match integerOf? t with
    | some n => .ok (.integer n)
    | none => (floatOf t).map fun x => .integer (integerPart x)
  | value =>
    .error (.refused ("cannot convert ".toList ++ value.kind.name ++ " to integer".toList))

/-- The value as a double. -/
def Value.toDouble : Value → Except Problem Value
  | .undefined | .nothing | .null => .ok (.float 0)
  | .text t | .markup t => (floatOf t).map .float
  | value =>
    match value.number? with
    | some number => .ok (.float number.toFloat)
    | none => .error (.refused ("cannot convert ".toList ++ value.kind.name ++ " to float".toList))

/-- The items of a value, of which a list is to be made. -/
def Value.listed (value : Value) : Except Problem (List Value) :=
  match value.items? with
  | some items => .ok items
  | none => .error (.cannotList value.kind)

/-- The sum of numbers, added to one from the left. -/
def sumFrom (sum : Value) : List Value → Except Problem Value
  | [] => .ok sum
  | item :: rest => do
    let item ← item.defined
    if item.kind = .number then sumFrom (← Arithmetic.onNumbers .add sum item) rest
    else .error (.refused "can only sum numbers".toList)

/-! ## The filters -/

/-- The number or the truth value that a filter makes of a value. -/
def NumberFilter.apply (filter : NumberFilter) (value : Value) (arguments : List Value) :
    Except Problem Value :=
  match filter with
  | .length => do
    noMoreThan 0 arguments
    value.length
  | .abs => do
    noMoreThan 0 arguments
    value.magnitude
  | .round => do
    let places ← optional placesArgument arguments[0]?
    noMoreThan 1 arguments
    value.rounded (places.getD 0)
  | .int => do
    noMoreThan 0 arguments
    value.toInteger
  | .float => do
    noMoreThan 0 arguments
    value.toDouble
  | .sum => do
    noMoreThan 0 arguments
    sumFrom (.natural 0) (← value.listed)
  | .bool => do
    noMoreThan 0 arguments
    return .boolean value.isTrue

end Codebook.Template
