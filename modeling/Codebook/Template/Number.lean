import Codebook.Code
import Codebook.Decimal.Remainder
import Codebook.Template.Problem
import Codebook.Utf8

/-!
# Calculating with values

Numbers are naturals, integers and doubles, and the truth values count as 0 and 1. An operation
with a double on either side is one of doubles, any other one of integers of 128 bits; what it
gives is an integer. Texts and lists can be added to their like, and repeated.
-/

namespace Codebook.Template

/-- A number. -/
inductive Number where
  | natural (value : Nat)
  | integer (value : Int)
  | float (value : Float)

/-- The number that a value is or counts as. -/
def Value.number? : Value → Option Number
  | .boolean value => some (.natural (if value then 1 else 0))
  | .natural value => some (.natural value)
  | .integer value => some (.integer value)
  | .float value => some (.float value)
  | _ => none

/-- The double next to a number. -/
def Number.toFloat : Number → Float
  | .natural value => Float.ofInt value
  | .integer value => Float.ofInt value
  | .float value => value

/-- The whole number that a number is, if it is one. -/
def Number.toInt? : Number → Option Int
  | .natural value => some value
  | .integer value => some value
  | .float value => (Decimal.Binary.ofFloat value).toInt?

/-- The smallest integer of calculations. -/
def leastInteger : Int := -0x80000000000000000000000000000000

/-- The largest integer of calculations. -/
def greatestInteger : Int := 0x7FFFFFFFFFFFFFFFFFFFFFFFFFFFFFFF

/-- Whether calculations reach an integer. -/
def inRange (n : Int) : Bool := leastInteger ≤ n && n ≤ greatestInteger

/-! ## Two whole numbers -/

/-- Whether a natural takes more than 64 bits. -/
def isWide (n : Nat) : Bool := 0x10000000000000000 ≤ n

/-- The integer that a natural of 128 bits wraps around to. -/
def wrapped (n : Nat) : Int := if (n : Int) ≤ greatestInteger then n else n + 2 * leastInteger

/-- The integers that two whole numbers stand for beside each other: themselves, but two naturals
that are both wide wrap around. -/
def Number.integers? : Number → Number → Option (Int × Int)
  | .natural m, .natural n =>
    if isWide m && isWide n then some (wrapped m, wrapped n) else some (m, n)
  | .natural m, .integer n => some (m, n)
  | .integer m, .natural n => some (m, n)
  | .integer m, .integer n => some (m, n)
  | _, _ => none

/-! ## Codes and counts -/

/-- The code that a number stands for: a whole number in range. The double above the largest code
stands for that code. -/
def Number.code? : Number → Option Code
  | .float value =>
    (Number.float value).toInt?.bind fun n =>
      if n = 0x8000000000000000 then Code.ofInt? (n - 1) else Code.ofInt? n
  | number => number.toInt?.bind Code.ofInt?

/-- The code that a value stands for. -/
def Value.code? (value : Value) : Option Code := value.number?.bind Number.code?

/-- The count that a value stands for. -/
def Value.count? (value : Value) : Option Nat :=
  (value.number?.bind Number.toInt?).bind fun n =>
    if 0 ≤ n && n < 0x10000000000000000 then some n.toNat else none

/-! ## Operations -/

/-- The power of an integer, if it has one that calculations reach. No power beyond 127 of a number
beyond one does. -/
def integerPower? (base exponent : Int) : Option Int :=
  if exponent < 0 || 0x100000000 ≤ exponent || (1 < base.natAbs && 127 < exponent) then none
  else if base.natAbs ≤ 1 then some (base.pow (if exponent = 0 then 0 else 2 - exponent.toNat % 2))
  else some (base.pow exponent.toNat)

/-- The result of an operation on integers, if it has one that calculations reach. -/
def Arithmetic.onIntegers? (op : Arithmetic) (a b : Int) : Option Int :=
  let result? :=
    match op with
    | .add => some (a + b)
    | .subtract => some (a - b)
    | .multiply => some (a * b)
    | .divide => none
    | .floorDivide => if b = 0 then none else some (a / b)
    | .remainder => if b = 0 || (a = leastInteger && b = -1) then none else some (a % b)
    | .power => integerPower? a b
  result?.filter inRange

/-- The result of an operation on doubles. -/
def Arithmetic.onFloats (op : Arithmetic) (x y : Float) : Float :=
  match op with
  | .add => x + y
  | .subtract => x - y
  | .multiply => x * y
  | .divide => x / y
  | .floorDivide => Decimal.floorQuotient x y
  | .remainder => Decimal.remainder x y
  | .power => x.pow y

/-- The result of an operation on two numbers, `a` and `b`. A division is always one of doubles. -/
def Arithmetic.onNumbers (op : Arithmetic) (a b : Value) : Except Problem Value :=
  let unsupported := .error (.unsupportedTypes op a.kind b.kind)
  match a.number?, b.number? with
  | some x, some y =>
    match if op = .divide then none else x.integers? y with
    | none => .ok (.float (op.onFloats x.toFloat y.toFloat))
    | some (m, n) =>
      if inRange m && inRange n then
        match op.onIntegers? m n with
        | some result => .ok (.integer result)
        | none => .error (.cannotCalculate op a.toText b.toText)
      else unsupported
  | _, _ => unsupported

/-- Items that are given last one first, so many times in front of others. -/
def prepend {α : Type} (backwards : List α) : Nat → List α → List α
  | 0, others => others
  | count + 1, others => prepend backwards count (backwards.reverseAux others)

/-- Items so many times over. -/
def repeated {α : Type} (items : List α) (count : Nat) : List α :=
  if items.isEmpty then [] else prepend items.reverse count []

/-- How many bytes a repeated text may have. -/
def maxRepeatedBytes : Nat := 100000000

/-- A text so many times. -/
def repeatText (text : Text) (count : Value) : Except Problem Value :=
  match count.count? with
  | none => .error .textRepetition
  | some n =>
    if maxRepeatedBytes < (Utf8.encode text).length * n then .error .textTooLong
    else .ok (.text (repeated text n))

/-- The items of a list so many times. -/
def repeatList (items : List Value) (counted : Bool) (count : Value) : Except Problem Value :=
  match count.count? with
  | none => .error .listRepetition
  | some n =>
    if counted then .ok (.iterator true (repeated items n))
    else .error (.refused "cannot repeat unsized iterables".toList)

/-- Texts and lists added to their like, and all other additions. -/
def addValues (a b : Value) : Except Problem Value :=
  match a.text?, b.text? with
  | some s, some t => .ok (.text (s ++ t))
  | _, _ =>
    match a.elements?, b.elements? with
    | some xs, some ys => .ok (.iterator (a.counted && b.counted) (xs ++ ys))
    | _, _ => Arithmetic.onNumbers .add a b

/-- Texts and lists repeated, and all other products. -/
def multiplyValues (a b : Value) : Except Problem Value :=
  match a.text?, b.text? with
  | some s, _ => repeatText s b
  | none, some t => repeatText t a
  | none, none =>
    match a.elements?, b.elements? with
    | some xs, _ => repeatList xs a.counted b
    | none, some ys => repeatList ys b.counted a
    | none, none => Arithmetic.onNumbers .multiply a b

/-- The result of an operation. -/
def Arithmetic.apply (op : Arithmetic) (a b : Value) : Except Problem Value :=
  match op with
  | .add => addValues a b
  | .multiply => multiplyValues a b
  | _ => op.onNumbers a b

/-- The number with the other sign. -/
def Value.negate : Value → Except Problem Value
  | .float x => .ok (.float (-x))
  | .natural n => if leastInteger ≤ -(n : Int) then .ok (.integer (-n)) else .error .cannotNegate
  | .integer n => if n = leastInteger then .error .negationOverflow else .ok (.integer (-n))
  | _ => .error .cannotNegate

end Codebook.Template
