import Codebook.Decimal.Binary

/-!
# The shortest decimal that reads back

Among the decimal numbers that are rounded to a given double, the ones with the fewest digits are
multiples of the highest power of ten, and of these the one nearest to the double is its text. The
search tries the powers of ten from above: on each it looks at the two multiples next to the
double, and the first power with a multiple in the rounding interval decides. All arithmetic is on
natural numbers.
-/

namespace Codebook.Decimal

/-- The number `digits * 10 ^ exponent`. -/
structure Digits where
  digits : Nat
  exponent : Int
  deriving DecidableEq, Repr

/-- What is rounded to one positive double: everything between `low` and `high` in units of
`unitNum / unitDen`, the ends included only if `closed` holds. The double itself is `value`. -/
structure Interval where
  low : Nat
  value : Nat
  high : Nat
  unitNum : Nat
  unitDen : Nat
  closed : Bool

namespace Interval

/-- What is rounded to `significand * 2 ^ exponent`. A unit is a quarter of the last place, since
below a power of two the next double is only half as far away. -/
def around (significand : Nat) (exponent : Int) : Interval :=
  let narrow := significand == Nat.pow 2 Binary.fractionBits && exponent != Binary.leastExponent
  { low := if narrow then 4 * significand - 1 else 4 * significand - 2
    value := 4 * significand
    high := 4 * significand + 2
    unitNum := Nat.pow 2 (exponent - 2).toNat
    unitDen := Nat.pow 2 (2 - exponent).toNat
    closed := significand % 2 == 0 }

/-- A number of units over a power of ten, as a quotient. -/
def scaled (interval : Interval) (units : Nat) (power : Int) : Nat × Nat :=
  (units * interval.unitNum * Nat.pow 10 (-power).toNat,
    interval.unitDen * Nat.pow 10 power.toNat)

/-- Whether a multiple of a power of ten lies in the interval. -/
def holds (interval : Interval) (multiple : Nat) (power : Int) : Bool :=
  let (low, unit) := interval.scaled interval.low power
  let (high, _) := interval.scaled interval.high power
  if interval.closed then low ≤ multiple * unit && multiple * unit ≤ high
  else low < multiple * unit && multiple * unit < high

/-- The multiple of a power of ten that lies in the interval: the nearer one of the two next to
the double, of two that are equally near the even one. -/
def multipleAt? (interval : Interval) (power : Int) : Option Nat :=
  let (value, unit) := interval.scaled interval.value power
  let below := value / unit
  let rest := value % unit
  let nearer := if 2 * rest < unit || (2 * rest == unit && below % 2 == 0) then below else below + 1
  let farther := if nearer == below then below + 1 else below
  if interval.holds nearer power then some nearer
  else if interval.holds farther power then some farther
  else none

/-- The multiple of the highest power of ten with one, from `power` downwards. -/
def search (interval : Interval) : Nat → Int → Digits
  | 0, power => ⟨0, power⟩
  | steps + 1, power =>
    match interval.multipleAt? power with
    | some multiple => ⟨multiple, power⟩
    | none => search interval steps (power - 1)

end Interval

/-- The decimal of the fewest digits that is rounded to `significand * 2 ^ exponent`. Its power of
ten is at most the largest double's and no less than the smallest one's. -/
def shortest (significand : Nat) (exponent : Int) : Digits :=
  if significand == 0 then ⟨0, 0⟩ else (Interval.around significand exponent).search 640 308

end Codebook.Decimal
