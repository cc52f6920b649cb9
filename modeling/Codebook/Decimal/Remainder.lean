import Codebook.Decimal.Binary

/-!
# The remainder of a division of doubles

The remainder has the sign of the dividend and is exact: both numbers are multiples of the smaller
of their powers of two, so it is a remainder of natural numbers.
-/

namespace Codebook.Decimal

/-- The double `significand * 2 ^ exponent`. -/
def ofBinary (negative : Bool) (significand : Nat) (exponent : Int) : Float :=
  let magnitude := (Float.ofNat significand).scaleB exponent
  if negative then -magnitude else magnitude

/-- What is left of the first number when the second has been taken from it as often as it goes
in, towards zero. -/
def remainder (x y : Float) : Float :=
  match Binary.ofFloat x, Binary.ofFloat y with
  | .finite negative a e, .finite _ b f =>
    if b == 0 then 0.0 / 0.0
    else
      let exponent := min e f
      let dividend := a * Nat.pow 2 (e - exponent).toNat
      let divisor := b * Nat.pow 2 (f - exponent).toNat
      ofBinary negative (dividend % divisor) exponent
  | .finite .., .infinite _ => x
  | _, _ => 0.0 / 0.0

/-- The number without its fraction. -/
def truncate (x : Float) : Float := if x < 0 then x.ceil else x.floor

/-- How often the second number goes into the first, where the remainder is not negative. -/
def floorQuotient (x y : Float) : Float :=
  let quotient := truncate (x / y)
  if remainder x y < 0 then if y > 0 then quotient - 1 else quotient + 1 else quotient

end Codebook.Decimal
