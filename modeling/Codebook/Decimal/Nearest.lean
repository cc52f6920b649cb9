import Codebook.Decimal.Shortest

/-!
# Reading a decimal number

The double next to a decimal number, which is rounded once. Powers of ten that lead beyond all
doubles, or below the smallest, are not worked out.
-/

namespace Codebook.Decimal

/-- No double has a power of ten as large as this, and none as small as its negation. -/
def powerLimit : Nat := 400

/-- The double next to a decimal number; infinite beyond the largest, zero below the smallest. -/
def Digits.toFloat (decimal : Digits) : Float :=
  let count := (Nat.toDigits 10 decimal.digits).length
  if decimal.digits == 0 then 0.0
  else if decimal.exponent > powerLimit then 1.0 / 0.0
  else if decimal.exponent + count < -powerLimit then 0.0
  else if 0 ≤ decimal.exponent then
    Float.ofScientific decimal.digits false decimal.exponent.toNat
  else Float.ofScientific decimal.digits true (-decimal.exponent).toNat

end Codebook.Decimal
