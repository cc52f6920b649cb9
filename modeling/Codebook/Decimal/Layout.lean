import Codebook.Decimal.Shortest
import Codebook.Text.Numeral

/-!
# Writing a floating-point number

The digits of a number are its shortest ones. How they are laid out differs from one place to the
next: a `Layout` says for which magnitudes the point stands where it belongs, and how the power of
ten is written for the others. A whole number always has `.0` behind it, unless it has a power of
ten.
-/

namespace Codebook.Decimal

/-- How the digits of a number are laid out. -/
structure Layout where
  /-- Whether a number whose first digit counts this power of ten has no exponent. -/
  positional : Int → Bool
  /-- Whether an exponent that is not negative has a sign. -/
  plusSign : Bool

/-- Every number is written out in full. -/
def Layout.full : Layout := ⟨fun _ => true, false⟩

/-- The digits with a point behind the first and a power of ten behind the last. -/
def scientific (layout : Layout) (digits : Text) (leading : Int) : Text :=
  let fraction := digits.drop 1
  let sign := if layout.plusSign && 0 ≤ leading then ['+'] else []
  digits.take 1 ++ (if fraction.isEmpty then [] else '.' :: fraction)
    ++ 'e' :: sign ++ Text.ofInt leading

/-- The digits with the point where it belongs, and zeros up to there. -/
def positional (digits : Text) (leading : Int) : Text :=
  if leading < 0 then
    '0' :: '.' :: List.replicate (-leading - 1).toNat '0' ++ digits
  else
    let whole := leading.toNat + 1
    let fraction := digits.drop whole
    digits.take whole ++ List.replicate (whole - digits.length) '0' ++ '.'
      :: (if fraction.isEmpty then ['0'] else fraction)

/-- A positive decimal number, or zero. -/
def Digits.toText (layout : Layout) (decimal : Digits) : Text :=
  let digits := Text.ofNat decimal.digits
  let leading := decimal.exponent + digits.length - 1
  if decimal.digits == 0 || layout.positional leading then positional digits leading
  else scientific layout digits leading

/-- A number in its shortest digits. -/
def Binary.toText (layout : Layout) : Binary → Text
  | .nan => "NaN".toList
  | .infinite negative => if negative then "-inf".toList else "inf".toList
  | .finite negative significand exponent =>
    let magnitude := (shortest significand exponent).toText layout
    if negative then '-' :: magnitude else magnitude

/-- A double in the shortest digits that read back. -/
def ofFloat (layout : Layout) (x : Float) : Text := (Binary.ofFloat x).toText layout

end Codebook.Decimal
