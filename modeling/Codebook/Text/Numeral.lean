import Codebook.Text

/-!
# Whole numbers in digits

Numbers are written in decimal digits, and read in any base up to sixteen.
-/

namespace Codebook.Text

/-- A natural number in decimal digits, without zeros in front. -/
def ofNat (n : Nat) : Text := Nat.toDigits 10 n

/-- An integer in decimal digits, with a hyphen in front of a negative one. -/
def ofInt (n : Int) : Text :=
  match n with
  | .ofNat n => ofNat n
  | .negSucc n => '-' :: ofNat (n + 1)

/-- The number that a digit stands for, where letters go on behind the nine. -/
def digit? (c : Char) : Option Nat :=
  if c.isDigit then some (c.toNat - '0'.toNat)
  else if 'a' ≤ c.toLower && c.toLower ≤ 'f' then some (c.toLower.toNat - 'a'.toNat + 10)
  else none

/-- The number that digits write in a base, if they are all digits of it. -/
def digitsValue? (base : Nat) (digits : Text) : Option Nat :=
  if digits.isEmpty then none
  else
    digits.foldlM (fun acc c =>
      (digit? c).bind fun digit => if digit < base then some (acc * base + digit) else none) 0

end Codebook.Text
