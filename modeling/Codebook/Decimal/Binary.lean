/-!
# What a floating-point number stands for

A double is a natural number times a power of two, with a sign, or one of the few that stand for
no number. `Binary.ofFloat` reads this off the bits; what has to be exact about a double (its
digits, its remainder, whether it is a whole number) is computed from there in natural numbers.
-/

namespace Codebook.Decimal

/-- The number that a double stands for. -/
inductive Binary where
  /-- No number at all. -/
  | nan
  /-- Beyond all numbers, on one side. -/
  | infinite (negative : Bool)
  /-- `significand * 2 ^ exponent`, negated if `negative` holds. -/
  | finite (negative : Bool) (significand : Nat) (exponent : Int)
  deriving DecidableEq, Repr

namespace Binary

/-- The exponent of the smallest doubles. -/
def leastExponent : Int := -1074

/-- The bits below the exponent's. -/
def fractionBits : Nat := 52

/-- The number that a double stands for. -/
def ofFloat (x : Float) : Binary :=
  let bits : Nat := x.toBits.toNat
  let negative := bits / 0x8000000000000000 == 1
  let biased : Nat := bits / Nat.pow 2 fractionBits % 0x800
  let fraction : Nat := bits % Nat.pow 2 fractionBits
  if biased == 0 then .finite negative fraction leastExponent
  else if biased == 2047 then if fraction == 0 then .infinite negative else .nan
  else .finite negative (Nat.pow 2 fractionBits + fraction) (leastExponent + biased - 1)

/-- The integer that the number is, if it is one. -/
def toInt? : Binary → Option Int
  | .finite negative significand exponent =>
    let magnitude? : Option Nat :=
      match exponent with
      | .ofNat e => some (significand * Nat.pow 2 e)
      | .negSucc e =>
        let divisor := Nat.pow 2 (e + 1)
        if significand % divisor == 0 then some (significand / divisor) else none
    magnitude?.map fun magnitude => if negative then -(magnitude : Int) else magnitude
  | _ => none

end Binary

end Codebook.Decimal
