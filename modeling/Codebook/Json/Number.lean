import Codebook.Json.Fault

/-!
# Numbers

A catalog holds no numbers, but one that stands where a description or the object should be is
read to its end and named in the message. Its digits make up a significand of at most 64 bits and
a power of ten: digits of the whole part that no longer fit raise the power, digits of the
fraction that do not fit are dropped. Integers of 64 bits stay exact, with or without a sign, and
everything else becomes a double.
-/

namespace Codebook.Json.Number

/-- Whether a byte is a decimal digit. -/
def isDigit (b : UInt8) : Bool := 48 ≤ b && b ≤ 57

/-- The value of a decimal digit. -/
def digitValue (b : UInt8) : Nat := b.toNat - 48

/-- The largest significand. -/
def maxSignificand : Nat := 0xFFFFFFFFFFFFFFFF

/-- The significand with as many of the digits behind it as fit, and how many these are. -/
def absorb (significand : Nat) : Bytes → Nat × Nat
  | [] => (significand, 0)
  | b :: rest =>
    let next := significand * 10 + digitValue b
    if next ≤ maxSignificand then
      let (all, used) := absorb next rest
      (all, used + 1)
    else (significand, 0)

/-- The number `significand * 10 ^ exponent`. -/
structure Scaled where
  significand : Nat
  exponent : Int

/-- The largest power of ten that is a double. -/
def largestPower : Nat := 308

/-- A power of ten as a double. -/
def powerOfTen (n : Nat) : Float := Float.ofScientific 1 false n

/-- The double next to a number, in steps that are rounded each: very small numbers are divided by
the largest power of ten first. There is none for a number beyond the largest double. -/
def scale (x : Float) (exponent : Int) : Option Float :=
  if exponent < -largestPower then
    if x == 0 then some x else scale (x / powerOfTen largestPower) (exponent + largestPower)
  else if exponent < 0 then some (x / powerOfTen (-exponent).toNat)
  else if exponent ≤ largestPower then
    let y := x * powerOfTen exponent.toNat
    if y.isInf then none else some y
  else if x == 0 then some x else none
termination_by (-exponent).toNat
decreasing_by simp only [largestPower] at *; omega

/-- The double that digits with a power of ten write. -/
def toFloat (negative : Bool) (number : Scaled) (rest : Bytes) : Except Fault (Found × Bytes) :=
  match scale (Float.ofNat number.significand) number.exponent with
  | some x => .ok (.float (if negative then -x else x), rest)
  | none => .error (.before .numberOutOfRange rest)

/-! ## The exponent -/

/-- The largest exponent that is read. -/
def maxExponent : Nat := 0x7FFFFFFF

/-- The exponent that some digits write, or what stands behind the digit that makes it too large. -/
def exponentValue (acc : Nat) : Bytes → Except Bytes (Nat × Bytes)
  | [] => .ok (acc, [])
  | b :: rest =>
    if isDigit b then
      let next := acc * 10 + digitValue b
      if next ≤ maxExponent then exponentValue next rest else .error rest
    else .ok (acc, b :: rest)

/-- The number with the exponent that follows its `e`. An exponent that is too large makes the
number zero if it is negative, or if the digits are all zeros. -/
def withExponent (negative : Bool) (number : Scaled) (bs : Bytes) :
    Except Fault (Found × Bytes) :=
  let (down, bs) :=
    match bs with
    | 43 :: rest => (false, rest)
    | 45 :: rest => (true, rest)
    | _ => (false, bs)
  match bs with
  | [] => .error (.atEnd .endInValue)
  | b :: rest =>
    if isDigit b then
      match exponentValue 0 (b :: rest) with
      | .ok (exponent, rest) =>
        let exponent : Int := if down then -exponent else exponent
        toFloat negative ⟨number.significand, number.exponent + exponent⟩ rest
      | .error rest =>
        if number.significand != 0 && !down then .error (.before .numberOutOfRange rest)
        else .ok (.float (if negative then -0.0 else 0.0), rest.dropWhile isDigit)
    else .error (.before .invalidNumber rest)

/-! ## The digits -/

/-- Whether an exponent comes next. -/
def startsExponent (b : UInt8) : Bool := b == 101 || b == 69

/-- The number with the fraction that follows its point. -/
def withFraction (negative : Bool) (number : Scaled) (bs : Bytes) :
    Except Fault (Found × Bytes) :=
  let digits := bs.takeWhile isDigit
  let rest := bs.dropWhile isDigit
  if digits.isEmpty then
    if bs.isEmpty then .error (.atEnd .endInValue) else .error (.next .invalidNumber bs)
  else
    let (significand, used) := absorb number.significand digits
    let number : Scaled := ⟨significand, number.exponent - used⟩
    match rest with
    | [] => toFloat negative number []
    | b :: behind =>
      if startsExponent b then withExponent negative number behind
      else toFloat negative number rest

/-- An integer, if 64 bits hold it; a zero with a sign is a double, which keeps the sign. -/
def ofInteger (negative : Bool) (significand : Nat) : Found :=
  if negative then
    if significand == 0 || 0x8000000000000000 < significand then .float (-Float.ofNat significand)
    else .integer (-significand)
  else .integer significand

/-- The number behind its sign, and what follows it. -/
def read (negative : Bool) (bs : Bytes) : Except Fault (Found × Bytes) :=
  let digits := bs.takeWhile isDigit
  let rest := bs.dropWhile isDigit
  match digits with
  | [] =>
    if bs.isEmpty then .error (.atEnd .endInValue) else .error (.next .invalidNumber bs)
  | first :: more =>
    if first == 48 && !more.isEmpty then .error (.before .invalidNumber (bs.drop 2))
    else
      let (significand, used) := absorb 0 digits
      let number : Scaled := ⟨significand, digits.length - used⟩
      match rest with
      | 46 :: behind => withFraction negative number behind
      | b :: behind =>
        if startsExponent b then withExponent negative number behind
        else if used == digits.length then .ok (ofInteger negative significand, rest)
        else toFloat negative number rest
      | [] =>
        if used == digits.length then .ok (ofInteger negative significand, rest)
        else toFloat negative number rest

end Codebook.Json.Number
