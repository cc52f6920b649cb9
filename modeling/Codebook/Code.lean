import Codebook.Text.Numeral

/-!
# Error codes

A code is an integer that a signed 64-bit word holds. It is written in decimal digits, and read
from digits with at most one sign in front; zeros in front of the digits mean nothing, so `7`,
`+7` and `007` are one code.
-/

namespace Codebook

/-- An integer that a signed 64-bit word holds. -/
structure Code where
  value : Int
  lower : -0x8000000000000000 ≤ value
  upper : value < 0x8000000000000000
  deriving DecidableEq

/-- Why a text is no code. -/
inductive CodeError where
  /-- There is nothing to read. -/
  | empty
  /-- A character that is no decimal digit. -/
  | invalidDigit
  /-- The digits read so far are above the largest code. -/
  | tooLarge
  /-- The digits read so far, negated, are below the smallest code. -/
  | tooSmall
  deriving DecidableEq, Repr

/-- The reason in words. -/
def CodeError.message : CodeError → Text
  | .empty => "cannot parse integer from empty string".toList
  | .invalidDigit => "invalid digit found in string".toList
  | .tooLarge => "number too large to fit in target type".toList
  | .tooSmall => "number too small to fit in target type".toList

namespace Code

/-- The code with a value, if there is one. -/
def ofInt? (n : Int) : Option Code :=
  if h : -0x8000000000000000 ≤ n ∧ n < 0x8000000000000000 then some ⟨n, h.1, h.2⟩ else none

/-- A code in decimal digits. -/
def toText (code : Code) : Text := Text.ofInt code.value

/-- The value of decimal digits behind those that make up `acc`. The number may not pass `limit`
at any digit; `overflow` is what is wrong when it does. -/
def readDigits (limit : Nat) (overflow : CodeError) (acc : Nat) (hacc : acc ≤ limit) :
    Text → Except CodeError { n : Nat // n ≤ limit }
  | [] => .ok ⟨acc, hacc⟩
  | c :: rest =>
    if c.isDigit then
      let next := acc * 10 + (c.toNat - '0'.toNat)
      if hnext : next ≤ limit then readDigits limit overflow next hnext rest
      else .error overflow
    else .error .invalidDigit

/-- The code whose absolute value the digits write. -/
def ofDigits (digits : Text) : Except CodeError Code :=
  (readDigits 0x7FFFFFFFFFFFFFFF .tooLarge 0 (by omega) digits).map fun n =>
    ⟨n.val, by omega, by have := n.property; omega⟩

/-- The code whose negation the digits write. -/
def ofNegatedDigits (digits : Text) : Except CodeError Code :=
  (readDigits 0x8000000000000000 .tooSmall 0 (by omega) digits).map fun n =>
    ⟨-(n.val : Int), by have := n.property; omega, by omega⟩

/-- The code that a text writes: digits, after one sign at most. -/
def parse : Text → Except CodeError Code
  | [] => .error .empty
  | ['+'] | ['-'] => .error .invalidDigit
  | '+' :: digits => ofDigits digits
  | '-' :: digits => ofNegatedDigits digits
  | digits => ofDigits digits

end Code

end Codebook
