import Codebook.Text

/-!
# Names outside ASCII

A part of a host's name that has characters outside ASCII is written with ASCII alone: first its
ASCII characters as they are, then where the others stand. These are taken from the lowest up, each
as the number of steps that a reader makes over possible places and characters since the last one.
The number is written in base 36, from its lowest digit up, and how large a last digit may be
adapts to the numbers that came before.
-/

namespace Codebook.Punycode

/-- The character of a digit. -/
def digitChar (d : Nat) : Char := Char.ofNat (if d < 26 then 'a'.toNat + d else '0'.toNat + d - 26)

/-- The bound below which the digit at a place is the last one. -/
def threshold (bias place : Nat) : Nat :=
  if place ≤ bias then 1 else if bias + 26 ≤ place then 26 else place - bias

theorem one_le_threshold (bias place : Nat) : 1 ≤ threshold bias place := by
  unfold threshold
  split
  · exact Nat.le_refl 1
  · split <;> omega

/-- The digits of a number, from a place on. -/
def digits (bias place n : Nat) : Text :=
  let t := threshold bias place
  if n < t then [digitChar n]
  else digitChar (t + (n - t) % (36 - t)) :: digits bias (place + 36) ((n - t) / (36 - t))
termination_by n
decreasing_by
  have hpos := one_le_threshold bias place
  have hle := Nat.div_le_self (n - threshold bias place) (36 - threshold bias place)
  omega

/-- The bias for a number that has been made smaller, from a place on. -/
def settle (n place : Nat) : Nat :=
  if 455 < n then settle (n / 35) (place + 36) else place + 36 * n / (n + 38)
termination_by n
decreasing_by exact Nat.div_lt_self (by omega) (by omega)

/-- The bias behind a number, when so many characters have been written. -/
def adapt (n written : Nat) (isFirst : Bool) : Nat :=
  let damped := if isFirst then n / 700 else n / 2
  settle (damped + damped / written) 0

/-- How far writing has come: the digits so far, the steps since the last character, the bias, and
how many characters have been written. -/
structure State where
  digits : Text
  steps : Nat
  bias : Nat
  written : Nat

/-- One character of the name is passed when it is the turn of the characters `turn`. -/
def State.pass (ascii turn : Nat) (state : State) (c : Char) : State :=
  if c.toNat < turn then { state with steps := state.steps + 1 }
  else if c.toNat = turn then {
    digits := state.digits ++ Punycode.digits state.bias 36 state.steps
    steps := 0
    bias := adapt state.steps (state.written + 1) (state.written == ascii)
    written := state.written + 1 }
  else state

/-- All characters of the name are passed once for each of the turns, of which `next` could be the
first. -/
def State.run (name : Text) (ascii : Nat) : Nat → List Nat → State → State
  | _, [], state => state
  | next, turn :: turns, state =>
    let state := { state with steps := state.steps + (turn - next) * (state.written + 1) }
    let state := name.foldl (State.pass ascii turn) state
    State.run name ascii (turn + 1) turns { state with steps := state.steps + 1 }

/-- A number among others that ascend. -/
def insertTurn (n : Nat) : List Nat → List Nat
  | [] => [n]
  | m :: rest =>
    if n < m then n :: m :: rest
    else if n = m then m :: rest
    else m :: insertTurn n rest

/-- The characters outside ASCII from the lowest up, each once. -/
def turns (name : Text) : List Nat :=
  ((name.map Char.toNat).filter (128 ≤ ·)).foldr insertTurn []

/-- The name in ASCII. -/
def encode (name : Text) : Text :=
  let ascii := name.filter (·.toNat < 128)
  let state := State.run name ascii.length 128 (turns name) ⟨[], 0, 72, ascii.length⟩
  ascii ++ (if ascii.isEmpty then [] else ['-']) ++ state.digits

end Codebook.Punycode
