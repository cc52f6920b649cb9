import Codebook.Decimal.Nearest
import Codebook.Text.Numeral
import Codebook.Template.Token

/-!
# Words, numbers and strings inside tags

How far a word, a number or a string reaches, and what it stands for. Each reader takes at least
one character, which `length_le_of_*` and `length_lt_of_*` say.
-/

namespace Codebook.Template

/-! ## Words -/

/-- The characters that a word starts with. -/
def startsWord (c : Char) : Bool := c.isAlpha || c == '_'

/-- The characters that a word goes on with. -/
def continuesWord (c : Char) : Bool := c.isAlphanum || c == '_'

/-! ## Numbers -/

/-- The part of a number that reading has come to. -/
inductive NumberPart where
  | whole
  | fraction
  | exponentStart
  | exponent
  deriving DecidableEq, Repr

/-- The part of a decimal number that a character belongs to, if it belongs to it at all. -/
def NumberPart.next? (part : NumberPart) (c : Char) : Option NumberPart :=
  if c.isDigit then some (if part = .exponentStart then .exponent else part)
  else if c == '_' then some part
  else
    match part, c with
    | .whole, '.' => some .fraction
    | .whole, 'e' | .whole, 'E' | .fraction, 'e' | .fraction, 'E' => some .exponentStart
    | .exponentStart, '+' | .exponentStart, '-' => some .exponent
    | _, _ => none

/-- Whether a number goes on with a character. A point belongs to it only in front of a digit. -/
def goesOn (c : Char) (rest : Text) : Bool := c != '.' || rest.head?.any Char.isDigit

/-- The characters of a decimal number, the part that it ends in, and what follows. -/
def decimalBody (part : NumberPart) : Text → Text × NumberPart × Text
  | [] => ([], part, [])
  | c :: rest =>
    match if goesOn c rest then part.next? c else none with
    | some part =>
      let (body, last, behind) := decimalBody part rest
      (c :: body, last, behind)
    | none => ([], part, c :: rest)

/-- The largest integer that a template can write. -/
def maxInteger : Nat := 0xFFFFFFFFFFFFFFFFFFFFFFFFFFFFFFFF

/-- The token of an integer. -/
def integerToken (base : Nat) (digits : Text) : Token :=
  match Text.digitsValue? base digits with
  | some n => if n ≤ maxInteger then .integer n else .fault
  | none => .fault

/-- The token of a number with a point or an exponent. -/
def floatToken (body : Text) : Token :=
  let mantissa := body.takeWhile fun c => c.isDigit || c == '.'
  let whole := mantissa.takeWhile (·.isDigit)
  let fraction := (mantissa.dropWhile (·.isDigit)).drop 1
  let power := (body.dropWhile fun c => c.isDigit || c == '.').drop 1
  let exponent? : Option Int :=
    match power with
    | [] => if body.length = mantissa.length then some 0 else none
    | '+' :: digits => (Text.digitsValue? 10 digits).map Int.ofNat
    | '-' :: digits => (Text.digitsValue? 10 digits).map fun n => -(n : Int)
    | digits => (Text.digitsValue? 10 digits).map Int.ofNat
  match Text.digitsValue? 10 (whole ++ fraction), exponent? with
  | some digits, some exponent =>
    .float (Decimal.Digits.toFloat ⟨digits, exponent - fraction.length⟩)
  | _, _ => .fault

/-- The digits without the underscores that group them, of which the last may not be one. -/
def ungrouped? (body : Text) : Option Text :=
  if body.getLast? = some '_' then none else some (body.filter (· != '_'))

/-- The base that a letter behind a leading zero stands for. -/
def base? (letter : Char) : Option Nat :=
  [('b', 2), ('B', 2), ('o', 8), ('O', 8), ('x', 16), ('X', 16)].lookup letter

/-- The token of a number in a base other than ten, behind its letter, and what follows. -/
def basedNumber (base : Nat) (cs : Text) : Token × Text :=
  let belongs := fun c : Char =>
    c.isDigit || c == '_' || (base == 16 && 'a' ≤ c.toLower && c.toLower ≤ 'f')
  match ungrouped? (cs.takeWhile belongs) with
  | some digits => (integerToken base digits, cs.dropWhile belongs)
  | none => (.fault, cs.dropWhile belongs)

/-- The token of a decimal number, and what follows. -/
def decimalNumber (cs : Text) : Token × Text :=
  let (body, part, rest) := decimalBody .whole cs
  match ungrouped? body with
  | none => (.fault, rest)
  | some digits =>
    if part = .whole then (integerToken 10 digits, rest) else (floatToken digits, rest)

/-- The token of the number that starts with a digit, and what follows. -/
def number (cs : Text) : Token × Text :=
  match cs with
  | '0' :: letter :: rest =>
    match base? letter with
    | some base => basedNumber base rest
    | none => decimalNumber cs
  | _ => decimalNumber cs

/-! ## Strings -/

/-- What stands between the quotes of a string, and what follows the closing one. A backslash
protects the character behind it. -/
def stringBody (quote : Char) : Text → Option (Text × Text)
  | [] => none
  | '\\' :: c :: rest =>
    (stringBody quote rest).map fun (body, behind) => ('\\' :: c :: body, behind)
  | c :: rest =>
    if c = quote then some ([], rest)
    else (stringBody quote rest).map fun (body, behind) => (c :: body, behind)

/-- The pieces of a string: characters, and the numbers of escapes, two of which may make up one
character. -/
inductive StringPiece where
  | char (c : Char)
  | number (n : Nat)

/-- The character that a one-letter escape stands for. -/
def letterEscape? (letter : Char) : Option Char :=
  [('"', '"'), ('\\', '\\'), ('/', '/'), ('\'', '\''), ('b', '\x08'), ('f', '\x0c'), ('n', '\n'),
    ('r', '\r'), ('t', '\t')].lookup letter

/-- The pieces of what stands between quotes. -/
def stringPieces : Text → Option (List StringPiece)
  | [] => some []
  | '\\' :: 'u' :: a :: b :: c :: d :: rest => do
    let n ← Text.digitsValue? 16 [a, b, c, d]
    let pieces ← stringPieces rest
    return .number n :: pieces
  | '\\' :: letter :: rest => do
    let c ← letterEscape? letter
    let pieces ← stringPieces rest
    return .char c :: pieces
  | c :: rest => do
    if c = '\\' then none
    let pieces ← stringPieces rest
    return .char c :: pieces

/-- The text of the pieces. Numbers of halves come in pairs only. -/
def joinPieces : List StringPiece → Option Text
  | [] => some []
  | .char c :: rest => (joinPieces rest).map (c :: ·)
  | .number n :: rest =>
    if n < 0xD800 || 0xDFFF < n then (joinPieces rest).map (Char.ofNat n :: ·)
    else
      match rest with
      | .number m :: rest =>
        if n < 0xDC00 && 0xDC00 ≤ m && m ≤ 0xDFFF then
          (joinPieces rest).map
            (Char.ofNat ((n - 0xD800) * 1024 + (m - 0xDC00) + 0x10000) :: ·)
        else none
      | _ => none

/-- The token of what stands between quotes. -/
def stringToken (body : Text) : Token :=
  match (stringPieces body).bind joinPieces with
  | some text => .text text
  | none => .fault

/-! ## Nothing is read twice -/

theorem length_le_decimalBody (part : NumberPart) (cs : Text) :
    (decimalBody part cs).2.2.length ≤ cs.length := by
  induction cs generalizing part with
  | nil => simp [decimalBody]
  | cons c rest ih =>
    simp only [decimalBody]
    split
    · next next _ => exact Nat.le_succ_of_le (ih next)
    · simp

theorem length_lt_decimalNumber {c : Char} (hc : c.isDigit) (rest : Text) :
    (decimalNumber (c :: rest)).2.length < (c :: rest).length := by
  have hpoint : goesOn c rest = true := by
    simp only [goesOn, Bool.or_eq_true, bne_iff_ne, ne_eq]
    exact .inl fun heq => by rw [heq] at hc; exact absurd hc (by decide)
  have hnext : (if goesOn c rest then NumberPart.whole.next? c else none) = some .whole := by
    simp [hpoint, NumberPart.next?, hc]
  have hle := length_le_decimalBody .whole rest
  simp only [decimalNumber, decimalBody, hnext]
  generalize decimalBody .whole rest = read at hle
  split
  · exact Nat.lt_succ_of_le hle
  · split <;> exact Nat.lt_succ_of_le hle

theorem length_le_basedNumber (base : Nat) (cs : Text) :
    (basedNumber base cs).2.length ≤ cs.length := by
  simp only [basedNumber]
  split <;> exact (List.dropWhile_suffix _).length_le

/-- A number has a digit at least. -/
theorem length_lt_number {c : Char} (hc : c.isDigit) (rest : Text) :
    (number (c :: rest)).2.length < (c :: rest).length := by
  unfold number
  split
  · next letter behind heq =>
    obtain ⟨rfl, rfl⟩ := heq
    split
    · next base _ =>
      have := length_le_basedNumber base behind
      simp only [List.length_cons]; omega
    · exact length_lt_decimalNumber hc _
  · exact length_lt_decimalNumber hc _

/-- A string has a closing quote. -/
theorem length_lt_of_stringBody {quote : Char} {cs body behind : Text}
    (h : stringBody quote cs = some (body, behind)) : behind.length < cs.length := by
  fun_induction stringBody quote cs generalizing body with
  | case1 => simp at h
  | case2 c rest ih =>
    obtain ⟨⟨body', behind'⟩, hrest, hpair⟩ := Option.map_eq_some_iff.1 h
    simp only [Prod.mk.injEq] at hpair
    have := ih (hpair.2 ▸ hrest)
    simp only [List.length_cons]; omega
  | case3 => simp_all
  | case4 c rest _ _ ih =>
    obtain ⟨⟨body', behind'⟩, hrest, hpair⟩ := Option.map_eq_some_iff.1 h
    simp only [Prod.mk.injEq] at hpair
    have := ih (hpair.2 ▸ hrest)
    simp only [List.length_cons]; omega

end Codebook.Template
