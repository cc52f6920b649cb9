import Codebook.Json.Fault
import Codebook.Utf8

/-!
# Strings between quotes

A string is read in two steps. `body` scans it byte by byte up to the closing quote and replaces
its escapes by the bytes that they stand for; `read` then takes the bytes for UTF-8. So a string
that is not UTF-8 is found out at its closing quote, behind all faults of its escapes.
-/

namespace Codebook.Json.StringLiteral

/-- The byte `"`. -/
def quote : UInt8 := 34

/-- The byte `\`. -/
def backslash : UInt8 := 92

/-- The byte `u`. -/
def letterU : UInt8 := 117

/-- The byte that a one-letter escape stands for. -/
def simpleEscape? (letter : UInt8) : Option UInt8 :=
  [(34, 34), (92, 92), (47, 47), (98, 8), (102, 12), (110, 10), (114, 13), (116, 9)].lookup letter

/-- The value of a hexadecimal digit, in letters of either case. -/
def hexDigit? (b : UInt8) : Option Nat :=
  let n := b.toNat
  if 48 ≤ n ∧ n ≤ 57 then some (n - 48)
  else if 65 ≤ n ∧ n ≤ 70 then some (n - 55)
  else if 97 ≤ n ∧ n ≤ 102 then some (n - 87)
  else none

/-- The number that four hexadecimal digits write. -/
def hexNumber? (a b c d : UInt8) : Option Nat := do
  return (((← hexDigit? a) * 16 + (← hexDigit? b)) * 16 + (← hexDigit? c)) * 16 + (← hexDigit? d)

/-- The number of an escape, and what follows its four digits. -/
def hexEscape : Bytes → Except Fault (Nat × Bytes)
  | a :: b :: c :: d :: rest =>
    match hexNumber? a b c d with
    | some n => .ok (n, rest)
    | none => .error (.before .invalidEscape rest)
  | _ => .error (.atEnd .endInString)

/-- The first halves of pairs. -/
def isLeading (n : Nat) : Bool := 0xD800 ≤ n && n ≤ 0xDBFF

/-- The second halves of pairs. -/
def isTrailing (n : Nat) : Bool := 0xDC00 ≤ n && n ≤ 0xDFFF

/-- The character of a pair of halves. -/
def pairChar (leading trailing : Nat) : Char :=
  Char.ofNat ((leading - 0xD800) * 1024 + (trailing - 0xDC00) + 0x10000)

/-- What follows a byte that has to stand next inside a pair of escapes. -/
def afterPairByte (expected : UInt8) : Bytes → Except Fault Bytes
  | [] => .error (.atEnd .endInString)
  | b :: rest => if b = expected then .ok rest else .error (.before .unexpectedEndOfEscape rest)

/-- The bytes of the character whose number follows, or of the pair of numbers. -/
def unicodeEscape (bs : Bytes) : Except Fault (Bytes × Bytes) := do
  let (n, rest) ← hexEscape bs
  if isTrailing n then .error (.before .loneSurrogate rest)
  else if isLeading n then
    let rest ← afterPairByte backslash rest
    let rest ← afterPairByte letterU rest
    let (m, rest) ← hexEscape rest
    if isTrailing m then .ok (Utf8.encodeChar (pairChar n m), rest)
    else .error (.before .loneSurrogate rest)
  else .ok (Utf8.encodeChar (Char.ofNat n), rest)

/-- The bytes that an escape stands for, behind its backslash. -/
def escape : Bytes → Except Fault (Bytes × Bytes)
  | [] => .error (.atEnd .endInString)
  | letter :: rest =>
    match simpleEscape? letter with
    | some b => .ok ([b], rest)
    | none => if letter = letterU then unicodeEscape rest else .error (.before .invalidEscape rest)

/-! ## An escape is not empty -/

theorem length_lt_of_hexEscape {bs rest : Bytes} {n : Nat} (h : hexEscape bs = .ok (n, rest)) :
    rest.length < bs.length := by
  unfold hexEscape at h
  split at h
  · split at h
    · simp only [Except.ok.injEq, Prod.mk.injEq] at h
      simp only [← h.2, List.length_cons]; omega
    · simp at h
  · simp at h

theorem length_lt_of_afterPairByte {expected : UInt8} {bs rest : Bytes}
    (h : afterPairByte expected bs = .ok rest) : rest.length < bs.length := by
  unfold afterPairByte at h
  split at h
  · simp at h
  · split at h
    · simp only [Except.ok.injEq] at h
      simp [← h]
    · simp at h

theorem length_lt_of_unicodeEscape {bs piece rest : Bytes}
    (h : unicodeEscape bs = .ok (piece, rest)) : rest.length < bs.length := by
  simp only [unicodeEscape, bind, Except.bind] at h
  split at h
  · simp at h
  · next r hfirst =>
    -- each of the steps that an escape takes leaves less behind
    have hlt := length_lt_of_hexEscape hfirst
    split at h
    · simp at h
    · split at h
      · split at h
        · simp at h
        · next r₁ hslash =>
          have h₁ := length_lt_of_afterPairByte hslash
          split at h
          · simp at h
          · next r₂ hu =>
            have h₂ := length_lt_of_afterPairByte hu
            split at h
            · simp at h
            · next r₃ hsecond =>
              have h₃ := length_lt_of_hexEscape hsecond
              split at h
              · simp only [Except.ok.injEq, Prod.mk.injEq] at h
                rw [← h.2]; omega
              · simp at h
      · simp only [Except.ok.injEq, Prod.mk.injEq] at h
        rw [← h.2]; omega

theorem length_lt_of_escape {bs piece rest : Bytes} (h : escape bs = .ok (piece, rest)) :
    rest.length < bs.length := by
  unfold escape at h
  split at h
  · simp at h
  · split at h
    · simp only [Except.ok.injEq, Prod.mk.injEq] at h
      simp [← h.2]
    · split at h
      · have := length_lt_of_unicodeEscape h
        simp only [List.length_cons]; omega
      · simp at h

/-! ## The whole string -/

/-- The bytes of a string up to its closing quote, and what follows the quote. -/
def body (bs : Bytes) : Except Fault (Bytes × Bytes) :=
  match bs with
  | [] => .error (.atEnd .endInString)
  | b :: rest =>
    if b = quote then .ok ([], rest)
    else if b = backslash then
      match h : escape rest with
      | .error fault => .error fault
      | .ok (piece, rest') =>
        have : rest'.length < rest.length := length_lt_of_escape h
        (body rest').map fun (bytes, behind) => (piece ++ bytes, behind)
    else if b < 32 then .error (.before .controlCharacter rest)
    else (body rest).map fun (bytes, behind) => (b :: bytes, behind)
termination_by bs.length

/-- What a mapped result comes from. -/
theorem map_eq_ok {α β : Type} {f : α → β} {r : Except Fault α} {b : β}
    (h : r.map f = .ok b) : ∃ a, r = .ok a ∧ f a = b := by
  cases r with
  | error => simp [Except.map] at h
  | ok a => exact ⟨a, rfl, by simpa [Except.map] using h⟩

/-- A string has a closing quote. -/
theorem length_lt_of_body {bs bytes rest : Bytes} (h : body bs = .ok (bytes, rest)) :
    rest.length < bs.length := by
  fun_induction body bs generalizing bytes with
  | case1 => simp at h
  | case2 => simp_all
  | case3 => simp at h
  -- an escape, and below it a byte that stands for itself
  | case4 r piece r' hescape hlt _ ih =>
    obtain ⟨p, hbody, hp⟩ := map_eq_ok h
    simp only [Prod.mk.injEq] at hp
    have hbody : body r' = .ok (p.1, rest) := by rw [hbody, ← hp.2]
    have := ih hbody
    simp only [List.length_cons]; omega
  | case5 => simp at h
  | case6 b r _ _ _ ih =>
    obtain ⟨p, hbody, hp⟩ := map_eq_ok h
    simp only [Prod.mk.injEq] at hp
    have hbody : body r = .ok (p.1, rest) := by rw [hbody, ← hp.2]
    have := ih hbody
    simp only [List.length_cons]; omega

/-- The text of a string behind its opening quote, and what follows the closing one. A string that
is not UTF-8 is reported as far in front of the quote's end as its bytes reach beyond the last
whole character. -/
def read (bs : Bytes) : Except Fault (Text × Bytes) := do
  let (bytes, rest) ← body bs
  match Utf8.decode? bytes with
  | some text => .ok (text, rest)
  | none =>
    .error ⟨.invalidUnicode, rest.length + (bytes.length - Utf8.validLength bytes)⟩

theorem length_lt_of_read {bs rest : Bytes} {text : Text} (h : read bs = .ok (text, rest)) :
    rest.length < bs.length := by
  simp only [read, bind, Except.bind] at h
  split at h
  · simp at h
  · next p hbody =>
    split at h
    · simp only [Except.ok.injEq, Prod.mk.injEq] at h
      rw [← h.2]
      exact length_lt_of_body hbody
    · simp at h

end Codebook.Json.StringLiteral
