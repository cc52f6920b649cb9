import Codebook.Proofs.Json.Grammar

/-!
# The string reader and the grammar

Each reader of a part of a string is compared with the phrase that it reads: it has a result exactly
where the bytes start with such a phrase, the result is what the phrase stands for, and what is left
is what follows the phrase. `read_eq_ok_iff` puts the parts together for a whole string.
-/

namespace Codebook.Json.StringLiteral

/-! ## Digits -/

theorem hexDigit?_eq_some_iff {b : UInt8} {n : Nat} : hexDigit? b = some n ↔ HexDigit b n := by
  constructor
  · intro h
    simp only [hexDigit?] at h
    -- the three ranges of digits, one behind the other
    split at h
    · obtain rfl := Option.some.inj h
      exact .decimal (by omega) (by show b.toNat = 48 + _; omega)
    · split at h
      · obtain rfl := Option.some.inj h
        rw [show b.toNat - 55 = 10 + (b.toNat - 65) by omega]
        exact .upper (by omega) (by show b.toNat = 65 + _; omega)
      · split at h
        · obtain rfl := Option.some.inj h
          rw [show b.toNat - 87 = 10 + (b.toNat - 97) by omega]
          exact .lower (by omega) (by show b.toNat = 97 + _; omega)
        · exact absurd h (by simp)
  · intro h
    simp only [hexDigit?]
    cases h with
    | decimal hlt hb =>
        have hb : b.toNat = 48 + n := hb
        rw [if_pos (by omega)]
        exact congrArg some (by omega)
    | @upper n hlt hb =>
        have hb : b.toNat = 65 + n := hb
        rw [if_neg (by omega), if_pos (by omega)]
        exact congrArg some (by omega)
    | @lower n hlt hb =>
        have hb : b.toNat = 97 + n := hb
        rw [if_neg (by omega), if_neg (by omega), if_pos (by omega)]
        exact congrArg some (by omega)

theorem hexNumber?_eq_some_iff {a b c d : UInt8} {n : Nat} :
    hexNumber? a b c d = some n ↔ FourDigits [a, b, c, d] n := by
  unfold hexNumber?
  simp only [Option.bind_eq_bind, Option.bind_eq_some_iff, Option.pure_def, Option.some.injEq,
    hexDigit?_eq_some_iff]
  constructor
  · intro h
    obtain ⟨i, hi, j, hj, k, hk, l, hl, rfl⟩ := h
    exact .mk hi hj hk hl
  · intro h
    cases h with
    | mk hi hj hk hl => exact ⟨_, hi, _, hj, _, hk, _, hl, rfl⟩

theorem hexEscape_eq_ok_iff {bs rest : Bytes} {n : Nat} :
    hexEscape bs = .ok (n, rest) ↔ ∃ digits, FourDigits digits n ∧ bs = digits ++ rest := by
  constructor
  · intro h
    unfold hexEscape at h
    -- four bytes, all of them digits
    split at h
    · split at h
      · rename_i a b c d rest' m hm
        simp only [Except.ok.injEq, Prod.mk.injEq] at h
        obtain ⟨rfl, rfl⟩ := h
        exact ⟨_, hexNumber?_eq_some_iff.mp hm, rfl⟩
      · exact absurd h (by simp)
    · exact absurd h (by simp)
  · intro h
    obtain ⟨digits, hd, rfl⟩ := h
    cases hd with
    | @mk a b c d i j k l hi hj hk hl =>
        show hexEscape (a :: b :: c :: d :: rest) = _
        have hn : hexNumber? a b c d = some (((i * 16 + j) * 16 + k) * 16 + l) :=
          hexNumber?_eq_some_iff.mpr (.mk hi hj hk hl)
        simp only [hexEscape, hn]

/-- Four digits write at most sixteen bits. -/
theorem FourDigits.lt {digits : Bytes} {n : Nat} (h : FourDigits digits n) : n < 0x10000 := by
  have hdigit : ∀ {b : UInt8} {i : Nat}, HexDigit b i → i < 16 := by
    intro b i hi
    cases hi <;> omega
  cases h with
  | mk hi hj hk hl =>
      have := hdigit hi; have := hdigit hj; have := hdigit hk; have := hdigit hl
      omega

/-! ## Escapes -/

theorem simpleEscape?_eq_some_iff {letter b : UInt8} :
    simpleEscape? letter = some b ↔ Shorthand letter b := by
  constructor
  · intro h
    obtain ⟨front, back, hlist, -⟩ := List.lookup_eq_some_iff.mp h
    have hmem : (letter, b) ∈ front ++ (letter, b) :: back := by simp
    rw [← hlist] at hmem
    simp only [List.mem_cons, Prod.mk.injEq, List.not_mem_nil, or_false] at hmem
    rcases hmem with ⟨rfl, rfl⟩ | ⟨rfl, rfl⟩ | ⟨rfl, rfl⟩ | ⟨rfl, rfl⟩ | ⟨rfl, rfl⟩ | ⟨rfl, rfl⟩ |
      ⟨rfl, rfl⟩ | ⟨rfl, rfl⟩
    all_goals constructor
  · intro h
    cases h <;> rfl

theorem afterPairByte_eq_ok_iff {expected : UInt8} {bs rest : Bytes} :
    afterPairByte expected bs = .ok rest ↔ bs = expected :: rest := by
  cases bs with
  | nil => simp [afterPairByte]
  | cons b more =>
      simp only [afterPairByte]
      split
      · rename_i hb
        rw [hb]
        simp
      · rename_i hb
        simp [hb]

/-- A number that is no half of a pair is that of a character. -/
theorem toNat_ofNat {n : Nat} (h : n < 0x110000) (hhalf : n < 0xD800 ∨ 0xDFFF < n) :
    (Char.ofNat n).toNat = n := by
  rw [Char.ofNat, dif_pos (hhalf.imp_right fun hlow => ⟨hlow, h⟩)]
  rfl

theorem toNat_not_half (c : Char) : c.toNat < 0xD800 ∨ 0xDFFF < c.toNat :=
  c.valid.imp_right And.left

theorem pairChar_toNat {n m : Nat} (hn : 0xD800 ≤ n) (hn' : n ≤ 0xDBFF) (hm : 0xDC00 ≤ m)
    (hm' : m ≤ 0xDFFF) :
    (pairChar n m).toNat = 0x10000 + (n - 0xD800) * 0x400 + (m - 0xDC00) := by
  unfold pairChar
  rw [toNat_ofNat (by omega) (by omega)]
  omega

/-- A half is followed by the other one, any other number is that of a character. -/
theorem piece_of_unicodeEscape {bs bytes rest : Bytes} (h : unicodeEscape bs = .ok (bytes, rest)) :
    ∃ s, Piece (backslash :: letterU :: s) bytes ∧ bs = s ++ rest := by
  simp only [unicodeEscape, Except.bind_eq_ok_iff, Prod.exists, hexEscape_eq_ok_iff] at h
  obtain ⟨n, more, ⟨digits, hdigits, rfl⟩, h⟩ := h
  have hlt := hdigits.lt
  split at h
  · exact absurd h (by simp)
  · rename_i htrailing
    simp only [isTrailing, Bool.and_eq_true, decide_eq_true_eq] at htrailing
    split at h
    · -- the first half of a pair: a second escape has to follow
      rename_i hleading
      simp only [isLeading, Bool.and_eq_true, decide_eq_true_eq] at hleading
      simp only [Except.bind_eq_ok_iff, afterPairByte_eq_ok_iff, Prod.exists,
        hexEscape_eq_ok_iff] at h
      obtain ⟨_, rfl, _, rfl, m, _, ⟨digits', hdigits', rfl⟩, h⟩ := h
      split at h
      · rename_i hm
        simp only [isTrailing, Bool.and_eq_true, decide_eq_true_eq] at hm
        simp only [Except.ok.injEq, Prod.mk.injEq] at h
        obtain ⟨rfl, rfl⟩ := h
        refine ⟨digits ++ backslash :: letterU :: digits', ?_, by simp⟩
        exact .pair hdigits hleading.1 hleading.2 hdigits' hm.1 hm.2
          (pairChar_toNat hleading.1 hleading.2 hm.1 hm.2)
      · exact absurd h (by simp)
    · rename_i hleading
      simp only [isLeading, Bool.and_eq_true, decide_eq_true_eq] at hleading
      simp only [Except.ok.injEq, Prod.mk.injEq] at h
      obtain ⟨rfl, rfl⟩ := h
      refine ⟨digits, .single ?_, rfl⟩
      rwa [toNat_ofNat (by omega) (by omega)]

theorem unicodeEscape_single {digits : Bytes} {c : Char} (h : FourDigits digits c.toNat)
    (rest : Bytes) : unicodeEscape (digits ++ rest) = .ok (Utf8.encodeChar c, rest) := by
  have hhalf := toNat_not_half c
  have htrailing : isTrailing c.toNat = false := by
    simp only [isTrailing, Bool.and_eq_false_iff, decide_eq_false_iff_not]; omega
  have hleading : isLeading c.toNat = false := by
    simp only [isLeading, Bool.and_eq_false_iff, decide_eq_false_iff_not]; omega
  simp only [unicodeEscape, Except.bind_eq_ok_iff, Prod.exists, hexEscape_eq_ok_iff]
  refine ⟨c.toNat, rest, ⟨digits, h, rfl⟩, ?_⟩
  simp [htrailing, hleading]

theorem unicodeEscape_pair {digits digits' : Bytes} {n m : Nat} {c : Char}
    (hn : FourDigits digits n) (hn₁ : 0xD800 ≤ n) (hn₂ : n ≤ 0xDBFF)
    (hm : FourDigits digits' m) (hm₁ : 0xDC00 ≤ m) (hm₂ : m ≤ 0xDFFF)
    (hc : c.toNat = 0x10000 + (n - 0xD800) * 0x400 + (m - 0xDC00)) (rest : Bytes) :
    unicodeEscape (digits ++ backslash :: letterU :: digits' ++ rest) =
      .ok (Utf8.encodeChar c, rest) := by
  have htrailing : isTrailing n = false := by
    simp only [isTrailing, Bool.and_eq_false_iff, decide_eq_false_iff_not]; omega
  have hleading : isLeading n = true := by
    simp only [isLeading, Bool.and_eq_true, decide_eq_true_eq]; omega
  have hother : isTrailing m = true := by
    simp only [isTrailing, Bool.and_eq_true, decide_eq_true_eq]; omega
  have hchar : pairChar n m = c :=
    Char.toNat_inj.mp ((pairChar_toNat hn₁ hn₂ hm₁ hm₂).trans hc.symm)
  simp only [unicodeEscape, Except.bind_eq_ok_iff, Prod.exists, hexEscape_eq_ok_iff]
  -- the first half is read, then a second one is looked for
  refine ⟨n, _, ⟨digits, hn, List.append_assoc ..⟩, ?_⟩
  simp only [htrailing, hleading, if_true, Bool.false_eq_true, if_false, Except.bind_eq_ok_iff,
    afterPairByte_eq_ok_iff, Prod.exists, hexEscape_eq_ok_iff]
  refine ⟨_, rfl, _, rfl, m, rest, ⟨digits', hm, rfl⟩, ?_⟩
  rw [if_pos hother, hchar]

/-- **An escape is read exactly as the piece that it makes up with its backslash.** -/
theorem escape_eq_ok_iff {bs bytes rest : Bytes} :
    escape bs = .ok (bytes, rest) ↔ ∃ s, Piece (backslash :: s) bytes ∧ bs = s ++ rest := by
  constructor
  · intro h
    unfold escape at h
    split at h
    · exact absurd h (by simp)
    · rename_i letter more
      split at h
      · rename_i b hb
        simp only [Except.ok.injEq, Prod.mk.injEq] at h
        obtain ⟨rfl, rfl⟩ := h
        exact ⟨[letter], .short (simpleEscape?_eq_some_iff.mp hb), rfl⟩
      · split at h
        · rename_i hu
          obtain ⟨s, hs, rfl⟩ := piece_of_unicodeEscape h
          exact ⟨letter :: s, by rw [hu]; exact hs, rfl⟩
        · exact absurd h (by simp)
  · intro h
    obtain ⟨s, hs, rfl⟩ := h
    -- the letter of a number is none of the short ones
    have hu : simpleEscape? letterU = none := rfl
    cases hs with
    | plain _ _ hb => exact absurd rfl hb
    | short hletter =>
        simp only [escape, List.cons_append, List.nil_append,
          simpleEscape?_eq_some_iff.mpr hletter]
    | single hd =>
        simp only [escape, List.cons_append, hu, if_true]
        exact unicodeEscape_single hd rest
    | pair hn hn₁ hn₂ hm hm₁ hm₂ hc =>
        simp only [escape, List.cons_append, hu, if_true]
        exact unicodeEscape_pair hn hn₁ hn₂ hm hm₁ hm₂ hc rest

/-! ## The whole string -/

theorem body_quote (rest : Bytes) : body (quote :: rest) = .ok ([], rest) := by
  rw [body, if_pos rfl]

theorem body_escape {bs piece behind : Bytes} (h : escape bs = .ok (piece, behind)) :
    body (backslash :: bs) =
      (body behind).map fun (bytes, rest) => (piece ++ bytes, rest) := by
  generalize hall : backslash :: bs = all
  -- only the case of an escape that is read fits
  fun_cases body all with
  | case1 => exact nomatch hall
  | case2 => exact absurd (List.cons.inj hall).1 (by decide)
  | case3 _ _ hescape _ =>
      obtain ⟨-, rfl⟩ := List.cons.inj hall
      rw [h] at hescape
      exact nomatch hescape
  | case4 _ _ _ hescape _ _ =>
      obtain ⟨-, rfl⟩ := List.cons.inj hall
      rw [h] at hescape
      simp only [Except.ok.injEq, Prod.mk.injEq] at hescape
      obtain ⟨rfl, rfl⟩ := hescape
      rfl
  | case5 _ _ _ hslash _ => exact absurd (List.cons.inj hall).1.symm hslash
  | case6 _ _ _ hslash _ => exact absurd (List.cons.inj hall).1.symm hslash

theorem body_plain {b : UInt8} {bs : Bytes} (hlow : 32 ≤ b) (hquote : b ≠ quote)
    (hslash : b ≠ backslash) :
    body (b :: bs) = (body bs).map fun (bytes, rest) => (b :: bytes, rest) := by
  rw [body, if_neg hquote, if_neg hslash, if_neg (UInt8.not_lt.mpr hlow)]

/-- The scan to the closing quote goes over pieces only. -/
theorem inside_of_body {bs bytes rest : Bytes} (h : body bs = .ok (bytes, rest)) :
    ∃ inside, Inside inside bytes ∧ bs = inside ++ quote :: rest := by
  -- one piece for every turn of the scan that neither ends it nor fails
  fun_induction body bs generalizing bytes with
  | case1 => exact absurd h (by simp)
  | case2 more =>
      simp only [Except.ok.injEq, Prod.mk.injEq] at h
      obtain ⟨rfl, rfl⟩ := h
      exact ⟨[], .nil, rfl⟩
  | case3 => exact absurd h (by simp)
  | case4 more piece behind hescape _ _ ih =>
      simp only [Except.map_eq_ok_iff, Prod.exists, Prod.mk.injEq] at h
      obtain ⟨bytes', _, hbody, rfl, rfl⟩ := h
      obtain ⟨s, hpiece, rfl⟩ := escape_eq_ok_iff.mp hescape
      obtain ⟨inside, hinside, rfl⟩ := ih hbody
      exact ⟨backslash :: s ++ inside, .cons hpiece hinside, by simp⟩
  | case5 => exact absurd h (by simp)
  | case6 b more hquote hslash hlow ih =>
      simp only [Except.map_eq_ok_iff, Prod.exists, Prod.mk.injEq] at h
      obtain ⟨bytes', _, hbody, rfl, rfl⟩ := h
      obtain ⟨inside, hinside, rfl⟩ := ih hbody
      exact ⟨[b] ++ inside, .cons (.plain (UInt8.not_lt.mp hlow) hquote hslash) hinside, rfl⟩

/-- A piece is taken off the front of what is scanned. -/
theorem body_piece_append {piece bytes bs : Bytes} (h : Piece piece bytes) :
    body (piece ++ bs) = (body bs).map fun (more, rest) => (bytes ++ more, rest) := by
  have hescape : ∀ s, Piece (backslash :: s) bytes →
      body (backslash :: (s ++ bs)) = (body bs).map fun (more, rest) => (bytes ++ more, rest) :=
    fun s hs => body_escape (escape_eq_ok_iff.mpr ⟨s, hs, rfl⟩)
  cases h with
  | plain hlow hquote hslash => exact body_plain hlow hquote hslash
  | short hletter => exact hescape _ (.short hletter)
  | single hd => exact hescape _ (.single hd)
  | pair hn hn₁ hn₂ hm hm₁ hm₂ hc => exact hescape _ (.pair hn hn₁ hn₂ hm hm₁ hm₂ hc)

theorem body_eq_ok_iff {bs bytes rest : Bytes} :
    body bs = .ok (bytes, rest) ↔ ∃ inside, Inside inside bytes ∧ bs = inside ++ quote :: rest := by
  constructor
  · exact inside_of_body
  · intro h
    obtain ⟨inside, hinside, rfl⟩ := h
    induction hinside with
    | nil => exact body_quote rest
    | cons hpiece _ ih => rw [List.append_assoc, body_piece_append hpiece, ih]; rfl

/-- **A string is read exactly as the literal that starts with the quote in front of it.** -/
theorem read_eq_ok_iff {bs rest : Bytes} {text : Text} :
    read bs = .ok (text, rest) ↔ ∃ s, Literal s text ∧ quote :: bs = s ++ rest := by
  simp only [read, Except.bind_eq_ok_iff, Prod.exists, body_eq_ok_iff]
  constructor
  · intro h
    obtain ⟨bytes, more, ⟨inside, hinside, rfl⟩, h⟩ := h
    split at h
    · rename_i text' hdec
      simp only [Except.ok.injEq, Prod.mk.injEq] at h
      obtain ⟨rfl, rfl⟩ := h
      -- the bytes inside are those of a text
      rw [← Utf8.encode_of_decode? hdec] at hinside
      exact ⟨_, .mk hinside, by simp⟩
    · exact absurd h (by simp)
  · intro h
    obtain ⟨s, hs, heq⟩ := h
    cases hs with
    | @mk inside _ hinside =>
        simp only [List.cons_append, List.append_assoc, List.nil_append, List.cons.injEq,
          true_and] at heq
        refine ⟨_, rest, ⟨inside, hinside, heq⟩, ?_⟩
        simp only [Utf8.decode?_encode]

end Codebook.Json.StringLiteral
