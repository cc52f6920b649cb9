import Codebook.Code
import Codebook.Proofs.Outcome

/-!
# Which texts write a code

A code is written in decimal digits, at least one, with at most one sign in front. Reading takes
exactly these texts, as long as the number lies between the smallest and the largest code: it
looks at the bound after every digit, and since a number only grows with its digits, no text is
refused on the way whose number is a code in the end.
-/

namespace Codebook.Code

/-- Decimal digits, at least one, and the number that they write. -/
structure Digits (digits : Text) (n : Nat) : Prop where
  ne_nil : digits ≠ []
  isDigit : ∀ c ∈ digits, c.isDigit
  value_eq : Nat.ofDigitChars 10 digits 0 = n

/-- Digits behind one sign at most, and the number that they write. -/
inductive Numeral : Text → Int → Prop where
  | bare {digits : Text} {n : Nat} : Digits digits n → Numeral digits n
  | plus {digits : Text} {n : Nat} : Digits digits n → Numeral ('+' :: digits) n
  | minus {digits : Text} {n : Nat} : Digits digits n → Numeral ('-' :: digits) (-n)

theorem Numeral.isDigit_or_sign {text : Text} {value : Int} (h : Numeral text value) :
    ∀ c ∈ text, c.isDigit ∨ c = '+' ∨ c = '-' := by
  intro c hc
  cases h with
  | bare hd => exact Or.inl (hd.isDigit c hc)
  | plus hd =>
      rcases List.mem_cons.mp hc with rfl | hc
      · exact Or.inr (Or.inl rfl)
      · exact Or.inl (hd.isDigit c hc)
  | minus hd =>
      rcases List.mem_cons.mp hc with rfl | hc
      · exact Or.inr (Or.inr rfl)
      · exact Or.inl (hd.isDigit c hc)

/-! ## The digits -/

theorem le_ofDigitChars (digits : Text) (acc : Nat) : acc ≤ Nat.ofDigitChars 10 digits acc := by
  induction digits generalizing acc with
  | nil => exact Nat.le_of_eq Nat.ofDigitChars_nil.symm
  | cons c digits ih =>
      rw [Nat.ofDigitChars_cons]
      exact Nat.le_trans (by omega) (ih _)

theorem of_readDigits {limit acc : Nat} {overflow : CodeError} {hacc : acc ≤ limit}
    {digits : Text} {n : { n : Nat // n ≤ limit }}
    (h : readDigits limit overflow acc hacc digits = .ok n) :
    (∀ c ∈ digits, c.isDigit) ∧ Nat.ofDigitChars 10 digits acc = n.val := by
  induction digits generalizing acc with
  | nil =>
      rw [readDigits] at h
      obtain rfl := Except.ok.inj h
      exact ⟨by simp, Nat.ofDigitChars_nil⟩
  | cons c digits ih =>
      rw [readDigits] at h
      split at h
      · rename_i hc
        dsimp only at h
        split at h
        -- the accumulator has taken the first digit in
        · obtain ⟨hdigits, hval⟩ := ih h
          refine ⟨fun d hd => ?_, ?_⟩
          · rcases List.mem_cons.mp hd with rfl | hd
            · exact hc
            · exact hdigits d hd
          · rw [Nat.ofDigitChars_cons, Nat.mul_comm]
            exact hval
        · exact absurd h (by simp)
      · exact absurd h (by simp)

/-- The bound is met at every digit if it is met at the last one. -/
theorem readDigits_eq {limit acc : Nat} {overflow : CodeError} {hacc : acc ≤ limit}
    {digits : Text} (hdigits : ∀ c ∈ digits, c.isDigit)
    (hle : Nat.ofDigitChars 10 digits acc ≤ limit) :
    readDigits limit overflow acc hacc digits = .ok ⟨Nat.ofDigitChars 10 digits acc, hle⟩ := by
  induction digits generalizing acc with
  | nil => rw [readDigits]; simp
  | cons c digits ih =>
      have hnext : Nat.ofDigitChars 10 (c :: digits) acc =
          Nat.ofDigitChars 10 digits (acc * 10 + (c.toNat - '0'.toNat)) := by
        rw [Nat.ofDigitChars_cons, Nat.mul_comm]
      -- the number so far is within the limit because the whole number is
      have hbound : acc * 10 + (c.toNat - '0'.toNat) ≤ limit := by
        rw [hnext] at hle
        exact Nat.le_trans (le_ofDigitChars ..) hle
      rw [readDigits, if_pos (hdigits c List.mem_cons_self)]
      dsimp only
      rw [dif_pos hbound]
      simp only [hnext] at hle ⊢
      exact ih (fun d hd => hdigits d (List.mem_cons_of_mem _ hd)) hle

theorem readDigits_eq_ok_iff {limit acc : Nat} {overflow : CodeError} {hacc : acc ≤ limit}
    {digits : Text} {n : { n : Nat // n ≤ limit }} :
    readDigits limit overflow acc hacc digits = .ok n ↔
      (∀ c ∈ digits, c.isDigit) ∧ Nat.ofDigitChars 10 digits acc = n.val := by
  constructor
  · exact of_readDigits
  · intro h
    obtain ⟨hdigits, hval⟩ := h
    rw [readDigits_eq hdigits (hval ▸ n.property)]
    exact congrArg Except.ok (Subtype.ext hval)

/-! ## The sign -/

theorem eq_of_value_eq {code code' : Code} (h : code.value = code'.value) : code = code' := by
  obtain ⟨value, _, _⟩ := code
  obtain ⟨value', _, _⟩ := code'
  obtain rfl : value = value' := h
  rfl

theorem ofDigits_eq_ok_iff {digits : Text} {code : Code} :
    ofDigits digits = .ok code ↔
      (∀ c ∈ digits, c.isDigit) ∧ (Nat.ofDigitChars 10 digits 0 : Int) = code.value := by
  have hupper := code.upper
  simp only [ofDigits, Except.map_eq_ok_iff, readDigits_eq_ok_iff]
  constructor
  · intro h
    obtain ⟨n, ⟨hdigits, hval⟩, rfl⟩ := h
    exact ⟨hdigits, by rw [hval]⟩
  · intro h
    obtain ⟨hdigits, hval⟩ := h
    have hle : Nat.ofDigitChars 10 digits 0 ≤ 0x7FFFFFFFFFFFFFFF := by omega
    exact ⟨⟨_, hle⟩, ⟨hdigits, rfl⟩, eq_of_value_eq hval⟩

theorem ofNegatedDigits_eq_ok_iff {digits : Text} {code : Code} :
    ofNegatedDigits digits = .ok code ↔
      (∀ c ∈ digits, c.isDigit) ∧ -(Nat.ofDigitChars 10 digits 0 : Int) = code.value := by
  have hlower := code.lower
  simp only [ofNegatedDigits, Except.map_eq_ok_iff, readDigits_eq_ok_iff]
  constructor
  · intro h
    obtain ⟨n, ⟨hdigits, hval⟩, rfl⟩ := h
    exact ⟨hdigits, by rw [hval]⟩
  · intro h
    obtain ⟨hdigits, hval⟩ := h
    have hle : Nat.ofDigitChars 10 digits 0 ≤ 0x8000000000000000 := by omega
    exact ⟨⟨_, hle⟩, ⟨hdigits, rfl⟩, eq_of_value_eq hval⟩

theorem parse_plus {digits : Text} (h : digits ≠ []) : parse ('+' :: digits) = ofDigits digits := by
  obtain ⟨c, digits, rfl⟩ := List.exists_cons_of_ne_nil h
  rfl

theorem parse_minus {digits : Text} (h : digits ≠ []) :
    parse ('-' :: digits) = ofNegatedDigits digits := by
  obtain ⟨c, digits, rfl⟩ := List.exists_cons_of_ne_nil h
  rfl

theorem parse_bare {c : Char} {digits : Text} (hplus : c ≠ '+') (hminus : c ≠ '-') :
    parse (c :: digits) = ofDigits (c :: digits) := by
  unfold parse
  split
  · rename_i h; simp at h
  · rename_i h; exact absurd (List.cons.inj h).1 hplus
  · rename_i h; exact absurd (List.cons.inj h).1 hminus
  · rename_i h; exact absurd (List.cons.inj h).1 hplus
  · rename_i h; exact absurd (List.cons.inj h).1 hminus
  · rfl

/-- **A text is read as a code exactly if it writes the code's number.** -/
theorem parse_eq_ok_iff {text : Text} {code : Code} :
    parse text = .ok code ↔ Numeral text code.value := by
  constructor
  · intro h
    unfold parse at h
    split at h
    · exact absurd h (by simp)
    · exact absurd h (by simp)
    · exact absurd h (by simp)
    · rename_i digits hne
      obtain ⟨hdigits, hval⟩ := ofDigits_eq_ok_iff.mp h
      rw [← hval]
      exact .plus ⟨fun hnil => hne (by rw [hnil]), hdigits, rfl⟩
    · rename_i digits hne
      obtain ⟨hdigits, hval⟩ := ofNegatedDigits_eq_ok_iff.mp h
      rw [← hval]
      exact .minus ⟨fun hnil => hne (by rw [hnil]), hdigits, rfl⟩
    · rename_i hne _ _ _ _
      obtain ⟨hdigits, hval⟩ := ofDigits_eq_ok_iff.mp h
      rw [← hval]
      exact .bare ⟨fun hnil => hne hnil, hdigits, rfl⟩
  · intro h
    generalize hv : code.value = value at h
    cases h with
    | bare hd =>
        -- a digit is no sign, so the reader does not take it for one
        obtain ⟨c, digits, rfl⟩ := List.exists_cons_of_ne_nil hd.ne_nil
        have hc := hd.isDigit c List.mem_cons_self
        rw [parse_bare (by rintro rfl; simp at hc) (by rintro rfl; simp at hc)]
        exact ofDigits_eq_ok_iff.mpr ⟨hd.isDigit, by rw [hd.value_eq, hv]⟩
    | plus hd =>
        rw [parse_plus hd.ne_nil]
        exact ofDigits_eq_ok_iff.mpr ⟨hd.isDigit, by rw [hd.value_eq, hv]⟩
    | minus hd =>
        rw [parse_minus hd.ne_nil]
        exact ofNegatedDigits_eq_ok_iff.mpr ⟨hd.isDigit, by rw [hd.value_eq, hv]⟩

theorem exists_error_of_not_numeral {text : Text} (h : ∀ code : Code, ¬ Numeral text code.value) :
    ∃ reason, parse text = .error reason := by
  cases hparse : parse text with
  | error reason => exact ⟨reason, rfl⟩
  | ok code => exact absurd (parse_eq_ok_iff.1 hparse) (h code)

/-- The digits that a code is shown in write it. -/
theorem numeral_toText (code : Code) : Numeral code.toText code.value := by
  have hdigits : ∀ n : Nat, Digits (Text.ofNat n) n := fun n =>
    ⟨Nat.toDigits_ne_nil, fun c hc => Nat.isDigit_of_mem_toDigits (by decide) (by decide) hc,
      Nat.ofDigitChars_ten_toDigits⟩
  unfold toText Text.ofInt
  split
  · rename_i n hval
    rw [hval]
    exact .bare (hdigits n)
  · rename_i n hval
    rw [hval]
    exact .minus (hdigits (n + 1))

end Codebook.Code
