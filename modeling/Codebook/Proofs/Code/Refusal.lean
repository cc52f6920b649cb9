import Codebook.Proofs.Code.Numeral

/-!
# Why a text writes no code

Behind its sign a text is read from the left, and at every character there are two questions: is it
a digit, and if it is, are the digits up to here still within the limit. So digits that go beyond
the limit are what is wrong with a text unless a character that is no digit stands in front of the
last of them, and zeros take the reader no nearer to the limit, however many there are.

The limit depends on the sign, and is the only thing that does.
-/

namespace Codebook.Code

/-! ## The limit -/

/-- Digits in front write more than the limit, behind those that make up `acc`. -/
def Passes (limit acc : Nat) (digits : Text) : Prop :=
  ∃ front, front <+: digits ∧ (∀ c ∈ front, c.isDigit) ∧ limit < Nat.ofDigitChars 10 front acc

variable {limit acc : Nat} {overflow reason : CodeError} {text digits : Text}

theorem passes_of_lt (h : limit < acc) (digits : Text) : Passes limit acc digits :=
  ⟨[], List.nil_prefix, List.forall_mem_nil _, by rwa [Nat.ofDigitChars_nil]⟩

theorem not_passes_nil (hacc : acc ≤ limit) : ¬ Passes limit acc [] := by
  intro h
  obtain ⟨front, hfront, -, hlimit⟩ := h
  rw [List.prefix_nil.1 hfront, Nat.ofDigitChars_nil] at hlimit
  omega

/-- From a number within the limit it takes one digit more, and the others from there. -/
theorem passes_cons_iff (hacc : acc ≤ limit) {c : Char} :
    Passes limit acc (c :: digits) ↔
      c.isDigit ∧ Passes limit (acc * 10 + (c.toNat - '0'.toNat)) digits := by
  constructor
  · intro h
    obtain ⟨front, hfront, hdigits, hlimit⟩ := h
    obtain rfl | ⟨front, rfl, hrest⟩ := List.prefix_cons_iff.1 hfront
    · -- no digits at all cannot pass a limit that the number so far keeps
      rw [Nat.ofDigitChars_nil] at hlimit
      omega
    · rw [Nat.ofDigitChars_cons, Nat.mul_comm] at hlimit
      exact ⟨hdigits c List.mem_cons_self, front, hrest,
        fun d hd => hdigits d (List.mem_cons_of_mem _ hd), hlimit⟩
  · intro h
    obtain ⟨hc, front, hfront, hdigits, hlimit⟩ := h
    refine ⟨c :: front, List.cons_prefix_cons.2 ⟨rfl, hfront⟩,
      List.forall_mem_cons.2 ⟨hc, hdigits⟩, ?_⟩
    rwa [Nat.ofDigitChars_cons, Nat.mul_comm]

theorem le_of_not_passes (hdigits : ∀ c ∈ digits, c.isDigit) (h : ¬ Passes limit acc digits) :
    Nat.ofDigitChars 10 digits acc ≤ limit :=
  Nat.le_of_not_lt fun hlimit => h ⟨digits, List.prefix_rfl, hdigits, hlimit⟩

/-! ## The digits -/

theorem readDigits_of_passes {hacc : acc ≤ limit} (h : Passes limit acc digits) :
    readDigits limit overflow acc hacc digits = .error overflow := by
  induction digits generalizing acc with
  | nil => exact absurd h (not_passes_nil hacc)
  | cons c digits ih =>
      obtain ⟨hc, hrest⟩ := (passes_cons_iff hacc).1 h
      rw [readDigits, if_pos hc]
      dsimp only
      split
      · exact ih hrest
      · rfl

theorem readDigits_of_not_digit {hacc : acc ≤ limit} (h : ¬ Passes limit acc digits)
    (hbad : ∃ c ∈ digits, ¬ c.isDigit) :
    readDigits limit overflow acc hacc digits = .error .invalidDigit := by
  induction digits generalizing acc with
  | nil => exact absurd hbad (by simp)
  | cons c digits ih =>
      rw [readDigits]
      split
      · next hc =>
        have hrest : ¬ Passes limit (acc * 10 + (c.toNat - '0'.toNat)) digits := fun hrest =>
          h ((passes_cons_iff hacc).2 ⟨hc, hrest⟩)
        -- if this digit were too much, the digits would pass the limit here
        have hnext : acc * 10 + (c.toNat - '0'.toNat) ≤ limit :=
          Nat.le_of_not_lt fun hlt => hrest (passes_of_lt hlt digits)
        have hbad : ∃ c ∈ digits, ¬ c.isDigit := by
          obtain ⟨d, hd, hbad⟩ := hbad
          obtain rfl | hd := List.mem_cons.1 hd
          · exact absurd hc hbad
          · exact ⟨d, hd, hbad⟩
        dsimp only
        rw [dif_pos hnext]
        exact ih hrest hbad
      · rfl

/-! ## The sign -/

/-- What stands behind the sign, the largest number that digits may write there, and what is wrong
with a text whose digits write more. -/
inductive Limited : Text → Text → Nat → CodeError → Prop where
  | bare {c : Char} {digits : Text} :
      c ≠ '+' → c ≠ '-' → Limited (c :: digits) (c :: digits) 0x7FFFFFFFFFFFFFFF .tooLarge
  | plus {digits : Text} : Limited ('+' :: digits) digits 0x7FFFFFFFFFFFFFFF .tooLarge
  | minus {digits : Text} : Limited ('-' :: digits) digits 0x8000000000000000 .tooSmall

theorem exists_limited (c : Char) (rest : Text) :
    ∃ digits limit overflow, Limited (c :: rest) digits limit overflow := by
  by_cases hplus : c = '+'
  · exact hplus ▸ ⟨_, _, _, .plus⟩
  · by_cases hminus : c = '-'
    · exact hminus ▸ ⟨_, _, _, .minus⟩
    · exact ⟨_, _, _, .bare hplus hminus⟩

theorem Limited.parse_nil (h : Limited text [] limit overflow) :
    parse text = .error .invalidDigit := by
  cases h with
  | plus => rfl
  | minus => rfl

/-- The sign apart, a text is read as its digits are. -/
theorem Limited.parse_eq (h : Limited text digits limit overflow) (hne : digits ≠ []) :
    ∃ sign : { n : Nat // n ≤ limit } → Code,
      parse text = (readDigits limit overflow 0 (Nat.zero_le _) digits).map sign := by
  cases h with
  | bare hplus hminus => exact ⟨_, parse_bare hplus hminus⟩
  | plus => exact ⟨_, parse_plus hne⟩
  | minus => exact ⟨_, parse_minus hne⟩

/-! ## The reason -/

/-- A text that writes no code, and why it does not. -/
inductive Refused : Text → CodeError → Prop where
  | empty : Refused [] .empty
  /-- Digits behind the sign go beyond the limit, and nothing else stands among them. -/
  | overflow {text digits : Text} {limit : Nat} {reason : CodeError} :
      Limited text digits limit reason → Passes limit 0 digits → Refused text reason
  /-- The sign is all, or the digits stay within the limit up to what is no digit. -/
  | invalidDigit {text digits : Text} {limit : Nat} {reason : CodeError} :
      Limited text digits limit reason → ¬ Passes limit 0 digits →
      (digits = [] ∨ ∃ c ∈ digits, ¬ c.isDigit) → Refused text .invalidDigit

theorem Refused.parse_eq (h : Refused text reason) : parse text = .error reason := by
  cases h with
  | empty => rfl
  | @overflow _ digits _ _ hlimited hpasses =>
      have hne : digits ≠ [] := by
        rintro rfl
        exact not_passes_nil (Nat.zero_le _) hpasses
      obtain ⟨sign, hparse⟩ := hlimited.parse_eq hne
      rw [hparse, readDigits_of_passes hpasses]
      rfl
  | @invalidDigit _ digits _ _ hlimited hpasses hbad =>
      -- a sign with nothing behind it is refused before any digit is read
      by_cases hnil : digits = []
      · subst hnil
        exact hlimited.parse_nil
      · obtain ⟨sign, hparse⟩ := hlimited.parse_eq hnil
        rw [hparse, readDigits_of_not_digit hpasses (hbad.resolve_left hnil)]
        rfl

theorem refused_or_parsed (text : Text) :
    (∃ reason, Refused text reason) ∨ ∃ code, parse text = .ok code := by
  match text with
  | [] => exact .inl ⟨_, .empty⟩
  | c :: rest =>
      obtain ⟨digits, limit, overflow, hlimited⟩ := exists_limited c rest
      by_cases hpasses : Passes limit 0 digits
      · exact .inl ⟨_, .overflow hlimited hpasses⟩
      · by_cases hbad : digits = [] ∨ ∃ c ∈ digits, ¬ c.isDigit
        · exact .inl ⟨_, .invalidDigit hlimited hpasses hbad⟩
        · -- digits only, and all of them together are still within the limit
          simp only [not_or, not_exists, not_and, Decidable.not_not] at hbad
          obtain ⟨hne, hdigits⟩ := hbad
          obtain ⟨sign, hparse⟩ := hlimited.parse_eq hne
          rw [hparse, readDigits_eq hdigits (le_of_not_passes hdigits hpasses)]
          exact .inr ⟨_, rfl⟩

/-- **A text that writes no code is refused for the first thing that is wrong with it.** -/
theorem parse_eq_error_iff : parse text = .error reason ↔ Refused text reason := by
  constructor
  · intro h
    obtain ⟨reason', hrefused⟩ | ⟨code, hok⟩ := refused_or_parsed text
    · obtain rfl := Except.error.inj (h.symm.trans hrefused.parse_eq)
      exact hrefused
    · exact nomatch h.symm.trans hok
  · exact Refused.parse_eq

/-- What is said of a text that writes no code: the first thing that is wrong with it, in words. -/
inductive Complaint (text : Text) : Text → Prop where
  | empty : Refused text .empty → Complaint text "cannot parse integer from empty string".toList
  | invalidDigit :
      Refused text .invalidDigit → Complaint text "invalid digit found in string".toList
  | tooLarge :
      Refused text .tooLarge → Complaint text "number too large to fit in target type".toList
  | tooSmall :
      Refused text .tooSmall → Complaint text "number too small to fit in target type".toList

theorem Refused.complaint (h : Refused text reason) : Complaint text reason.message := by
  cases reason with
  | empty => exact .empty h
  | invalidDigit => exact .invalidDigit h
  | tooLarge => exact .tooLarge h
  | tooSmall => exact .tooSmall h

theorem Complaint.eq {words : Text} (h : Complaint text words)
    (hparse : parse text = .error reason) : words = reason.message := by
  cases h with
  | empty h | invalidDigit h | tooLarge h | tooSmall h =>
      rw [Except.error.inj (hparse.symm.trans h.parse_eq)]
      rfl

/-- Zeros do not count, and a limit that is passed counts before a letter behind it. -/
example : parse "-0009223372036854775808".toList = .ok ⟨-0x8000000000000000, by decide, by decide⟩ ∧
    parse "9223372036854775808x".toList = .error .tooLarge ∧
    parse "922337203685477580x8".toList = .error .invalidDigit := by
  exact ⟨rfl, rfl, rfl⟩

end Codebook.Code
