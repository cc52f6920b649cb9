import Codebook.Comment
import Codebook.Proofs.Utf8.Ascii

/-!
# What a comment is

A comment is `/*`, a text without `*/`, and `*/`. The reader looks for the close from character to
character and the definition speaks of bytes, but both marks are below 128, so they see the same
marks. `afterComment?_eq_some_iff` says so: what the reader takes off the front is a comment, and
every comment at the front is taken off.

Of the comments that may begin at one place there is only one, since the first `*/` closes it.
-/

namespace Codebook.Comment

/-- The bytes `/*`. -/
def opening : Bytes := [slash, star]

/-- The bytes `*/`. -/
def closing : Bytes := [star, slash]

theorem encode_opening : Utf8.encode ['/', '*'] = opening := by decide

theorem encode_closing : Utf8.encode ['*', '/'] = closing := by decide

/-- `/*`, a text in UTF-8 that does not hold `*/`, and `*/`. -/
def IsComment (comment : Bytes) : Prop :=
  ∃ body : Text, ¬ closing <:+: Utf8.encode body ∧
    comment = opening ++ Utf8.encode body ++ closing

/-- A comment stands at the front. -/
def Begins (bs : Bytes) : Prop := ∃ comment, IsComment comment ∧ comment <+: bs

/-! ## The steps of the reader -/

theorem afterClose?_closing (rest : Bytes) : afterClose? (closing ++ rest) = some rest := by
  show afterClose? (star :: slash :: rest) = some rest
  rw [afterClose?, if_pos ⟨rfl, rfl⟩]
  rfl

/-- In front of the close the reader goes one character further. -/
theorem afterClose?_encodeChar_append {c : Char} {bs : Bytes}
    (h : ¬ closing <+: Utf8.encodeChar c ++ bs) :
    afterClose? (Utf8.encodeChar c ++ bs) = afterClose? bs := by
  have hdec := Utf8.decodeChar?_encodeChar_append c bs
  obtain ⟨b, more, hbytes⟩ : ∃ b more, Utf8.encodeChar c = b :: more :=
    List.exists_cons_of_ne_nil String.utf8EncodeChar_ne_nil
  rw [hbytes, List.cons_append] at h hdec ⊢
  -- the search does not end here, so it goes on behind this character
  rw [afterClose?]
  split
  · rename_i hclose
    obtain ⟨rfl, hhead⟩ := hclose
    obtain ⟨behind, hbehind⟩ := List.head?_eq_some_iff.mp hhead
    exact absurd ⟨behind, by rw [hbehind]; rfl⟩ h
  · split
    · rename_i hnone; rw [hdec] at hnone; simp at hnone
    · rename_i c' rest hsome
      rw [hdec] at hsome
      simp only [Option.some.injEq, Prod.mk.injEq] at hsome
      obtain ⟨-, rfl⟩ := hsome
      rfl

/-! ## The reader takes exactly a comment -/

/-- What is read up to a close is a text that does not hold one. -/
theorem eq_of_afterClose? {bs rest : Bytes} (h : afterClose? bs = some rest) :
    ∃ body : Text, ¬ closing <:+: Utf8.encode body ∧
      bs = Utf8.encode body ++ closing ++ rest := by
  fun_induction afterClose? bs with
  | case1 => simp at h
  | case2 b r hclose =>
      obtain ⟨rfl, hhead⟩ := hclose
      obtain ⟨behind, rfl⟩ := List.head?_eq_some_iff.mp hhead
      obtain rfl := Option.some.inj h
      exact ⟨[], by decide, rfl⟩
  | case3 => simp at h
  | case4 b r hclose c rest' hdec _ ih =>
      obtain ⟨body, hbody, rfl⟩ := ih h
      have heq := Utf8.eq_of_decodeChar? hdec
      refine ⟨c :: body, fun hin => ?_, by rw [heq, Utf8.encode_cons]; simp⟩
      rw [Utf8.encode_cons] at hin
      rcases Utf8.infix_encodeChar_append (by decide) hin with hpre | hin
      · -- a close right here would have ended the body
        obtain ⟨t, ht⟩ := hpre
        rw [List.append_assoc, ← List.append_assoc, ← ht] at heq
        simp only [closing, List.cons_append, List.nil_append, List.cons.injEq] at heq
        exact hclose ⟨heq.1, by rw [heq.2]; rfl⟩
      · exact hbody hin

/-- A mark of two bytes does not reach over an end behind which its second byte is missing. -/
theorem pair_prefix_of_append {x y : UInt8} {bs behind : Bytes} (hne : bs ≠ [])
    (hbehind : behind.head? ≠ some y) (h : [x, y] <+: bs ++ behind) : [x, y] <+: bs := by
  obtain ⟨b, more, rfl⟩ := List.exists_cons_of_ne_nil hne
  cases more with
  | nil =>
      simp only [List.cons_append, List.nil_append, List.cons_prefix_cons] at h
      obtain ⟨t, rfl⟩ := h.2
      exact absurd rfl hbehind
  | cons d more =>
      simp only [List.cons_append, List.cons_prefix_cons] at h ⊢
      exact ⟨h.1, h.2.1, List.nil_prefix⟩

/-- A text that does not hold a close is read over. -/
theorem afterClose?_encode_append {body : Text} {behind : Bytes}
    (hbody : ¬ closing <:+: Utf8.encode body) (hbehind : behind.head? ≠ some slash) :
    afterClose? (Utf8.encode body ++ behind) = afterClose? behind := by
  induction body with
  | nil => rfl
  | cons c body ih =>
      rw [Utf8.encode_cons] at hbody
      have hfront : ¬ closing <+: Utf8.encodeChar c ++ Utf8.encode body ++ behind :=
        fun hpre => hbody (pair_prefix_of_append (by simp) hbehind hpre).isInfix
      have htail : ¬ closing <:+: Utf8.encode body := fun hin =>
        hbody (List.infix_append_of_infix_right hin)
      rw [List.append_assoc] at hfront
      rw [Utf8.encode_cons, List.append_assoc, afterClose?_encodeChar_append hfront]
      exact ih htail

/-- Where no character begins, reading is over. -/
theorem afterClose?_eq_none {bs : Bytes} (h : ∀ c, ¬ Utf8.encodeChar c <+: bs) :
    afterClose? bs = none := by
  fun_cases afterClose? bs with
  | case1 => rfl
  | case2 b r hclose => exact absurd ⟨r, by rw [hclose.1]; rfl⟩ (h '*')
  | case3 => rfl
  | case4 b r _ c rest' hdec =>
      exact absurd (List.prefix_append ..) (Utf8.eq_of_decodeChar? hdec ▸ h c)

theorem afterComment?_eq_some_iff {bs rest : Bytes} :
    afterComment? bs = some rest ↔ ∃ comment, IsComment comment ∧ bs = comment ++ rest := by
  constructor
  · intro h
    unfold afterComment? at h
    split at h
    · split at h
      · rename_i hopen
        obtain ⟨rfl, rfl⟩ := hopen
        obtain ⟨body, hbody, rfl⟩ := eq_of_afterClose? h
        exact ⟨_, ⟨body, hbody, rfl⟩, by simp [opening]⟩
      · simp at h
    · simp at h
  · intro h
    obtain ⟨comment, ⟨body, hbody, rfl⟩, rfl⟩ := h
    rw [List.append_assoc opening, List.append_assoc opening]
    show afterComment? (slash :: star :: (Utf8.encode body ++ closing ++ rest)) = some rest
    rw [afterComment?, if_pos ⟨rfl, rfl⟩]
    -- a star in the comment closes it only in front of a slash
    have hstar : (closing ++ rest).head? ≠ some slash := fun h =>
      absurd (Option.some.inj h) (by decide)
    rw [List.append_assoc, afterClose?_encode_append hbody hstar]
    exact afterClose?_closing rest

/-- **Of the comments that may begin at one place there is only one.** -/
theorem IsComment.eq_of_append_eq {comment comment' rest rest' : Bytes}
    (h : IsComment comment) (h' : IsComment comment')
    (heq : comment ++ rest = comment' ++ rest') : comment = comment' ∧ rest = rest' := by
  have h₁ : afterComment? (comment ++ rest) = some rest :=
    afterComment?_eq_some_iff.mpr ⟨comment, h, rfl⟩
  have h₂ : afterComment? (comment ++ rest) = some rest' :=
    afterComment?_eq_some_iff.mpr ⟨comment', h', heq⟩
  obtain rfl := Option.some.inj (h₁.symm.trans h₂)
  exact ⟨List.append_cancel_right heq, rfl⟩

theorem begins_iff {bs : Bytes} : Begins bs ↔ ∃ rest, afterComment? bs = some rest := by
  simp only [afterComment?_eq_some_iff]
  constructor
  · intro h
    obtain ⟨comment, hc, rest, rfl⟩ := h
    exact ⟨rest, comment, hc, rfl⟩
  · intro h
    obtain ⟨rest, comment, hc, rfl⟩ := h
    exact ⟨comment, hc, List.prefix_append ..⟩

/-- Both marks belong to it. -/
theorem IsComment.four_le_length {comment : Bytes} (h : IsComment comment) :
    4 ≤ comment.length := by
  obtain ⟨body, -, rfl⟩ := h
  simp only [opening, closing, List.length_append, List.length_cons, List.length_nil]
  omega

theorem Begins.opening_prefix {bs : Bytes} (h : Begins bs) : opening <+: bs := by
  obtain ⟨comment, ⟨body, -, rfl⟩, hpre⟩ := h
  rw [List.append_assoc] at hpre
  exact (List.prefix_append ..).trans hpre

theorem Begins.closing_infix {bs : Bytes} (h : Begins bs) : closing <:+: bs := by
  obtain ⟨comment, ⟨body, -, rfl⟩, hpre⟩ := h
  exact List.infix_append_right.trans hpre.isInfix

end Codebook.Comment
