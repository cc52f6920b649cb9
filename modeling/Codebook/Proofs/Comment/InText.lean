import Codebook.Proofs.Comment.Cut

/-!
# Comments in a text

In UTF-8 no bytes stand in the way of a comment: each `/*` with a `*/` somewhere behind it begins
one (`begins_opening_iff`). Hence a `/*` that the scan has passed over has no `*/` behind it, so
there is no comment behind it either, and it can only be in the last gap. What is taken out are
whole characters, so a text is left, with some of the characters in their order.
-/

namespace Codebook.Comment

/-! ## Where a comment begins -/

/-- The first `*/` of a text ends a part of it that holds none. -/
theorem exists_first_closing {text : Text} (h : closing <:+: Utf8.encode text) :
    ∃ (body : Text) (rest : Bytes), Utf8.encode text = Utf8.encode body ++ closing ++ rest ∧
      ¬ closing <:+: Utf8.encode body := by
  induction text with
  | nil => exact absurd (List.infix_nil.1 h) (by decide)
  | cons c text ih =>
    by_cases hfront : closing <+: Utf8.encode (c :: text)
    · obtain ⟨rest, hrest⟩ := hfront
      exact ⟨[], rest, hrest.symm, by decide⟩
    · rw [Utf8.encode_cons] at h
      have hin : closing <:+: Utf8.encode text :=
        (Utf8.infix_encodeChar_append (by decide) h).resolve_left (by rwa [← Utf8.encode_cons])
      obtain ⟨body, rest, heq, hbody⟩ := ih hin
      have hwhole : Utf8.encode (c :: text) = Utf8.encode (c :: body) ++ closing ++ rest := by
        rw [Utf8.encode_cons, Utf8.encode_cons, heq]
        simp only [List.append_assoc]
      refine ⟨c :: body, rest, hwhole, fun hin => ?_⟩
      rw [Utf8.encode_cons] at hin
      rcases Utf8.infix_encodeChar_append (by decide) hin with hpre | hin
      · -- it would be in front of the whole text
        rw [← Utf8.encode_cons] at hpre
        rw [hwhole, List.append_assoc] at hfront
        exact hfront (hpre.trans (List.prefix_append _ _))
      · exact hbody hin

/-- **In a text a comment begins at each `/*` with a `*/` somewhere behind it.** -/
theorem begins_opening_iff (text : Text) :
    Begins (opening ++ Utf8.encode text) ↔ closing <:+: Utf8.encode text := by
  constructor
  · intro h
    obtain ⟨comment, ⟨body, -, rfl⟩, rest, heq⟩ := h
    simp only [List.append_assoc] at heq
    rw [← List.append_cancel_left heq]
    exact ⟨Utf8.encode body, rest, List.append_assoc ..⟩
  · intro h
    obtain ⟨body, rest, heq, hbody⟩ := exists_first_closing h
    rw [heq]
    exact ⟨_, ⟨body, hbody, rfl⟩, rest, by simp only [List.append_assoc]⟩

/-! ## Cutting a text -/

/-- A comment is whole characters, the first of them a slash. -/
theorem IsComment.eq_encode {comment : Bytes} (h : IsComment comment) :
    ∃ inner : Text, comment = Utf8.encode ('/' :: inner) := by
  obtain ⟨body, -, rfl⟩ := h
  refine ⟨'*' :: body ++ ['*', '/'], ?_⟩
  rw [← encode_opening, ← encode_closing, ← Utf8.encode_append, ← Utf8.encode_append]
  rfl

/-- A comment in a text cuts it between characters. -/
theorem IsComment.exists_texts {gap comment rest : Bytes} {text : Text} (h : IsComment comment)
    (heq : gap ++ comment ++ rest = Utf8.encode text) :
    ∃ front middle behind, text = front ++ middle ++ behind ∧ gap = Utf8.encode front ∧
      rest = Utf8.encode behind := by
  obtain ⟨inner, rfl⟩ := h.eq_encode
  obtain ⟨front, behind, rfl, rfl, rfl⟩ := Utf8.exists_of_append_encode (by decide) heq
  exact ⟨front, '/' :: inner, behind, rfl, rfl, rfl⟩

/-- **What is left of a text is a text, with some of the characters in their order.** -/
theorem exists_sublist_of_joined {pieces : List (Bytes × Bytes)} {last : Bytes} {text : Text}
    (hcomments : ∀ piece ∈ pieces, IsComment piece.2)
    (heq : joined pieces last = Utf8.encode text) :
    ∃ left : Text, left.Sublist text ∧ gaps pieces last = Utf8.encode left := by
  induction pieces generalizing text with
  | nil => exact ⟨text, .refl text, heq⟩
  | cons piece pieces ih =>
    obtain ⟨gap, comment⟩ := piece
    -- the comment is itself a stretch of the text
    obtain ⟨front, middle, behind, rfl, rfl, hrest⟩ :=
      IsComment.exists_texts (hcomments _ List.mem_cons_self) heq
    obtain ⟨left, hleft, hgaps⟩ :=
      ih (fun piece hp => hcomments piece (List.mem_cons_of_mem _ hp)) hrest
    refine ⟨front ++ left, ?_, ?_⟩
    · rw [List.append_assoc]
      exact (hleft.trans (List.sublist_append_right middle behind)).append_left front
    · rw [gaps, hgaps, Utf8.encode_append]

/-! ## Marks that the scan has passed over -/

/-- Behind a `/*` in a gap of a text there is no `*/`. -/
theorem Clear.not_closing {gap behind front rest : Bytes} {text : Text} (h : Clear gap behind)
    (heq : gap ++ behind = Utf8.encode text) (hgap : gap = front ++ opening ++ rest) :
    ¬ closing <:+: rest ++ behind := by
  subst hgap
  have hplace : front.length < (front ++ opening ++ rest).length := by
    simp only [opening, List.length_append, List.length_cons]
    omega
  have hnot := h _ hplace
  have hdrop : (front ++ opening ++ rest ++ behind).drop front.length =
      opening ++ (rest ++ behind) := by
    simp only [List.append_assoc, List.drop_left]
  rw [hdrop] at hnot
  -- what stands behind the two bytes is a text
  have hmark : front ++ Utf8.encode ['/', '*'] ++ (rest ++ behind) = Utf8.encode text := by
    rw [← heq, encode_opening, List.append_assoc (front ++ opening)]
  obtain ⟨_, text, -, -, hrest⟩ := Utf8.exists_of_append_encode (by decide) hmark
  rw [hrest, begins_opening_iff] at hnot
  rwa [hrest]

/-- **In a text only the last gap may hold a `/*`.** -/
theorem Leftmost.not_opening {pieces : List (Bytes × Bytes)} {last : Bytes} {text : Text}
    (h : Leftmost pieces last) (heq : joined pieces last = Utf8.encode text) :
    ∀ piece ∈ pieces, ¬ opening <:+: piece.1 := by
  induction h generalizing text with
  | last => exact fun piece hp => absurd hp List.not_mem_nil
  | @piece gap comment last pieces hcomment hgap _ ih =>
    intro piece hp
    rcases List.mem_cons.1 hp with rfl | hp
    · rintro ⟨front, rest, hopen⟩
      rw [joined, List.append_assoc] at heq
      have hnot := hgap.not_closing heq hopen.symm
      -- the comment behind the gap ends with one
      obtain ⟨body, -, rfl⟩ := hcomment
      exact hnot ⟨rest ++ opening ++ Utf8.encode body, joined pieces last, by
        simp only [List.append_assoc]⟩
    · obtain ⟨_, _, behind, -, -, hrest⟩ := hcomment.exists_texts heq
      exact ih hrest piece hp

/-- Behind a `/*` in the last gap there is no `*/`. -/
theorem Leftmost.not_closing_last {pieces : List (Bytes × Bytes)} {last front rest : Bytes}
    {text : Text} (h : Leftmost pieces last) (heq : joined pieces last = Utf8.encode text)
    (hlast : last = front ++ opening ++ rest) : ¬ closing <:+: rest := by
  induction h generalizing text with
  | last hgap =>
    have hnot := hgap.not_closing (by rwa [List.append_nil]) hlast
    rwa [List.append_nil] at hnot
  | piece hcomment _ _ ih =>
    obtain ⟨_, _, behind, -, -, hrest⟩ := hcomment.exists_texts heq
    exact ih hrest hlast

end Codebook.Comment
