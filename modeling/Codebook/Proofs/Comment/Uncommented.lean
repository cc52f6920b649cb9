import Codebook.Proofs.Comment.Seam
import Codebook.Proofs.Comment.Transparency
import Codebook.Proofs.Text.Occurrence

/-!
# Comments by characters

A text can be freed of its comments without its bytes: it is cut at the leftmost `/*`, then at the
next `*/`, and so on behind that (`uncommented`). Its characters fall into gaps and comments in this
way, and they do so in one way only (`TextCut`). The scan of the bytes finds the very same gaps and
comments, since both marks are made of characters that are one byte each. So it never cuts a
character in two, and leaves the bytes of what the cutting of the text leaves.
-/

namespace Codebook.Comment

/-! ## Cutting a text -/

/-- The text without its comments. Each of them goes from the leftmost `/*` up to the next `*/`; a
`/*` with no `*/` behind it stays, and so does all that follows it. -/
def uncommented (text : Text) : Text :=
  match hopen : Text.cut? ['/', '*'] text with
  | none => text
  | some (front, inside) =>
    match hclose : Text.cut? ['*', '/'] inside with
    | none => text
    | some (_, behind) =>
      have : behind.length < text.length :=
        (Text.length_lt_of_cut? (by simp) hclose).trans (Text.length_lt_of_cut? (by simp) hopen)
      front ++ uncommented behind
termination_by text.length
decreasing_by exact this

/-- Gaps, each with a comment around the text beside it, and the gap behind the last comment. -/
def commented : List (Text × Text) → Text → Text
  | [], last => last
  | (gap, inside) :: pieces, last =>
    gap ++ ['/', '*'] ++ inside ++ ['*', '/'] ++ commented pieces last

/-- A comment opens at the leftmost `/*` and closes at the next `*/`, and nothing in the last gap
opens and closes. -/
inductive Scanned : List (Text × Text) → Text → Prop where
  | last {gap : Text} :
      (∀ front rest, gap = front ++ ['/', '*'] ++ rest → ¬ ['*', '/'] <:+: rest) → Scanned [] gap
  | piece {gap inside last : Text} {pieces : List (Text × Text)} :
      ¬ ['/', '*'] <:+: gap → ¬ ['*', '/'] <:+: inside → Scanned pieces last →
      Scanned ((gap, inside) :: pieces) last

/-- A text cut into gaps and comments. -/
structure TextCut (text : Text) where
  pieces : List (Text × Text)
  last : Text
  commented_eq : commented pieces last = text
  scanned : Scanned pieces last

/-- What is left of the text without the comments. -/
def TextCut.gaps {text : Text} (cut : TextCut text) : Text :=
  cut.pieces.flatMap Prod.fst ++ cut.last

/-- What follows any `/*` is the end of what follows the leftmost one. -/
theorem not_closing_of_cut? {text front inside : Text}
    (hopen : Text.cut? ['/', '*'] text = some (front, inside)) (hclose : ¬ ['*', '/'] <:+: inside)
    {front' rest : Text} (heq : text = front' ++ ['/', '*'] ++ rest) : ¬ ['*', '/'] <:+: rest := by
  have hocc : Text.OccursAt ['/', '*'] text front'.length := by
    rw [heq, List.append_assoc, Text.OccursAt, List.drop_left]
    exact List.prefix_append ..
  have hle : front.length ≤ front'.length := Nat.le_of_not_lt fun hlt =>
    (Text.firstAt_of_cut? hopen).not_before _ hlt hocc
  have hrest : text.drop (front' ++ ['/', '*']).length = rest := by rw [heq, List.drop_left]
  have hinside : text.drop (front ++ ['/', '*']).length = inside := by
    rw [Text.eq_append_of_cut? hopen, List.drop_left]
  -- this opening is the first one or stands behind it
  have hsuffix : rest <:+ inside := by
    rw [← hrest, ← hinside, List.length_append, List.length_append]
    exact List.drop_suffix_drop_left text (Nat.add_le_add_right hle 2)
  exact fun hin => hclose (hin.trans hsuffix.isInfix)

/-- **Cutting from mark to mark finds a cut, and leaves its gaps.** -/
theorem exists_scanned (text : Text) :
    ∃ pieces last, commented pieces last = text ∧ Scanned pieces last ∧
      uncommented text = pieces.flatMap Prod.fst ++ last := by
  fun_induction uncommented text with
  | case1 text hopen =>
    refine ⟨[], text, rfl, .last ?_, rfl⟩
    rintro front rest rfl
    exact absurd ⟨front, rest, rfl⟩ (Text.cut?_eq_none_iff.1 hopen)
  -- an opening that is never closed is text
  | case2 text front inside hopen hclose =>
    have hnone := Text.cut?_eq_none_iff.1 hclose
    exact ⟨[], text, rfl, .last fun _ _ heq => not_closing_of_cut? hopen hnone heq, rfl⟩
  | case3 text front inside hopen body behind hclose _ ih =>
    obtain ⟨pieces, last, rfl, hscanned, heq⟩ := ih
    obtain ⟨rfl, hfirst⟩ := Text.cut?_eq_some_iff.1 hopen
    obtain ⟨rfl, hnext⟩ := Text.cut?_eq_some_iff.1 hclose
    refine ⟨(front, body) :: pieces, last, ?_,
      .piece (hfirst.not_infix (by simp)) (hnext.not_infix (by simp)) hscanned, ?_⟩
    · simp only [commented, List.append_assoc]
    · rw [heq, List.flatMap_cons, List.append_assoc]

/-! ## The same in bytes -/

/-- The bytes of a gap and of the comment behind it. -/
def encodePiece (piece : Text × Text) : Bytes × Bytes :=
  (Utf8.encode piece.1, opening ++ Utf8.encode piece.2 ++ closing)

theorem eq_of_encodePiece_eq {piece piece' : Text × Text}
    (h : encodePiece piece = encodePiece piece') : piece = piece' := by
  obtain ⟨hgap, hcomment⟩ := Prod.mk.inj h
  rw [List.append_assoc, List.append_assoc, List.append_cancel_left_eq,
    List.append_cancel_right_eq] at hcomment
  exact Prod.ext (Utf8.eq_of_encode_eq hgap) (Utf8.eq_of_encode_eq hcomment)

variable {pieces : List (Text × Text)} {last : Text}

theorem joined_encodePiece (pieces : List (Text × Text)) (last : Text) :
    joined (pieces.map encodePiece) (Utf8.encode last) = Utf8.encode (commented pieces last) := by
  induction pieces with
  | nil => rfl
  | cons piece pieces ih =>
    rw [List.map_cons, encodePiece, joined, ih, commented, Utf8.encode_append, Utf8.encode_append,
      Utf8.encode_append, Utf8.encode_append, encode_opening, encode_closing]
    simp only [List.append_assoc]

theorem gaps_encodePiece (pieces : List (Text × Text)) (last : Text) :
    gaps (pieces.map encodePiece) (Utf8.encode last) =
      Utf8.encode (pieces.flatMap Prod.fst ++ last) := by
  induction pieces with
  | nil => rfl
  | cons piece pieces ih =>
    rw [List.map_cons, encodePiece, gaps, ih, List.flatMap_cons, List.append_assoc,
      Utf8.encode_append piece.1]

/-- **A cut of the text is a cut of its bytes.** -/
theorem Scanned.leftmost (h : Scanned pieces last) :
    Leftmost (pieces.map encodePiece) (Utf8.encode last) := by
  induction h with
  | @last gap hgap =>
    refine .last (clear_of_strip_eq (Decidable.byContradiction fun hne => ?_))
    obtain ⟨front, rest, heq, hclosing⟩ := (strip_ne_self_iff gap).1 hne
    rw [← encode_opening] at heq
    -- the marks are ASCII, so the bytes around them are texts as well
    obtain ⟨front, rest, rfl, -, rfl⟩ := Utf8.exists_of_append_encode (by decide) heq.symm
    rw [← encode_closing, Utf8.encode_infix_iff (by decide)] at hclosing
    exact hgap front rest rfl hclosing
  | @piece gap inside last pieces hgap hinside _ ih =>
    rw [← Utf8.encode_infix_iff (by decide), encode_opening] at hgap
    rw [← Utf8.encode_infix_iff (by decide), encode_closing] at hinside
    have hcomment : IsComment (opening ++ Utf8.encode inside ++ closing) := ⟨inside, hinside, rfl⟩
    refine .piece hcomment (clear_of_not_opening hgap ?_) ih
    rw [hcomment.head?_append]
    decide

/-- **A text is cut in one way only.** -/
theorem TextCut.eq {text : Text} (cut cut' : TextCut text) : cut = cut' := by
  obtain ⟨pieces, last, rfl, h⟩ := cut
  obtain ⟨pieces', last', heq, h'⟩ := cut'
  have hjoined : joined (pieces.map encodePiece) (Utf8.encode last) =
      joined (pieces'.map encodePiece) (Utf8.encode last') := by
    rw [joined_encodePiece, joined_encodePiece, heq]
  obtain ⟨hpieces, hlast⟩ := h.leftmost.unique h'.leftmost hjoined
  obtain rfl := List.map_injective_iff.2 (fun _ _ => eq_of_encodePiece_eq) hpieces
  obtain rfl := Utf8.eq_of_encode_eq hlast
  rfl

/--
**The scan of the bytes of a text is the cutting of the text.**

It leaves UTF-8, namely of the text without its comments, and its gaps and comments are the bytes of
those of the text.
-/
theorem decode?_strip {raw : Bytes} {text : Text} (h : Utf8.decode? raw = some text) :
    Utf8.decode? (strip raw) = some (uncommented text) ∧
    ∃ cut : TextCut text, (∀ other : TextCut text, other = cut) ∧ uncommented text = cut.gaps ∧
      ∃ bytes : Cut raw, bytes.pieces = cut.pieces.map encodePiece ∧
        bytes.last = Utf8.encode cut.last := by
  obtain rfl := Utf8.encode_of_decode? h
  obtain ⟨pieces, last, rfl, hscanned, hleft⟩ := exists_scanned text
  have hjoined := joined_encodePiece pieces last
  refine ⟨?_, ⟨pieces, last, rfl, hscanned⟩, fun other => other.eq _, hleft,
    ⟨_, _, hjoined, hscanned.leftmost⟩, rfl, rfl⟩
  rw [← hjoined, strip_joined hscanned.leftmost, gaps_encodePiece, Utf8.decode?_encode, hleft]

/-- Comments next to and around characters of two bytes, one of them with a `/*` inside and in front
of a `*/*/` that opens nothing. -/
theorem decode?_strip_wide :
    Utf8.decode? (Utf8.encode "é/*ü*/ö/*//*é*/*/*/ü".toList) = some "é/*ü*/ö/*//*é*/*/*/ü".toList ∧
    Utf8.decode? (strip (Utf8.encode "é/*ü*/ö/*//*é*/*/*/ü".toList)) = some "éö*/*/ü".toList := by
  have hdecode := Utf8.decode?_encode "é/*ü*/ö/*//*é*/*/*/ü".toList
  have hleft : uncommented "é/*ü*/ö/*//*é*/*/*/ü".toList = "éö*/*/ü".toList := by decide +kernel
  exact ⟨hdecode, (decode?_strip hdecode).1.trans (congrArg some hleft)⟩

end Codebook.Comment
