import Codebook.Proofs.Comment.InText

/-!
# Stripping again

Taking a comment out brings together what stood on either side of it, and that may be a new `/*`.
In a text this is the only way in which a comment can be left: a `/*` inside a gap has no `*/`
behind it (`Leftmost.not_closing_last`), so one that is followed by a `*/` stands over a **seam**,
its `/` at the end of one gap and its `*` at the start of the next one that is not empty. A second
pass changes something exactly if there is a seam with a `*/` somewhere behind it.
-/

namespace Codebook.Comment

/-- A `/` ends a gap and a `*` begins the next one that is not empty. The `/` is at a place of what
the gaps make up. -/
inductive Seam : List Bytes → Nat → Prop where
  | mk (front between behind : List Bytes) (inside inside' : Bytes) :
      (∀ gap ∈ between, gap = []) →
      Seam (front ++ (inside ++ [slash]) :: (between ++ (star :: inside') :: behind))
        (front.flatten ++ inside).length

/-! ## Where a mark is -/

theorem flatten_of_empty {between : List Bytes} (h : ∀ gap ∈ between, gap = []) :
    between.flatten = [] := List.flatten_eq_nil_iff.2 h

/-- A `/*` stands over a seam. -/
theorem Seam.exists_opening {gaps : List Bytes} {place : Nat} (h : Seam gaps place) :
    ∃ front rest, gaps.flatten = front ++ opening ++ rest ∧ front.length = place := by
  obtain ⟨front, between, behind, inside, inside', hempty⟩ := h
  refine ⟨front.flatten ++ inside, inside' ++ behind.flatten, ?_, rfl⟩
  simp only [List.flatten_append, List.flatten_cons, flatten_of_empty hempty, opening,
    List.append_assoc, List.cons_append, List.nil_append]

/-- A `/*` in what gaps make up stands in one of them or over a seam. -/
theorem mem_or_seam_of_opening {gaps : List Bytes} {front rest : Bytes}
    (h : gaps.flatten = front ++ opening ++ rest) :
    (∃ before gap behind inside inside', gaps = before ++ gap :: behind ∧
      gap = inside ++ opening ++ inside' ∧ rest = inside' ++ behind.flatten) ∨
    Seam gaps front.length := by
  have hslash : gaps.flatten = front ++ slash :: star :: rest := by
    rw [h, List.append_assoc]
    rfl
  -- the gap with the `/`, and what stands in it behind the `/`
  obtain ⟨before, inside, more, behind, rfl, rfl, hstar⟩ : ∃ before inside more behind,
      gaps = before ++ (inside ++ slash :: more) :: behind ∧ front = before.flatten ++ inside ∧
        star :: rest = more ++ behind.flatten := by
    rcases List.flatten_eq_append_iff.1 hslash with
      ⟨before, back, rfl, rfl, hback⟩ | ⟨before, inside, b, more, behind, rfl, rfl, hmore⟩
    · obtain ⟨between, more, behind, rfl, hempty, hrest⟩ := List.flatten_eq_cons_iff.1 hback.symm
      refine ⟨before ++ between, [], more, behind, by simp, ?_, hrest⟩
      rw [List.flatten_append, flatten_of_empty hempty, List.append_nil, List.append_nil]
    · obtain ⟨rfl, hrest⟩ := List.cons.inj hmore
      exact ⟨before, inside, more, behind, rfl, rfl, hrest⟩
  cases more with
  | cons b more =>
    obtain ⟨rfl, rfl⟩ := List.cons.inj hstar
    exact .inl ⟨before, _, behind, inside, more, rfl, by simp [opening], rfl⟩
  | nil =>
    obtain ⟨between, inside', behind, rfl, hempty, -⟩ := List.flatten_eq_cons_iff.1 hstar.symm
    exact .inr (.mk before between behind inside inside' hempty)

/-- What stands behind a `/*` is what has a place two bytes behind it or later. -/
theorem closing_behind_opening_iff (front rest : Bytes) :
    closing <:+: rest ↔
      ∃ later, front.length + 2 ≤ later ∧ closing <+: (front ++ opening ++ rest).drop later := by
  have hlength : (front ++ opening).length = front.length + 2 := List.length_append
  constructor
  · rintro ⟨inside, more, rfl⟩
    refine ⟨front.length + 2 + inside.length, Nat.le_add_right .., more, ?_⟩
    rw [← hlength, ← List.drop_drop, List.drop_left, List.append_assoc, List.drop_left]
  · rintro ⟨later, hle, hclosing⟩
    obtain ⟨more, rfl⟩ := Nat.exists_eq_add_of_le hle
    rw [← hlength, ← List.drop_drop, List.drop_left] at hclosing
    exact hclosing.isInfix.trans (List.drop_suffix more rest).isInfix

/-! ## The second pass -/

/-- **A pass changes a text exactly if a `*/` stands behind a `/*`.** -/
theorem strip_ne_self_iff (text : Text) :
    strip (Utf8.encode text) ≠ Utf8.encode text ↔
      ∃ front rest, Utf8.encode text = front ++ opening ++ rest ∧ closing <:+: rest := by
  constructor
  · intro hne
    obtain ⟨pieces, last, heq, hleft⟩ := exists_leftmost (Utf8.encode text)
    cases hleft with
    | last hgap => exact absurd (heq ▸ strip_of_clear hgap) hne
    -- the first comment that is cut out
    | @piece gap comment _ pieces hcomment _ _ =>
      obtain ⟨body, -, rfl⟩ := hcomment
      refine ⟨gap, Utf8.encode body ++ closing ++ joined pieces last, ?_, ?_⟩
      · rw [← heq, joined]
        simp only [List.append_assoc]
      · exact ⟨Utf8.encode body, joined pieces last, rfl⟩
  · rintro ⟨front, rest, heq, hclosing⟩ hsame
    -- a text that stays as it is has no opening with a closing behind it
    have hnot := (clear_of_strip_eq hsame).not_closing (List.append_nil _) heq
    rw [List.append_nil] at hnot
    exact hnot hclosing

/-- Of the gaps of a text one with a `/*` is the last, and there is no `*/` behind it. -/
theorem Leftmost.not_closing_of_gap {pieces : List (Bytes × Bytes)} {last : Bytes} {text : Text}
    (h : Leftmost pieces last) (heq : joined pieces last = Utf8.encode text)
    {before behind : List Bytes} {inside inside' : Bytes}
    (hgaps : gapList pieces last = before ++ (inside ++ opening ++ inside') :: behind) :
    ¬ closing <:+: inside' ++ behind.flatten := by
  -- only the last gap may have an opening in it
  rcases List.eq_nil_or_concat behind with rfl | ⟨behind, final, rfl⟩
  · obtain ⟨-, hlast⟩ := List.append_inj' hgaps rfl
    rw [List.flatten_nil, List.append_nil]
    exact h.not_closing_last heq (List.singleton_inj.1 hlast)
  · rw [List.concat_eq_append, ← List.cons_append, ← List.append_assoc] at hgaps
    obtain ⟨hpieces, -⟩ := List.append_inj' hgaps rfl
    have hmem : inside ++ opening ++ inside' ∈ pieces.map Prod.fst := by
      rw [hpieces]
      exact List.mem_append_right _ List.mem_cons_self
    obtain ⟨piece, hpiece, hgap⟩ := List.mem_map.1 hmem
    exact absurd ⟨inside, inside', hgap.symm⟩ (h.not_opening heq piece hpiece)

/-- A `/*` with a `*/` behind it, in what is left of a text, stands over a seam. -/
theorem Leftmost.seam_of_marks {pieces : List (Bytes × Bytes)} {last : Bytes} {text : Text}
    (h : Leftmost pieces last) (heq : joined pieces last = Utf8.encode text) {front rest : Bytes}
    (hopen : (gapList pieces last).flatten = front ++ opening ++ rest)
    (hclosing : closing <:+: rest) :
    Seam (gapList pieces last) front.length := by
  refine (mem_or_seam_of_opening hopen).resolve_left ?_
  rintro ⟨_, _, _, _, _, hgaps, rfl, rfl⟩
  exact h.not_closing_of_gap heq hgaps hclosing

/--
**A second pass changes something exactly if a `*/` stands behind a seam.**

So stripping twice is stripping once for every text in which no comment that is taken out stands
between a `/` and a `*` of what is left.
-/
theorem strip_strip_ne_iff (text : Text) :
    ∃ cut : Cut (Utf8.encode text), (∀ other : Cut (Utf8.encode text), other = cut) ∧
      let left := strip (Utf8.encode text)
      left = cut.gapList.flatten ∧
      (strip left ≠ left ↔
        ∃ place, Seam cut.gapList place ∧
          ∃ later, place + 2 ≤ later ∧ closing <+: left.drop later) ∧
      ((∀ place, ¬ Seam cut.gapList place) → strip left = left) := by
  obtain ⟨pieces, last, heq, hleft⟩ := exists_leftmost (Utf8.encode text)
  obtain ⟨rest, -, hrest⟩ := exists_sublist_of_joined hleft.isComment heq
  have hgaps : strip (Utf8.encode text) = (gapList pieces last).flatten := by
    rw [flatten_gapList, ← strip_joined hleft, heq]
  have hmarks : strip (strip (Utf8.encode text)) ≠ strip (Utf8.encode text) ↔
      ∃ front behind, (gapList pieces last).flatten = front ++ opening ++ behind ∧
        closing <:+: behind := by
    -- what is left is a text, so every `/*` with a `*/` behind it opens a comment
    have htext : strip (Utf8.encode text) = Utf8.encode rest := by
      rw [hgaps, flatten_gapList, hrest]
    rw [htext, strip_ne_self_iff, ← htext, hgaps]
  have hagain : strip (strip (Utf8.encode text)) ≠ strip (Utf8.encode text) ↔
      ∃ place, Seam (gapList pieces last) place ∧
        ∃ later, place + 2 ≤ later ∧ closing <+: (strip (Utf8.encode text)).drop later := by
    rw [hmarks, hgaps]
    constructor
    · rintro ⟨front, behind, hopen, hclosing⟩
      refine ⟨front.length, hleft.seam_of_marks heq hopen hclosing, ?_⟩
      rw [hopen]
      exact (closing_behind_opening_iff front behind).1 hclosing
    · rintro ⟨place, hseam, hlater⟩
      obtain ⟨front, behind, hopen, rfl⟩ := hseam.exists_opening
      rw [hopen] at hlater
      exact ⟨front, behind, hopen, (closing_behind_opening_iff front behind).2 hlater⟩
  refine ⟨⟨pieces, last, heq, hleft⟩, fun other => other.eq _, hgaps, hagain, fun hnone => ?_⟩
  refine Decidable.byContradiction fun hne => ?_
  obtain ⟨place, hseam, -⟩ := hagain.1 hne
  exact hnone place hseam

/-- Over the seam of `/` and `**/` a comment comes up that the first pass did not see; and with a
blank in front of the star there is no seam. -/
theorem strip_strip_ne_iff_star :
    (∃ (cut : Cut (Utf8.encode "//**/**/".toList)) (place : Nat), Seam cut.gapList place ∧
      ∃ later, place + 2 ≤ later ∧ closing <+: (strip (Utf8.encode "//**/**/".toList)).drop later) ∧
    (∃ cut : Cut (Utf8.encode "//**/ **/".toList), (∀ place, ¬ Seam cut.gapList place) ∧
      strip (strip (Utf8.encode "//**/ **/".toList)) = strip (Utf8.encode "//**/ **/".toList)) := by
  constructor
  · obtain ⟨cut, -, -, hagain, -⟩ := strip_strip_ne_iff "//**/**/".toList
    exact ⟨cut, hagain.1 (by decide +kernel)⟩
  · obtain ⟨cut, -, hleft, -, hnone⟩ := strip_strip_ne_iff "//**/ **/".toList
    have hplain : ¬ opening <:+: strip (Utf8.encode "//**/ **/".toList) := by decide +kernel
    have hseam (place : Nat) : ¬ Seam cut.gapList place := fun h => by
      obtain ⟨front, rest, hopen, -⟩ := h.exists_opening
      exact hplain ⟨front, rest, hopen.symm.trans hleft.symm⟩
    exact ⟨cut, hseam, hnone hseam⟩

end Codebook.Comment
