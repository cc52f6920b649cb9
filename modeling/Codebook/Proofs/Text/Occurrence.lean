import Mathlib.Data.List.Infix
import Mathlib.Data.List.Pairwise
import Mathlib.Data.List.Sort
import Codebook.Text.Split

/-!
# Where a separator stands in a text

A separator may stand at places that overlap, as `aa` does in `aaa`. Cutting takes the leftmost one
and goes on behind it, so it finds places that do not overlap, and the other places at which the
separator stands begin inside one of these. There is only one choice of places with that property,
and it is `Leftmost`.

Whether a separator stands at a place is known from the text up to its end. So what follows a
separator does not matter to whether it is the leftmost one, and `FirstAt` is asked of the text that
ends with it.
-/

namespace Codebook.Text

/-- The text goes on with the separator behind so many characters. -/
def OccursAt (sep t : Text) (i : Nat) : Prop := sep <+: t.drop i

/-- The leftmost place of the separator. -/
structure FirstAt (sep t : Text) (i : Nat) : Prop where
  occurs : OccursAt sep t i
  not_before : ∀ j < i, ¬ OccursAt sep t j

/-- Places that are chosen from the left: they do not overlap, and wherever the separator stands,
this begins inside one of them. -/
structure Leftmost (sep t : Text) (places : List Nat) : Prop where
  occurs : ∀ p ∈ places, OccursAt sep t p
  apart : places.Pairwise fun p q => p + sep.length ≤ q
  exists_around : ∀ i, OccursAt sep t i → ∃ p ∈ places, p ≤ i ∧ i < p + sep.length

instance (sep t : Text) (i : Nat) : Decidable (OccursAt sep t i) :=
  inferInstanceAs (Decidable (sep <+: t.drop i))

instance (sep t : Text) (i : Nat) : Decidable (FirstAt sep t i) :=
  decidable_of_iff (OccursAt sep t i ∧ ∀ j < i, ¬ OccursAt sep t j)
    ⟨fun h => ⟨h.1, h.2⟩, fun h => ⟨h.occurs, h.not_before⟩⟩

section

variable {sep t u front behind : Text} {i j : Nat}

/-! ## Places -/

theorem occursAt_length_append :
    OccursAt sep (front ++ t) (front.length + i) ↔ OccursAt sep t i := by
  unfold OccursAt
  rw [List.drop_append, List.drop_of_length_le (Nat.le_add_right ..), List.nil_append,
    Nat.add_sub_cancel_left]

theorem OccursAt.add_length_le (h : OccursAt sep t i) (hsep : sep ≠ []) :
    i + sep.length ≤ t.length := by
  have hle := h.length_le
  have hpos := List.length_pos_iff.2 hsep
  rw [List.length_drop] at hle
  omega

/-- Text behind the end of the separator does not matter. -/
theorem occursAt_append_iff (h : i + sep.length ≤ t.length) :
    OccursAt sep (t ++ u) i ↔ OccursAt sep t i := by
  unfold OccursAt
  rw [List.drop_append_of_le_length (by omega)]
  refine ⟨fun hpre => ?_, fun hpre => hpre.trans (List.prefix_append ..)⟩
  have hle : sep.length ≤ (t.drop i).length := by
    rw [List.length_drop]
    omega
  exact List.prefix_of_prefix_length_le hpre (List.prefix_append ..) hle

theorem infix_iff_exists_occursAt : sep <:+: t ↔ ∃ i, OccursAt sep t i := by
  constructor
  · rintro ⟨front, behind, rfl⟩
    exact ⟨front.length, by
      rw [OccursAt, List.append_assoc, List.drop_left]; exact List.prefix_append ..⟩
  · rintro ⟨i, h⟩
    exact h.isInfix.trans (List.drop_suffix i t).isInfix

/-! ## The leftmost place -/

theorem FirstAt.unique (h : FirstAt sep t i) (h' : FirstAt sep t j) : i = j :=
  Nat.le_antisymm (Nat.le_of_not_lt fun hlt => h.not_before j hlt h'.occurs)
    (Nat.le_of_not_lt fun hlt => h'.not_before i hlt h.occurs)

theorem FirstAt.cons {c : Char} (hc : ¬ sep <+: c :: t) (h : FirstAt sep t i) :
    FirstAt sep (c :: t) (i + 1) := by
  refine ⟨h.occurs, fun j hj => ?_⟩
  cases j with
  | zero => exact hc
  | succ j => exact h.not_before j (Nat.lt_of_succ_lt_succ hj)

/-- What follows the separator does not matter: to begin further left it would have to end in
front of the end of this one. -/
theorem firstAt_append_iff :
    FirstAt sep (front ++ sep ++ behind) front.length ↔
      FirstAt sep (front ++ sep) front.length := by
  have hsame : ∀ j ≤ front.length,
      (OccursAt sep (front ++ sep ++ behind) j ↔ OccursAt sep (front ++ sep) j) := fun j hj =>
    occursAt_append_iff (by rw [List.length_append]; omega)
  constructor
  · intro h
    exact ⟨(hsame _ (Nat.le_refl _)).1 h.occurs, fun j hj hocc =>
      h.not_before j hj ((hsame j (Nat.le_of_lt hj)).2 hocc)⟩
  · intro h
    exact ⟨(hsame _ (Nat.le_refl _)).2 h.occurs, fun j hj hocc =>
      h.not_before j hj ((hsame j (Nat.le_of_lt hj)).1 hocc)⟩

/-- In front of the leftmost separator there is none. -/
theorem FirstAt.not_infix (h : FirstAt sep (front ++ sep) front.length) (hsep : sep ≠ []) :
    ¬ sep <:+: front := by
  intro hin
  obtain ⟨j, hj⟩ := infix_iff_exists_occursAt.1 hin
  have hle := hj.add_length_le hsep
  have hpos := List.length_pos_iff.2 hsep
  exact h.not_before j (by omega) ((occursAt_append_iff hle).2 hj)

/-! ## Cutting -/

theorem cut?_eq_none_iff : cut? sep t = none ↔ ¬ sep <:+: t := by
  induction t with
  | nil =>
    rw [cut?, List.infix_nil]
    cases sep <;> simp
  | cons c t ih =>
    rw [cut?, List.infix_cons_iff, not_or, ← ih, ← List.isPrefixOf_iff_prefix]
    split
    · next hpre => simp [hpre]
    · next hpre => simp [hpre]

theorem firstAt_of_cut? (h : cut? sep t = some (front, behind)) : FirstAt sep t front.length := by
  induction t generalizing front with
  | nil =>
    have heq := eq_append_of_cut? h
    simp only [List.nil_eq, List.append_eq_nil_iff] at heq
    obtain ⟨⟨rfl, rfl⟩, -⟩ := heq
    exact ⟨List.nil_prefix, fun j hj => absurd hj (Nat.not_lt_zero j)⟩
  | cons c t ih =>
    -- the separator stands here, or it is looked for one place further on
    rw [cut?] at h
    split at h
    · next hpre =>
      simp only [Option.some.injEq, Prod.mk.injEq] at h
      obtain ⟨rfl, -⟩ := h
      exact ⟨List.isPrefixOf_iff_prefix.1 hpre, fun j hj => absurd hj (Nat.not_lt_zero j)⟩
    · next hpre =>
      obtain ⟨⟨front', behind'⟩, hcut, hpair⟩ := Option.map_eq_some_iff.1 h
      simp only [Prod.mk.injEq] at hpair
      obtain ⟨rfl, rfl⟩ := hpair
      exact (ih hcut).cons fun hpre' => hpre (List.isPrefixOf_iff_prefix.2 hpre')

/-- **A text is cut at the leftmost separator.** -/
theorem cut?_eq_some_iff :
    cut? sep t = some (front, behind) ↔
      t = front ++ sep ++ behind ∧ FirstAt sep (front ++ sep) front.length := by
  constructor
  · intro h
    have heq := eq_append_of_cut? h
    exact ⟨heq, firstAt_append_iff.1 (heq ▸ firstAt_of_cut? h)⟩
  · rintro ⟨rfl, hfirst⟩
    cases hcut : cut? sep (front ++ sep ++ behind) with
    | none => exact absurd ⟨front, behind, rfl⟩ (cut?_eq_none_iff.1 hcut)
    | some cut =>
      obtain ⟨front', behind'⟩ := cut
      -- there is only one first place
      have hlength := (firstAt_of_cut? hcut).unique (firstAt_append_iff.2 hfirst)
      have heq := eq_append_of_cut? hcut
      simp only [List.append_assoc] at heq
      obtain ⟨rfl, hrest⟩ := List.append_inj heq hlength.symm
      rw [List.append_cancel_left hrest]

/-! ## Pieces -/

theorem pieces_of_cut? (hsep : sep ≠ []) (h : cut? sep t = some (front, behind)) :
    pieces sep hsep t = front :: pieces sep hsep behind := by
  rw [pieces]
  split
  · next hnone => cases h.symm.trans hnone
  · next hsome =>
    rw [h, Option.some.injEq, Prod.mk.injEq] at hsome
    obtain ⟨rfl, rfl⟩ := hsome
    rfl

theorem pieces_of_not_infix (hsep : sep ≠ []) (h : ¬ sep <:+: t) : pieces sep hsep t = [t] := by
  have hcut := cut?_eq_none_iff.2 h
  rw [pieces]
  split
  · rfl
  · next hsome => cases hcut.symm.trans hsome

/-- The text in front of the leftmost separator is a piece. -/
theorem pieces_append (hsep : sep ≠ []) (h : FirstAt sep (front ++ sep) front.length) :
    pieces sep hsep (front ++ sep ++ behind) = front :: pieces sep hsep behind :=
  pieces_of_cut? hsep (cut?_eq_some_iff.2 ⟨rfl, h⟩)

/-- A piece that ends at a separator ends at the leftmost one. -/
theorem pieces_append_eq_cons_iff {rest : List Text} (hsep : sep ≠ []) :
    pieces sep hsep (front ++ sep ++ behind) = front :: rest ↔
      FirstAt sep (front ++ sep) front.length ∧ pieces sep hsep behind = rest := by
  constructor
  · intro h
    cases hcut : cut? sep (front ++ sep ++ behind) with
    | none => exact absurd ⟨front, behind, rfl⟩ (cut?_eq_none_iff.1 hcut)
    | some cut =>
      obtain ⟨front', behind'⟩ := cut
      rw [pieces_of_cut? hsep hcut] at h
      obtain ⟨rfl, hrest⟩ := List.cons.inj h
      -- both cuts have the same piece in front, so they are the same
      obtain ⟨heq, hfirst⟩ := cut?_eq_some_iff.1 hcut
      rw [List.append_cancel_left heq]
      exact ⟨hfirst, hrest⟩
  · rintro ⟨hfirst, rfl⟩
    exact pieces_append hsep hfirst

theorem pieces_eq_singleton_iff (hsep : sep ≠ []) :
    pieces sep hsep t = [t] ↔ ¬ sep <:+: t := by
  refine ⟨fun h => ?_, pieces_of_not_infix hsep⟩
  cases hcut : cut? sep t with
  | none => exact cut?_eq_none_iff.1 hcut
  | some cut =>
    rw [pieces_of_cut? hsep hcut] at h
    exact absurd (List.cons.inj h).2 (pieces_ne_nil _ _ _)

/-- No piece holds the separator. -/
theorem not_infix_of_mem_pieces (hsep : sep ≠ []) {piece : Text} (h : piece ∈ pieces sep hsep t) :
    ¬ sep <:+: piece := by
  fun_induction pieces sep hsep t with
  | case1 t hcut =>
    rw [List.mem_singleton.1 h]
    exact cut?_eq_none_iff.1 hcut
  | case2 t front behind hcut _ ih =>
    rcases List.mem_cons.1 h with rfl | h
    · obtain ⟨rfl, hfirst⟩ := cut?_eq_some_iff.1 hcut
      exact hfirst.not_infix hsep
    · exact ih h

/-! ## Pieces of texts that were put together -/

/-- Texts are found again between their separators, if none of those is found too early. -/
theorem pieces_intercalate_concat (hsep : sep ≠ []) {texts : List Text} {last : Text}
    (htexts : ∀ text ∈ texts, FirstAt sep (text ++ sep) text.length) (hlast : ¬ sep <:+: last) :
    pieces sep hsep (sep.intercalate (texts ++ [last])) = texts ++ [last] := by
  induction texts with
  | nil =>
    rw [List.nil_append, List.intercalate_singleton]
    exact pieces_of_not_infix hsep hlast
  | cons text texts ih =>
    obtain ⟨htext, htexts⟩ := List.forall_mem_cons.1 htexts
    rw [List.cons_append, List.intercalate_cons_of_ne_nil (by simp), pieces_append hsep htext,
      ih htexts]

theorem exists_concat_of_pieces_intercalate (hsep : sep ≠ []) {texts : List Text}
    (h : pieces sep hsep (sep.intercalate texts) = texts) :
    ∃ front last, texts = front ++ [last] ∧
      (∀ text ∈ front, FirstAt sep (text ++ sep) text.length) ∧ ¬ sep <:+: last := by
  induction texts with
  | nil => exact absurd h (pieces_ne_nil sep hsep _)
  | cons text texts ih =>
    -- the last text has no separator behind it, so it must not hold one
    by_cases hempty : texts = []
    · subst hempty
      rw [List.intercalate_singleton, pieces_eq_singleton_iff] at h
      exact ⟨[], text, rfl, fun _ hmem => absurd hmem List.not_mem_nil, h⟩
    · rw [List.intercalate_cons_of_ne_nil hempty, pieces_append_eq_cons_iff] at h
      obtain ⟨hfirst, hrest⟩ := h
      obtain ⟨front, last, rfl, hfront, hlast⟩ := ih hrest
      exact ⟨text :: front, last, rfl, List.forall_mem_cons.2 ⟨hfirst, hfront⟩, hlast⟩

/-! ## Choosing places from the left -/

theorem leftmost_nil (h : ¬ sep <:+: t) : Leftmost sep t [] where
  occurs _ hmem := absurd hmem List.not_mem_nil
  apart := .nil
  exists_around i hi := absurd (infix_iff_exists_occursAt.2 ⟨i, hi⟩) h

/-- The leftmost place comes first, and the others are those of the text behind it. -/
theorem Leftmost.cons {places : List Nat} (h : Leftmost sep behind places)
    (hfirst : FirstAt sep (front ++ sep) front.length) :
    Leftmost sep (front ++ sep ++ behind)
      (front.length :: places.map ((front ++ sep).length + ·)) where
  occurs p hp := by
    rcases List.mem_cons.1 hp with rfl | hp
    · exact (firstAt_append_iff.2 hfirst).occurs
    · obtain ⟨q, hq, rfl⟩ := List.mem_map.1 hp
      exact occursAt_length_append.2 (h.occurs q hq)
  apart := by
    refine List.pairwise_cons.2 ⟨fun p hp => ?_, List.pairwise_map.2 (h.apart.imp fun hle => ?_)⟩
    · obtain ⟨q, -, rfl⟩ := List.mem_map.1 hp
      rw [List.length_append]
      omega
    · omega
  exists_around i hi := by
    have hlength : (front ++ sep).length = front.length + sep.length := List.length_append
    have hge : front.length ≤ i :=
      Nat.le_of_not_lt fun hlt => (firstAt_append_iff.2 hfirst).not_before i hlt hi
    -- an occurrence runs into the first one, or stands behind it
    by_cases hin : i < front.length + sep.length
    · exact ⟨front.length, List.mem_cons_self, hge, hin⟩
    · obtain ⟨j, rfl⟩ := Nat.exists_eq_add_of_le (m := (front ++ sep).length) (n := i) (by omega)
      obtain ⟨q, hq, hle, hlt⟩ := h.exists_around j (occursAt_length_append.1 hi)
      exact ⟨(front ++ sep).length + q, List.mem_cons_of_mem _ (List.mem_map.2 ⟨q, hq, rfl⟩),
        by omega, by omega⟩

/-- There is one piece more than places are chosen. -/
theorem exists_leftmost_pieces (hsep : sep ≠ []) (t : Text) :
    ∃ places, Leftmost sep t places ∧ (pieces sep hsep t).length = places.length + 1 := by
  fun_induction pieces sep hsep t with
  | case1 t hcut => exact ⟨[], leftmost_nil (cut?_eq_none_iff.1 hcut), rfl⟩
  | case2 t front behind hcut _ ih =>
    obtain ⟨places, hplaces, hlength⟩ := ih
    obtain ⟨rfl, hfirst⟩ := cut?_eq_some_iff.1 hcut
    refine ⟨_, hplaces.cons hfirst, ?_⟩
    rw [List.length_cons, List.length_cons, List.length_map, hlength]

/-- Of two places the one further left ends in front of the other. -/
theorem Leftmost.add_length_le {places : List Nat} (h : Leftmost sep t places) {p q : Nat}
    (hp : p ∈ places) (hq : q ∈ places) (hlt : q < p) : q + sep.length ≤ p := by
  have hapart : places.Pairwise fun a b => a + sep.length ≤ b ∨ b + sep.length ≤ a :=
    h.apart.imp Or.inl
  have : Std.Symm fun a b => a + sep.length ≤ b ∨ b + sep.length ≤ a := ⟨fun _ _ => Or.symm⟩
  rcases hapart.forall hp hq (Nat.ne_of_gt hlt) with hle | hle
  · omega
  · exact hle

/-- A place that is chosen once is chosen again, if those further left are. -/
theorem Leftmost.mem_of_mem {places places' : List Nat} (h : Leftmost sep t places)
    (h' : Leftmost sep t places') {p : Nat} (hleft : ∀ q < p, q ∈ places' → q ∈ places)
    (hp : p ∈ places) : p ∈ places' := by
  obtain ⟨q, hq, hle, hlt⟩ := h'.exists_around p (h.occurs p hp)
  rcases Nat.lt_or_eq_of_le hle with hbefore | rfl
  · have hend := h.add_length_le hp (hleft q hbefore hq) hbefore
    omega
  · exact hq

/-- **There is one way to choose the places.** -/
theorem Leftmost.unique {places places' : List Nat} (hsep : sep ≠ []) (h : Leftmost sep t places)
    (h' : Leftmost sep t places') : places = places' := by
  have hpos := List.length_pos_iff.2 hsep
  have hsame : ∀ p, p ∈ places ↔ p ∈ places' := by
    -- from the left: what is chosen further left is known to be the same
    intro p
    induction p using Nat.strongRecOn with
    | ind p ih =>
      exact ⟨h.mem_of_mem h' fun q hq => (ih q hq).2, h'.mem_of_mem h fun q hq => (ih q hq).1⟩
  have hascending : ∀ {places}, Leftmost sep t places → places.Pairwise (· < ·) := fun hplaces =>
    hplaces.apart.imp fun hle => by omega
  exact (hascending h).eq_of_mem_iff (hascending h') hsame

end

end Codebook.Text
