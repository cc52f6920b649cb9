import Codebook.Phrase
import Codebook.Proofs.Text.Occurrence

/-!
# Splitting and joining

What is split is joined again, whatever the separator and however it overlaps with itself. The other
way round something is asked of the texts. That none of them holds the separator is not enough for
one that overlaps with itself: `a` and `b` with `aa` between them are `aaab`, and there the leftmost
`aa` is in front of everything. `split_join_eq_self_iff` says what is enough, and that nothing less
is.
-/

namespace Codebook.Phrase

open Text (FirstAt Leftmost pieces)

variable {separator value : Text} {values : List Text}

/-! ## The two kinds of separators -/

theorem split_of_ne_nil (h : separator ≠ []) (value : Text) :
    split separator value = pieces separator h value := dif_neg h

theorem split_nil (value : Text) : split [] value = value.map fun c => [c] := dif_pos rfl

theorem join_nil (values : List Text) : join [] values = values.flatten := by
  unfold join
  induction values with
  | nil => rfl
  | cons value values ih =>
    by_cases hempty : values = []
    · subst hempty
      rw [List.intercalate_singleton, List.flatten_singleton]
    · rw [List.intercalate_cons_of_ne_nil hempty, List.append_nil, ih, List.flatten_cons]

/-! ## Splitting first -/

/-- **What is split is joined again.** -/
theorem join_split (separator value : Text) : join separator (split separator value) = value := by
  by_cases h : separator = []
  · subst h
    rw [split_nil, join_nil, ← List.flatMap_def, List.flatMap_singleton']
  · rw [split_of_ne_nil h]
    exact Text.intercalate_pieces separator h value

theorem not_infix_of_mem_split (h : separator ≠ []) {piece : Text}
    (hpiece : piece ∈ split separator value) : ¬ separator <:+: piece := by
  rw [split_of_ne_nil h] at hpiece
  exact Text.not_infix_of_mem_pieces h hpiece

/--
**Splitting loses nothing and leaves no separator.**

Joining gives the text back. With a separator of at least one character no piece holds it, and there
is one piece more than the separator has places when these are chosen from the left, each behind the
end of the one before.
-/
theorem split_at_leftmost (separator value : Text) :
    join separator (split separator value) = value ∧
    (separator ≠ [] →
      (∀ piece ∈ split separator value, ¬ separator <:+: piece) ∧
      ∃ places, Leftmost separator value places ∧
        (∀ others, Leftmost separator value others → others = places) ∧
        (split separator value).length = places.length + 1) := by
  refine ⟨join_split separator value, fun h => ⟨fun piece => not_infix_of_mem_split h, ?_⟩⟩
  obtain ⟨places, hplaces, hlength⟩ := Text.exists_leftmost_pieces h value
  refine ⟨places, hplaces, fun others hothers => hothers.unique h hplaces, ?_⟩
  rw [split_of_ne_nil h, hlength]

/-- In five letters a pair of them stands four times, and is cut at twice. -/
theorem split_at_leftmost_overlapping :
    "aa".toList ≠ [] ∧ (split "aa".toList "aaaaa".toList).length = 3 ∧
    (∀ piece ∈ split "aa".toList "aaaaa".toList, ¬ "aa".toList <:+: piece) ∧
    Leftmost "aa".toList "aaaaa".toList [0, 2] := by
  have hsep : "aa".toList ≠ [] := by decide
  obtain ⟨-, hsplit⟩ := split_at_leftmost "aa".toList "aaaaa".toList
  obtain ⟨hpieces, places, hplaces, hunique, hlength⟩ := hsplit hsep
  have hchosen : Leftmost "aa".toList "aaaaa".toList [0, 2] := by
    refine ⟨by decide, by decide, fun i hi => ?_⟩
    have hle : i + 2 ≤ 5 := hi.add_length_le hsep
    exact (by decide : ∀ i ≤ 3, ∃ p ∈ [0, 2], p ≤ i ∧ i < p + 2) i (by omega)
  refine ⟨hsep, ?_, hpieces, hchosen⟩
  rw [hlength, ← hunique _ hchosen]
  rfl

/-! ## Joining first -/

/-- Without a separator the texts that are found again are characters. -/
theorem split_nil_join_iff : split [] (join [] values) = values ↔ ∀ v ∈ values, v.length = 1 := by
  rw [split_nil, join_nil]
  constructor
  · -- splitting at nothing gives single characters
    intro h v hv
    rw [← h] at hv
    obtain ⟨c, -, rfl⟩ := List.mem_map.1 hv
    rfl
  · intro h
    induction values with
    | nil => rfl
    | cons value values ih =>
      obtain ⟨hvalue, hvalues⟩ := List.forall_mem_cons.1 h
      obtain ⟨c, rfl⟩ := List.length_eq_one_iff.1 hvalue
      rw [List.flatten_cons, List.map_append, ih hvalues]
      rfl

/--
**When splitting gives back what was joined.**

There has to be a text, the last one must not hold the separator, and in each other one, with the
separator behind it, the leftmost place of the separator has to be the one behind the text. The
empty separator is told apart by nothing, so all texts have to be single characters.
-/
theorem split_join_eq_self_iff (separator : Text) (values : List Text) :
    split separator (join separator values) = values ↔
      if separator = [] then ∀ v ∈ values, v.length = 1
      else ∃ front last, values = front ++ [last] ∧
        (∀ v ∈ front, FirstAt separator (v ++ separator) v.length) ∧ ¬ separator <:+: last := by
  split
  · next h =>
    subst h
    exact split_nil_join_iff
  · next h =>
    -- the separator has to be met behind each value but the last, and not before
    rw [split_of_ne_nil h]
    constructor
    · exact Text.exists_concat_of_pieces_intercalate h
    · rintro ⟨front, last, rfl, hfront, hlast⟩
      exact Text.pieces_intercalate_concat h hfront hlast

/-- Neither `a` nor `b` holds `aa`. They are found again in one order and not in the other. -/
theorem split_join_eq_self_iff_overlapping :
    split "aa".toList (join "aa".toList [['b'], ['a']]) = [['b'], ['a']] ∧
    split "aa".toList (join "aa".toList [['a'], ['b']]) ≠ [['a'], ['b']] := by
  constructor
  · exact (split_join_eq_self_iff _ _).2 ⟨[['b']], ['a'], rfl, by decide, by decide⟩
  · intro h
    obtain ⟨front, last, heq, hfront, -⟩ := (split_join_eq_self_iff _ _).1 h
    have heq : [['a']] ++ [['b']] = front ++ [last] := heq
    obtain ⟨rfl, -⟩ := List.append_inj' heq rfl
    exact absurd (hfront _ List.mem_cons_self) (by decide)

end Codebook.Phrase
