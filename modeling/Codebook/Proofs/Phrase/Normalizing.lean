import Mathlib.Data.List.Basic
import Mathlib.Data.List.TakeWhile
import Codebook.Phrase

/-!
# What is left of a description

A description is cut in front of its first `)`, and blanks take the place of some of the characters
in front of that: of all hyphens, and of all `(` where there is a `)`. A description either has no
`)` or is told by what stands in front of the first one, and for both `normalize` is a single map
(`normalize_eq_map_take`). So what is left is known place by place, once it is known whether there
is a `)` anywhere.
-/

namespace Codebook.Phrase

variable {c : Char} {description front t : Text}

/-! ## One map -/

theorem takeWhile_append_cons (h : ')' ∉ front) (rest : Text) :
    (front ++ ')' :: rest).takeWhile (· != ')') = front := by
  have hall : ∀ d ∈ front, (d != ')') = true := fun _ hd => bne_iff_ne.2 (ne_of_mem_of_not_mem hd h)
  rw [List.takeWhile_append_of_pos hall, List.takeWhile_cons_of_neg (by simp), List.append_nil]

theorem idxOf_append_cons (h : ')' ∉ front) (rest : Text) :
    (front ++ ')' :: rest).idxOf ')' = front.length := by
  rw [List.idxOf_append_of_notMem h, List.idxOf_cons_self, Nat.add_zero]

theorem normalize_of_not_mem (h : ')' ∉ description) :
    normalize description = description.map fun c => if c = '-' then ' ' else c := by
  simp only [normalize, if_neg h, beq_iff_eq]

/-- What stands behind the first `)` does not matter. -/
theorem normalize_append_cons (h : ')' ∉ front) (rest : Text) :
    normalize (front ++ ')' :: rest) =
      front.map fun c => if c = '(' ∨ c = '-' then ' ' else c := by
  have hmem : ')' ∈ front ++ ')' :: rest := List.mem_append_right _ List.mem_cons_self
  simp only [normalize, if_pos hmem, takeWhile_append_cons h, List.map_map]
  refine List.map_congr_left fun c _ => ?_
  by_cases hopen : c = '('
  · subst hopen
    rfl
  · simp [hopen]

/-- **What is left is what stands in front of the first `)`, with blanks for hyphens and, where
there is a `)`, for each `(`.** -/
theorem normalize_eq_map_take (description : Text) :
    normalize description = (description.take (description.idxOf ')')).map fun c =>
      if c = '-' ∨ (c = '(' ∧ ')' ∈ description) then ' ' else c := by
  by_cases hclose : ')' ∈ description
  · obtain ⟨front, rest, rfl, hfront⟩ := List.eq_append_cons_of_mem hclose
    rw [normalize_append_cons hfront, idxOf_append_cons hfront, List.take_left]
    simp only [hclose, and_true, or_comm]
  · rw [normalize_of_not_mem hclose, List.idxOf_of_notMem hclose, List.take_length]
    simp only [hclose, and_false, or_false]

/-! ## The characters that are left -/

/-- A text with a blank in place of some of its characters holds the others. -/
theorem mem_map_blank_iff {p : Char → Prop} [DecidablePred p] (hc : c ≠ ' ') :
    c ∈ t.map (fun d => if p d then ' ' else d) ↔ c ∈ t ∧ ¬ p c := by
  rw [List.mem_map]
  constructor
  · rintro ⟨d, hd, heq⟩
    split at heq
    · exact absurd heq.symm hc
    · next hp => exact heq ▸ ⟨hd, hp⟩
  · rintro ⟨hmem, hp⟩
    exact ⟨c, hmem, if_neg hp⟩

/-- **The characters that are left**: those in front of the first `)`, without the hyphens and,
where there is a `)`, without the `(`. -/
theorem mem_normalize_iff (hc : c ≠ ' ') :
    c ∈ normalize description ↔
      c ∈ description.take (description.idxOf ')') ∧ c ≠ '-' ∧ (c = '(' → ')' ∉ description) := by
  rw [normalize_eq_map_take, mem_map_blank_iff hc, not_or, not_and]

theorem hyphen_not_mem_normalize (description : Text) : '-' ∉ normalize description := by
  rw [mem_normalize_iff (by decide)]
  exact fun h => h.2.1 rfl

theorem close_not_mem_normalize (description : Text) : ')' ∉ normalize description := by
  rw [mem_normalize_iff (by decide)]
  rintro ⟨hmem, -⟩
  have hlt := (List.mem_take_iff_idxOf_lt (List.mem_of_mem_take hmem)).1 hmem
  exact Nat.lt_irrefl _ hlt

/-- A parenthesis is left open where none is closed. -/
theorem open_mem_normalize_iff :
    '(' ∈ normalize description ↔ '(' ∈ description ∧ ')' ∉ description := by
  rw [mem_normalize_iff (by decide)]
  constructor
  · rintro ⟨hmem, -, hclose⟩
    exact ⟨List.mem_of_mem_take hmem, hclose rfl⟩
  · rintro ⟨hmem, hclose⟩
    rw [List.idxOf_of_notMem hclose, List.take_length]
    exact ⟨hmem, by decide, fun _ => hclose⟩

/-! ## Place by place -/

theorem length_normalize (description : Text) :
    (normalize description).length = description.idxOf ')' := by
  rw [normalize_eq_map_take, List.length_map, List.length_take,
    Nat.min_eq_left List.idxOf_le_length]

theorem exists_getElem?_normalize {i : Nat} (h : i < (normalize description).length) :
    ∃ c, description[i]? = some c ∧ (normalize description)[i]? =
      some (if c = '-' ∨ (c = '(' ∧ ')' ∈ description) then ' ' else c) := by
  rw [length_normalize] at h
  have hlt : i < description.length := Nat.lt_of_lt_of_le h List.idxOf_le_length
  refine ⟨description[i], List.getElem?_eq_getElem hlt, ?_⟩
  rw [normalize_eq_map_take, List.getElem?_map, List.getElem?_take_of_lt h,
    List.getElem?_eq_getElem hlt, Option.map_some]

/-- The second time there is neither a `)` nor a hyphen left to change anything. -/
theorem normalize_normalize (description : Text) :
    normalize (normalize description) = normalize description := by
  rw [normalize_of_not_mem (close_not_mem_normalize description)]
  conv => rhs; rw [← List.map_id (normalize description)]
  refine List.map_congr_left fun c hc => if_neg ?_
  exact ne_of_mem_of_not_mem hc (hyphen_not_mem_normalize description)

/--
**What is left of a description, place by place.**

It holds no `)` and no hyphen, normalizing it again changes nothing, and it is as long as what
stands in front of the first `)`, or as the description where there is none. A blank stands in the
place of each hyphen, and of each `(` where there is a `)` anywhere; each other character stays in
its place.
-/
theorem normalize_pointwise (description : Text) :
    ')' ∉ normalize description ∧ '-' ∉ normalize description ∧
    normalize (normalize description) = normalize description ∧
    (normalize description).length = description.idxOf ')' ∧
    ∀ i < (normalize description).length, ∃ c, description[i]? = some c ∧
      (normalize description)[i]? =
        some (if c = '-' ∨ (c = '(' ∧ ')' ∈ description) then ' ' else c) :=
  ⟨close_not_mem_normalize description, hyphen_not_mem_normalize description,
    normalize_normalize description, length_normalize description,
    fun _ hi => exists_getElem?_normalize hi⟩

/-- The inner one of two parentheses is closed first, and a third one is opened behind the cut. -/
theorem normalize_pointwise_nested :
    (normalize "é((a-b)c)-(".toList).length = 6 ∧ 2 < (normalize "é((a-b)c)-(".toList).length ∧
    (normalize "é((a-b)c)-(".toList)[2]? = some ' ' ∧
    normalize (normalize "é((a-b)c)-(".toList) = normalize "é((a-b)c)-(".toList := by
  obtain ⟨-, -, hagain, hlength, hplaces⟩ := normalize_pointwise "é((a-b)c)-(".toList
  have hsix : (normalize "é((a-b)c)-(".toList).length = 6 := hlength.trans (by decide)
  have htwo : 2 < (normalize "é((a-b)c)-(".toList).length := by omega
  obtain ⟨c, hc, hplace⟩ := hplaces 2 htwo
  obtain rfl : '(' = c := Option.some.inj hc
  exact ⟨hsix, htwo, hplace.trans (by decide), hagain⟩

end Codebook.Phrase
