import Codebook.Proofs.Phrase.Capitals

/-!
# Where capitals stand

Capitalizing looks at one character behind, and what it looks at is the text as it was. So each
place can be told by itself: where a word starts stands the capital of the character, and everywhere
else the character. Separators stay what they are, so words start where they started, and since a
capital has no other capital, a text that has been capitalized does not change again.
-/

namespace Codebook.Phrase

open Unicode (digraphs simpleUpper)

variable {c previous previous' : Char} {t : Text} {i : Nat}

/-! ## Capitals of capitals -/

/-- Only the letters that are written as two have capitals of their own. -/
theorem capital_of_not_mem_digraphs (h : c ∉ digraphs) :
    capital c = if c.toNat < 128 then c.toUpper else simpleUpper c := by
  unfold capital
  split
  case h_13 => rfl
  all_goals exact absurd (by decide) h

theorem capital_of_letter (hlow : 'A'.toNat ≤ c.toNat) (hhigh : c.toNat ≤ 'Z'.toNat) :
    capital c = c := by
  revert hlow
  exact of_forall_number c (Nat.lt_succ_of_le hhigh) (by decide)

theorem capital_toUpper (h : c.toNat < 128) : capital c.toUpper = c.toUpper :=
  of_forall_number c h (by decide)

/-- **A capital has no other capital.** -/
theorem capital_capital (c : Char) : capital (capital c) = capital c := by
  by_cases hc : c ∈ digraphs
  -- the digraphs are few enough to be gone through
  · have hall : (digraphs.all fun d => capital (capital d) == capital d) = true := by decide
    exact beq_iff_eq.1 (List.all_eq_true.1 hall c hc)
  · rw [capital_of_not_mem_digraphs hc]
    split
    · next hlow => exact capital_toUpper hlow
    · next hhigh =>
      have hupper : simpleUpper c ∉ digraphs := mt Unicode.mem_digraphs_of_simpleUpper hc
      have hsame : 128 ≤ (simpleUpper c).toNat → capital (simpleUpper c) = simpleUpper c := by
        intro hle
        rw [capital_of_not_mem_digraphs hupper, if_neg (Nat.not_lt.2 hle),
          Unicode.simpleUpper_simpleUpper]
      -- a character with no upper case of its own, one that becomes a letter, or one beyond
      rcases Unicode.simpleUpper_cases c with hstays | ⟨-, hletter | ⟨hle, -⟩⟩
      · exact hsame (by rw [hstays]; omega)
      · exact capital_of_letter hletter.1 hletter.2
      · exact hsame hle

/-! ## The scan -/

/-- Each character is looked at together with the one in front of it. -/
theorem capitalizeAfter_eq_zipWith (previous : Char) (t : Text) :
    capitalizeAfter previous t =
      List.zipWith (fun before c => if isSeparator before then capital c else c)
        (previous :: t) t := by
  induction t generalizing previous with
  | nil => rfl
  | cons c t ih => rw [capitalizeAfter, ih, List.zipWith_cons_cons]

theorem length_capitalizeAfter (previous : Char) (t : Text) :
    (capitalizeAfter previous t).length = t.length := by
  rw [capitalizeAfter_eq_zipWith, List.length_zipWith, List.length_cons]
  omega

theorem isSeparator_capitalIf (b : Bool) (c : Char) :
    isSeparator (if b then capital c else c) = isSeparator c := by
  cases b
  · rfl
  · exact isSeparator_capital c

/-- **Separators stay where they are.** -/
theorem map_isSeparator_capitalizeAfter (previous : Char) (t : Text) :
    (capitalizeAfter previous t).map isSeparator = t.map isSeparator := by
  induction t generalizing previous with
  | nil => rfl
  | cons c t ih =>
    rw [capitalizeAfter, List.map_cons, List.map_cons, ih, isSeparator_capitalIf]

/-- Of the character in front it matters only whether it is a separator. -/
theorem capitalizeAfter_congr (h : isSeparator previous = isSeparator previous') (t : Text) :
    capitalizeAfter previous t = capitalizeAfter previous' t := by
  cases t with
  | nil => rfl
  | cons c t => rw [capitalizeAfter, capitalizeAfter, h]

/-- **What has been capitalized does not change again.** -/
theorem capitalizeAfter_capitalizeAfter (previous : Char) (t : Text) :
    capitalizeAfter previous (capitalizeAfter previous t) = capitalizeAfter previous t := by
  induction t generalizing previous with
  | nil => rfl
  | cons c t ih =>
    -- the second pass sees new characters, but separators where it saw separators before
    have hsame := isSeparator_capitalIf (isSeparator previous) c
    rw [capitalizeAfter, capitalizeAfter, capitalizeAfter_congr hsame, ih]
    split
    · rw [capital_capital]
    · rfl

/-! ## Places -/

/-- A word may start at the place: it is the first one, or a separator stands in front of it. -/
def StartsWordAt (t : Text) : Nat → Prop
  | 0 => True
  | i + 1 => ∃ c, t[i]? = some c ∧ isSeparator c = true

theorem getElem?_capitalize_of_start (h : StartsWordAt t i) :
    (capitalize t)[i]? = t[i]?.map capital := by
  have hblank : isSeparator ' ' = true := rfl
  rw [capitalize, capitalizeAfter_eq_zipWith, List.getElem?_zipWith]
  cases i with
  | zero => cases t <;> simp [hblank]
  | succ i =>
    obtain ⟨d, hd, hsep⟩ := h
    rw [List.getElem?_cons_succ, hd]
    cases t[i + 1]? <;> simp [hsep]

theorem getElem?_capitalize_of_not_start (h : ¬ StartsWordAt t i) : (capitalize t)[i]? = t[i]? := by
  rw [capitalize, capitalizeAfter_eq_zipWith, List.getElem?_zipWith]
  cases i with
  | zero => exact absurd trivial h
  | succ i =>
    rw [List.getElem?_cons_succ]
    cases hd : t[i]? with
    | none =>
      -- behind the end there is nothing to look at
      rw [List.getElem?_eq_none (Nat.le_succ_of_le (List.getElem?_eq_none_iff.1 hd))]
    | some d =>
      have hsep : isSeparator d = false := Bool.eq_false_iff.2 fun hsep => h ⟨d, hd, hsep⟩
      cases t[i + 1]? <;> simp [hsep]

/-- A text with capitals where its words start. -/
structure Capitalized (t u : Text) : Prop where
  length_eq : u.length = t.length
  /-- A change is the start of a word in the text as it was. -/
  starts_of_ne : ∀ i, u[i]? ≠ t[i]? → StartsWordAt t i
  capital_of_starts : ∀ i, StartsWordAt t i → u[i]? = t[i]?.map capital
  separators_eq : u.map isSeparator = t.map isSeparator

theorem capitalized_capitalize (t : Text) : Capitalized t (capitalize t) where
  length_eq := length_capitalizeAfter ' ' t
  starts_of_ne _ hne := Classical.byContradiction fun h => hne (getElem?_capitalize_of_not_start h)
  capital_of_starts _ h := getElem?_capitalize_of_start h
  separators_eq := map_isSeparator_capitalizeAfter ' ' t

/--
**Capitals stand at the starts of words, and nothing else changes.**

Each text of the list keeps its place, its length and its separators. A character that is not the
first one of its text nor behind a separator stays as it was, and the others become their capitals.
Doing so once more changes nothing.
-/
theorem title_capitalized (values : List Text) :
    List.Forall₂ Capitalized values (title values) ∧ title (title values) = title values := by
  constructor
  · unfold title
    induction values with
    | nil => exact .nil
    | cons value values ih => exact .cons (capitalized_capitalize value) ih
  · unfold title
    rw [List.map_map]
    exact List.map_congr_left fun value _ => capitalizeAfter_capitalizeAfter ' ' value

/-- A letter without a capital, one that is written as two, and one that has an ASCII capital. -/
example : title ["ß ǆx".toList, "ı-ſ_é".toList] = ["ß ǅx".toList, "I-S_é".toList] := by decide

end Codebook.Phrase
