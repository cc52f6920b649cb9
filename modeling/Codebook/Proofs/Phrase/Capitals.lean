import Codebook.Proofs.Phrase.Splitting
import Codebook.Proofs.Unicode.UpperCase

/-!
# Capitals between separators

Capitalizing looks at one character behind: a letter gets its capital if a separator stands in front
of it. So behind a separator it does not matter what was read before, and since capitals neither
come from separators nor become any, a text that is split at separators may be capitalized piece by
piece. `title_join` says so for every separator that is made of such characters.
-/

namespace Codebook.Phrase

variable {c d previous : Char} {separator t u : Text} {values : List Text}

/-! ## Characters -/

/-- In ASCII everything but letters, digits and the underscore separates words, elsewhere white
space. -/
theorem isSeparator_iff :
    isSeparator c = true ↔
      c.toNat < 128 ∧ c.isAlphanum = false ∧ c ≠ '_' ∨
        128 ≤ c.toNat ∧ Unicode.isWhiteSpace c = true := by
  unfold isSeparator
  split
  · next h =>
    simp only [Bool.not_eq_true', Bool.or_eq_false_iff, beq_eq_false_iff_ne]
    exact ⟨fun hc => Or.inl ⟨h, hc⟩, fun hc => hc.elim And.right fun hhigh => by omega⟩
  · next h =>
    exact ⟨fun hc => Or.inr ⟨by omega, hc⟩, fun hc => hc.elim (fun hlow => by omega) And.right⟩

theorem isSeparator_of_le (h : 128 ≤ c.toNat) : isSeparator c = Unicode.isWhiteSpace c :=
  if_neg (Nat.not_lt.2 h)

/-- What holds of the characters with the first numbers is found out number by number. -/
@[elab_as_elim]
theorem of_forall_number {motive : Char → Prop} (c : Char) {bound : Nat} (hc : c.toNat < bound)
    (h : ∀ n < bound, motive (Char.ofNat n)) : motive c := by
  have hnumber := h c.toNat hc
  rwa [Char.ofNat_toNat] at hnumber

theorem isSeparator_of_letter (hlow : 'A'.toNat ≤ c.toNat) (hhigh : c.toNat ≤ 'Z'.toNat) :
    isSeparator c = false := by
  revert hlow
  exact of_forall_number c (Nat.lt_succ_of_le hhigh) (by decide)

theorem toUpper_cases (h : c.toNat < 128) :
    c.toUpper = c ∨ isSeparator c = false ∧ isSeparator c.toUpper = false :=
  of_forall_number c h (by decide)

/-- **A character that changes is no separator, and does not become one.** -/
theorem capital_cases (c : Char) :
    capital c = c ∨ isSeparator c = false ∧ isSeparator (capital c) = false := by
  unfold capital
  split
  -- the letters that are written as two stand first
  case h_13 =>
    split
    · next h => exact toUpper_cases h
    · next h =>
      rcases Unicode.simpleUpper_cases c with hsame | ⟨hblank, hcapital | ⟨hhigh, hblank'⟩⟩
      · exact Or.inl hsame
      · exact Or.inr ⟨(isSeparator_of_le (by omega)).trans hblank,
          isSeparator_of_letter hcapital.1 hcapital.2⟩
      · exact Or.inr ⟨(isSeparator_of_le (by omega)).trans hblank,
          (isSeparator_of_le hhigh).trans hblank'⟩
  all_goals exact Or.inr (by decide)

theorem capital_of_isSeparator (h : isSeparator c = true) : capital c = c := by
  rcases capital_cases c with hsame | ⟨hc, -⟩
  · exact hsame
  · rw [hc] at h; exact nomatch h

theorem isSeparator_capital (c : Char) : isSeparator (capital c) = isSeparator c := by
  rcases capital_cases c with hsame | ⟨hc, hcapital⟩
  · rw [hsame]
  · rw [hc, hcapital]

/-- Only a separator becomes it. -/
theorem capital_eq_iff (hd : isSeparator d = true) : capital c = d ↔ c = d := by
  constructor
  · rintro rfl
    rw [isSeparator_capital] at hd
    exact (capital_of_isSeparator hd).symm
  · rintro rfl
    exact capital_of_isSeparator hd

/-- Wherever a character stands, only a separator becomes it. -/
theorem capitalIf_eq_iff (hd : isSeparator d = true) (start : Bool) :
    (if start then capital c else c) = d ↔ c = d := by
  cases start with
  | false => rfl
  | true => exact capital_eq_iff hd

/-! ## Texts -/

theorem capitalizeAfter_append (previous : Char) (t u : Text) :
    capitalizeAfter previous (t ++ u) =
      capitalizeAfter previous t ++ capitalizeAfter (t.getLastD previous) u := by
  induction t generalizing previous with
  | nil => rfl
  | cons c t ih => rw [List.cons_append, capitalizeAfter, capitalizeAfter, ih, List.getLastD_cons,
      List.cons_append]

/-- Behind a separator a word starts, as at the front. -/
theorem capitalizeAfter_of_isSeparator (h : isSeparator previous = true) (t : Text) :
    capitalizeAfter previous t = capitalize t := by
  unfold capitalize
  cases t with
  | nil => rfl
  | cons c t =>
    have hblank : isSeparator ' ' = true := rfl
    rw [capitalizeAfter, capitalizeAfter, if_pos h, if_pos hblank]

/-- Separators stay as they are. -/
theorem capitalizeAfter_separators (h : ∀ c ∈ t, isSeparator c = true) (previous : Char) :
    capitalizeAfter previous t = t := by
  induction t generalizing previous with
  | nil => rfl
  | cons c t ih =>
    obtain ⟨hc, ht⟩ := List.forall_mem_cons.1 h
    rw [capitalizeAfter, capital_of_isSeparator hc, ite_self, ih ht]

theorem isSeparator_getLastD (h : ∀ c ∈ separator, isSeparator c = true)
    (hsep : separator ≠ []) (previous : Char) :
    isSeparator (separator.getLastD previous) = true := by
  rw [List.getLastD_eq_getLast?, List.getLast?_eq_some_getLast hsep]
  exact h _ (List.getLast_mem hsep)

/-- What stands behind separators is capitalized by itself. -/
theorem capitalize_append_separators (h : ∀ c ∈ separator, isSeparator c = true)
    (hsep : separator ≠ []) (t u : Text) :
    capitalize (t ++ separator ++ u) = capitalize t ++ separator ++ capitalize u := by
  have hbehind := isSeparator_getLastD h hsep (t.getLastD ' ')
  unfold capitalize
  rw [List.append_assoc, capitalizeAfter_append, capitalizeAfter_append,
    capitalizeAfter_separators h, capitalizeAfter_of_isSeparator hbehind, ← List.append_assoc]
  rfl

/-- **Texts between separators are capitalized one by one.** -/
theorem capitalize_join (h : ∀ c ∈ separator, isSeparator c = true) (hsep : separator ≠ [])
    (values : List Text) :
    capitalize (join separator values) = join separator (title values) := by
  unfold join title
  induction values with
  | nil => rfl
  | cons value values ih =>
    by_cases hempty : values = []
    · subst hempty
      rw [List.map_singleton, List.intercalate_singleton, List.intercalate_singleton]
    · have hempty' : values.map capitalize ≠ [] := fun hnil => hempty (List.map_eq_nil_iff.1 hnil)
      rw [List.intercalate_cons_of_ne_nil hempty, List.map_cons,
        List.intercalate_cons_of_ne_nil hempty', capitalize_append_separators h hsep, ih]

/-! ## Leaving the separator out -/

/-- Capitalizing leaves the places of a separator alone. -/
theorem mem_capitalizeAfter_iff (hd : isSeparator d = true) :
    d ∈ capitalizeAfter previous t ↔ d ∈ t := by
  induction t generalizing previous with
  | nil => rfl
  | cons c t ih =>
    have hc := capitalIf_eq_iff (c := c) hd (isSeparator previous)
    rw [capitalizeAfter, List.mem_cons, List.mem_cons, ih, eq_comm, hc, eq_comm]

/-- Without the separator between them, texts that do not hold it are one behind the other. -/
theorem filter_join (h : ∀ value ∈ values, d ∉ value) :
    (join [d] values).filter (· ≠ d) = join [] values := by
  rw [join_nil]
  unfold join
  induction values with
  | nil => rfl
  | cons value values ih =>
    obtain ⟨hvalue, hvalues⟩ := List.forall_mem_cons.1 h
    have hself : value.filter (· ≠ d) = value :=
      List.filter_eq_self.2 fun c hc => decide_eq_true fun heq => hvalue (heq ▸ hc)
    -- the separator stands in front of every value but the first
    by_cases hempty : values = []
    · subst hempty
      rw [List.intercalate_singleton, hself, List.flatten_singleton]
    · rw [List.intercalate_cons_of_ne_nil hempty, List.filter_append, List.filter_append, hself,
        ih hvalues, List.flatten_cons, List.filter_singleton]
      simp

/-- **Splitting at blanks does not change the capitals.** -/
theorem join_title_split (t : Text) :
    join [' '] (title (split [' '] t)) = capitalize t ∧
    join [] (title (split [' '] t)) = (capitalize t).filter (· ≠ ' ') := by
  have hblank : ∀ c ∈ [' '], isSeparator c = true := List.forall_mem_singleton.2 rfl
  have hsep : [' '] ≠ ([] : Text) := by decide
  have hjoin : join [' '] (title (split [' '] t)) = capitalize t := by
    rw [← capitalize_join hblank hsep, join_split]
  refine ⟨hjoin, ?_⟩
  rw [← hjoin]
  refine (filter_join fun value hvalue => ?_).symm
  obtain ⟨piece, hpiece, rfl⟩ := List.mem_map.1 hvalue
  rw [capitalize, mem_capitalizeAfter_iff rfl, ← List.singleton_infix_iff]
  exact not_infix_of_mem_split hsep hpiece

/--
**Capitalizing does not care where a text was split.**

Between separators of words each text is capitalized as if it stood alone. So the words of a text,
split at its blanks and capitalized, are the capitalized text when they are joined by blanks, and
the capitalized text without its blanks when they are joined by nothing.
-/
theorem title_join (separator : Text) (values : List Text) :
    (separator ≠ [] →
      (∀ c ∈ separator, c.toNat < 128 ∧ c.isAlphanum = false ∧ c ≠ '_' ∨
        128 ≤ c.toNat ∧ Unicode.isWhiteSpace c = true) →
      title [join separator values] = [join separator (title values)]) ∧
    ∀ t, [join [' '] (title (split [' '] t))] = title [t] ∧
      [join [] (title (split [' '] t))] = (title [t]).map (List.filter (· ≠ ' ')) := by
  refine ⟨fun hsep h => ?_, fun t => ?_⟩
  · have hseparator : ∀ c ∈ separator, isSeparator c = true := fun c hc =>
      isSeparator_iff.2 (h c hc)
    exact congrArg (fun t => [t]) (capitalize_join hseparator hsep values)
  · obtain ⟨hblanks, hnothing⟩ := join_title_split t
    exact ⟨congrArg (fun t => [t]) hblanks, congrArg (fun t => [t]) hnothing⟩

/-- A hyphen in front of a wide space, around an empty text, and a letter that is written as two. -/
theorem title_join_wide :
    ['-', '\u2003'] ≠ [] ∧
    title [join ['-', '\u2003'] ["foo".toList, [], "ǆ b".toList]] =
      [join ['-', '\u2003'] (title ["foo".toList, [], "ǆ b".toList])] ∧
    title ["foo".toList, [], "ǆ b".toList] = ["Foo".toList, [], "ǅ B".toList] := by
  have hsep : ['-', '\u2003'] ≠ [] := by decide
  have hseparator : ∀ c ∈ ['-', '\u2003'], c.toNat < 128 ∧ c.isAlphanum = false ∧ c ≠ '_' ∨
      128 ≤ c.toNat ∧ Unicode.isWhiteSpace c = true :=
    List.forall_mem_cons.2 ⟨Or.inl (by decide), List.forall_mem_singleton.2 (Or.inr (by decide))⟩
  exact ⟨hsep, (title_join _ _).1 hsep hseparator, by decide⟩

end Codebook.Phrase
