import Codebook.Proofs.Phrase.Capitals
import Codebook.Proofs.Phrase.Normalizing

/-!
# Names for descriptions

The name of a code is made out of its description: it is normalized, split at its blanks, its words
are capitalized and put together. Splitting and joining only take the blanks away, and capitalizing
changes nothing but letters. So what a name cannot hold is known from the normalized description,
and nothing else of that is lost.
-/

namespace Codebook.Phrase

variable {c d previous : Char} {t : Text}

/-- The name that is made out of a description: its words, each with a capital, without blanks. -/
def identifier (description : Text) : Text :=
  join [] (title (split [' '] (normalize description)))

theorem identifier_eq_filter (description : Text) :
    identifier description = (capitalize (normalize description)).filter (· ≠ ' ') :=
  (join_title_split (normalize description)).2

/-- A name holds the separators of the normalized description, but no blank. -/
theorem mem_identifier_iff (hc : isSeparator c = true) (description : Text) :
    c ∈ identifier description ↔ c ∈ normalize description ∧ c ≠ ' ' := by
  rw [identifier_eq_filter, List.mem_filter, capitalize, mem_capitalizeAfter_iff hc,
    decide_eq_true_eq]

/-- Without a separator, a text has lost as much before it was capitalized as behind. -/
theorem length_filter_capitalizeAfter (hd : isSeparator d = true) (previous : Char) (t : Text) :
    ((capitalizeAfter previous t).filter (· ≠ d)).length = (t.filter (· ≠ d)).length := by
  induction t generalizing previous with
  | nil => rfl
  | cons c t ih =>
    have hsame : decide ((if isSeparator previous then capital c else c) ≠ d) = decide (c ≠ d) :=
      decide_eq_decide.2 (not_congr (capitalIf_eq_iff hd (isSeparator previous)))
    rw [capitalizeAfter, List.filter_cons, List.filter_cons, hsame]
    split
    · rw [List.length_cons, List.length_cons, ih]
    · exact ih c

theorem length_identifier (description : Text) :
    (identifier description).length = ((normalize description).filter (· ≠ ' ')).length := by
  rw [identifier_eq_filter, capitalize, length_filter_capitalizeAfter rfl]

/--
**What names can be relied on for.**

A name has neither blanks nor hyphens nor a closing parenthesis, and an opening one only where the
description has one and closes none. It has as many characters as the normalized description has
without its blanks, and nothing behind the first `)` of a description matters to it.
-/
theorem identifier_clean (description : Text) :
    ' ' ∉ identifier description ∧ '-' ∉ identifier description ∧
    ')' ∉ identifier description ∧
    ('(' ∈ identifier description ↔ '(' ∈ description ∧ ')' ∉ description) ∧
    (identifier description).length = ((normalize description).filter (· ≠ ' ')).length ∧
    ∀ front rest rest', ')' ∉ front →
      identifier (front ++ ')' :: rest) = identifier (front ++ ')' :: rest') := by
  -- title case neither adds nor removes one of these signs
  refine ⟨?_, ?_, ?_, ?_, length_identifier description, fun front rest rest' hfront => ?_⟩
  · rw [mem_identifier_iff rfl]
    exact fun h => h.2 rfl
  · rw [mem_identifier_iff rfl]
    exact fun h => hyphen_not_mem_normalize description h.1
  · rw [mem_identifier_iff rfl]
    exact fun h => close_not_mem_normalize description h.1
  · rw [mem_identifier_iff rfl, open_mem_normalize_iff]
    exact and_iff_left (by decide)
  · unfold identifier
    rw [normalize_append_cons hfront, normalize_append_cons hfront]

/-- Behind the `)` there is more of everything that a name cannot hold. -/
theorem identifier_clean_found :
    ')' ∉ "not-(found ǆ".toList ∧
    identifier "not-(found ǆ) - (again)".toList = identifier "not-(found ǆ)".toList ∧
    identifier "not-(found ǆ)".toList = "NotFoundǅ".toList := by
  have hfront : ')' ∉ "not-(found ǆ".toList := by decide
  obtain ⟨-, -, -, -, -, hcut⟩ := identifier_clean "not-(found ǆ)".toList
  refine ⟨hfront, hcut _ " - (again)".toList [] hfront, ?_⟩
  rw [identifier_eq_filter]
  decide

end Codebook.Phrase
