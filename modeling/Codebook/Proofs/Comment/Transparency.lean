import Codebook.Json.Document
import Codebook.Proofs.Comment.Cut

/-!
# Comments change nothing

Comments may be put anywhere into a document that holds no `/*`: between its tokens, inside its
strings and numbers, next to each other, next to a lone `/` or `*`. The scan finds just these, for
a `/*` that is not one of theirs would need both of its bytes from the document: a comment begins
with `/`, which does not complete it. So the document is read with the same outcome as without
them, and a fault has the same place.
-/

namespace Codebook.Comment

/-- A gap without `/*` is clear in front of a comment. -/
theorem clear_of_not_opening {gap behind : Bytes} (h : ¬ opening <:+: gap)
    (hbehind : behind.head? ≠ some star) : Clear gap behind := by
  intro i hi hb
  have hne : gap.drop i ≠ [] := by
    intro hnil
    have := List.drop_eq_nil_iff.mp hnil
    omega
  have hopen := hb.opening_prefix
  rw [List.drop_append_of_le_length (Nat.le_of_lt hi)] at hopen
  have hgap : opening <+: gap.drop i := pair_prefix_of_append hne hbehind hopen
  exact h (hgap.isInfix.trans (List.drop_suffix i gap).isInfix)

theorem IsComment.head?_append {comment : Bytes} (h : IsComment comment) (rest : Bytes) :
    (comment ++ rest).head? = some slash := by
  obtain ⟨body, -, rfl⟩ := h
  rfl

/-- **Comments in a document without `/*` are the comments of its cut.** -/
theorem leftmost_of_not_opening {pieces : List (Bytes × Bytes)} {last : Bytes}
    (hcomments : ∀ piece ∈ pieces, IsComment piece.2) (h : ¬ opening <:+: gaps pieces last) :
    Leftmost pieces last := by
  induction pieces with
  | nil => exact .last (clear_of_not_opening h (by simp))
  | cons piece pieces ih =>
      obtain ⟨gap, comment⟩ := piece
      have hcomment : IsComment comment := hcomments _ List.mem_cons_self
      rw [gaps] at h
      -- a comment begins with a slash, so no `/*` reaches from the gap into it
      refine .piece hcomment (clear_of_not_opening ?_ ?_) (ih ?_ ?_)
      · exact fun hin => h (List.infix_append_of_infix_left hin)
      · rw [hcomment.head?_append]
        decide
      · exact fun piece hp => hcomments piece (List.mem_cons_of_mem _ hp)
      · exact fun hin => h (List.infix_append_of_infix_right hin)

end Codebook.Comment

namespace Codebook

/-- A document is read as it is without its comments. -/
theorem Catalog.parse_congr {raw raw' : Bytes} (h : Comment.strip raw = Comment.strip raw') :
    Catalog.parse raw = Catalog.parse raw' := by
  unfold Catalog.parse
  rw [h]

open Comment

/--
**Comments are transparent to reading.**

The outcome is the same catalog or the same fault of the same document, and so the same message
with the same line and column.
-/
theorem parse_joined {pieces : List (Bytes × Bytes)} {last : Bytes}
    (hcomments : ∀ piece ∈ pieces, IsComment piece.2) (hplain : ¬ opening <:+: gaps pieces last) :
    Catalog.parse (joined pieces last) = Catalog.parse (gaps pieces last) := by
  refine Catalog.parse_congr ?_
  rw [strip_joined (leftmost_of_not_opening hcomments hplain), strip_of_not_opening hplain]

/-- Comments inside a key and behind a lone slash inside a description, with the bodies `/` and
`*"/*`. -/
theorem parse_joined_inside_strings :
    (∀ piece ∈ [(Utf8.encode "\x7b\"1".toList, Utf8.encode "/*/*/".toList),
      (Utf8.encode "\":\"/".toList, Utf8.encode "/**\"/**/".toList)], IsComment piece.2) ∧
    ¬ opening <:+: Utf8.encode "\x7b\"1\":\"/\"\x7d".toList ∧
    Catalog.parse (Utf8.encode "\x7b\"1/*/*/\":\"//**\"/**/\"\x7d".toList) =
      Catalog.parse (Utf8.encode "\x7b\"1\":\"/\"\x7d".toList) := by
  -- one comment in a key, one over the seam of two strings
  have hcomments : ∀ piece ∈ [(Utf8.encode "\x7b\"1".toList, Utf8.encode "/*/*/".toList),
      (Utf8.encode "\":\"/".toList, Utf8.encode "/**\"/**/".toList)], IsComment piece.2 := by
    intro piece hp
    simp only [List.mem_cons, List.not_mem_nil, or_false] at hp
    rcases hp with rfl | rfl
    · exact ⟨['/'], by decide +kernel, by decide +kernel⟩
    · exact ⟨['*', '"', '/', '*'], by decide +kernel, by decide +kernel⟩
  have hplain : ¬ opening <:+: Utf8.encode "\x7b\"1\":\"/\"\x7d".toList := by decide +kernel
  exact ⟨hcomments, hplain, @parse_joined _ (Utf8.encode "\"\x7d".toList) hcomments hplain⟩

end Codebook
