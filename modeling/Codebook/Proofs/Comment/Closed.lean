import Codebook.Proofs.Comment.InText
import Codebook.Proofs.Comment.Transparency

/-!
# Texts that close their comments

A text closes its comments if no `/*` stands behind the last one that is taken out of it. Then no
gap of it holds a `/*` at all, and nothing that is written behind the text can make a comment begin
in it, unless it starts with a star. So the scan of the whole is the scan of the text and then of
what stands behind it.
-/

namespace Codebook.Comment

/-! ## Texts without their comments -/

/-- What is left of a text without its comments. -/
def stripped (text : Text) : Text := (Utf8.decodeFront (strip (Utf8.encode text))).1

/-- **The scan of a text leaves a text, with some of the characters in their order.** -/
theorem exists_stripped (text : Text) :
    (stripped text).Sublist text ∧ Utf8.encode (stripped text) = strip (Utf8.encode text) := by
  obtain ⟨pieces, last, heq, hleft⟩ := exists_leftmost (Utf8.encode text)
  obtain ⟨left, hsublist, hgaps⟩ := exists_sublist_of_joined hleft.isComment heq
  have hstrip : strip (Utf8.encode text) = Utf8.encode left := by
    rw [← heq, strip_joined hleft, hgaps]
  have hstripped : stripped text = left := by rw [stripped, hstrip, Utf8.decodeFront_encode]
  rw [hstripped, hstrip]
  exact ⟨hsublist, rfl⟩

theorem encode_stripped (text : Text) :
    Utf8.encode (stripped text) = strip (Utf8.encode text) := (exists_stripped text).2

theorem stripped_nil : stripped [] = [] := List.sublist_nil.1 (exists_stripped []).1

/-! ## The scan of a part -/

/-- Behind the last comment no `/*` stands. -/
def Closed (bs : Bytes) : Prop := ∃ cut : Cut bs, ¬ opening <:+: cut.last

/-- Comments in a text without `/*` are all closed. -/
theorem closed_joined {pieces : List (Bytes × Bytes)} {last : Bytes}
    (hcomments : ∀ piece ∈ pieces, IsComment piece.2) (h : ¬ opening <:+: gaps pieces last) :
    Closed (joined pieces last) := by
  refine ⟨⟨pieces, last, rfl, leftmost_of_not_opening hcomments h⟩, fun hlast => h ?_⟩
  rw [← flatten_gapList, gapList, List.flatten_append, List.flatten_singleton]
  exact List.infix_append_of_infix_right hlast

/-- Where no gap holds a `/*`, what stands behind does not change which comments there are. -/
theorem strip_joined_append {pieces : List (Bytes × Bytes)} {last rest : Bytes}
    (hcomments : ∀ piece ∈ pieces, IsComment piece.2)
    (hgaps : ∀ piece ∈ pieces, ¬ opening <:+: piece.1)
    (hlast : ¬ opening <:+: last) (hrest : rest.head? ≠ some star) :
    strip (joined pieces last ++ rest) = gaps pieces last ++ strip rest := by
  induction pieces with
  | nil => exact strip_gap_append (clear_of_not_opening hlast hrest)
  | cons piece pieces ih =>
    obtain ⟨gap, comment⟩ := piece
    have hcomment : IsComment comment := hcomments _ List.mem_cons_self
    -- the slash of a comment does not make the gap in front of it end in `/*`
    have hslash : (comment ++ (joined pieces last ++ rest)).head? ≠ some star := by
      rw [hcomment.head?_append]
      decide
    have hclear : Clear gap (comment ++ (joined pieces last ++ rest)) :=
      clear_of_not_opening (hgaps _ List.mem_cons_self) hslash
    rw [joined, gaps, List.append_assoc, List.append_assoc, strip_gap_append hclear,
      strip_comment_append hcomment, List.append_assoc]
    rw [ih (fun piece hp => hcomments piece (List.mem_cons_of_mem _ hp))
      fun piece hp => hgaps piece (List.mem_cons_of_mem _ hp)]

/-- **Behind a text that closes its comments the scan starts anew.** -/
theorem Closed.strip_append {text : Text} {rest : Bytes} (h : Closed (Utf8.encode text))
    (hrest : rest.head? ≠ some star) :
    strip (Utf8.encode text ++ rest) = strip (Utf8.encode text) ++ strip rest := by
  obtain ⟨⟨pieces, last, heq, hleft⟩, hlast⟩ := h
  have hscan := strip_joined_append hleft.isComment (hleft.not_opening heq) hlast hrest
  rw [heq] at hscan
  rw [hscan, ← strip_joined hleft, heq]

/-! ## Part by part -/

/-- The scan makes one text of another, whatever stands behind it. -/
def Yields (text left : Text) : Prop :=
  ∀ rest : Bytes, strip (Utf8.encode text ++ rest) = Utf8.encode left ++ strip rest

namespace Yields

theorem strip_eq {text left : Text} (h : Yields text left) :
    strip (Utf8.encode text) = Utf8.encode left := by
  have hscan := h []
  rwa [strip_nil, List.append_nil, List.append_nil] at hscan

theorem append {text left text' left' : Text} (h : Yields text left) (h' : Yields text' left') :
    Yields (text ++ text') (left ++ left') := by
  intro rest
  rw [Utf8.encode_append, Utf8.encode_append, List.append_assoc, h, h', List.append_assoc]

/-- A text without a slash is passed over. -/
theorem of_not_mem {text : Text} (h : '/' ∉ text) : Yields text text := by
  have hbytes : slash ∉ Utf8.encode text := fun hmem => by
    obtain ⟨c, hc, hbyte⟩ := List.mem_flatMap.1 hmem
    obtain rfl : c = '/' := Char.toNat_inj.1 (Utf8.encodeChar_eq_singleton hbyte (by decide)).2
    exact h hc
  intro rest
  refine strip_gap_append fun i hi hbegins => ?_
  rw [List.drop_append_of_le_length (Nat.le_of_lt hi), List.drop_eq_getElem_cons hi] at hbegins
  have hbyte := (List.cons_prefix_cons.1 hbegins.opening_prefix).1
  exact hbytes (hbyte ▸ List.getElem_mem hi)

theorem flatMap {α : Type} {f g : α → Text} {xs : List α} (h : ∀ x ∈ xs, Yields (f x) (g x)) :
    Yields (xs.flatMap f) (xs.flatMap g) := by
  induction xs with
  | nil => exact of_not_mem List.not_mem_nil
  | cons x xs ih =>
    rw [List.flatMap_cons, List.flatMap_cons]
    exact (h x List.mem_cons_self).append (ih fun y hy => h y (List.mem_cons_of_mem _ hy))

end Yields

/-- The quote behind a text that closes its comments is not a part of any of them. -/
theorem Closed.yields_quote {text : Text} (h : Closed (Utf8.encode text)) :
    Yields (text ++ ['"']) (stripped text ++ ['"']) := by
  intro rest
  have hquote : (Utf8.encode ['"'] ++ rest).head? ≠ some star := fun hhead =>
    absurd (Option.some.inj hhead) (by decide)
  have hpassed : Yields ['"'] ['"'] := .of_not_mem (by decide)
  rw [Utf8.encode_append, List.append_assoc, h.strip_append hquote, hpassed, Utf8.encode_append,
    encode_stripped, List.append_assoc]

end Codebook.Comment
