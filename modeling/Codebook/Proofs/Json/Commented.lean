import Codebook.Proofs.Comment.Closed
import Codebook.Proofs.Json.Plain

/-!
# Comments in descriptions

A description that holds comments loses them, for the comment pass does not look at strings. If it
closes them, nothing else happens: a quote stands behind each description and no slash between two
of them, so the pass goes through the document as through its descriptions one by one. What is left
is a document of the same codes, each with its description without comments.
-/

namespace Codebook

namespace Json

open Comment (Closed Yields stripped)
open StringLiteral (Plain)

/-- An entry with the comments of its description taken out. -/
def strippedEntry (entry : Code × Text) : Code × Text := (entry.1, stripped entry.2)

/-- **Of a member only its description is changed.** -/
theorem yields_plainMember {entry : Code × Text} (h : Closed (Utf8.encode entry.2)) :
    Yields (plainMember entry) (plainMember (strippedEntry entry)) := by
  -- what stands in front of the description has no slash, and the quote behind it ends it
  have hcode : Yields ('"' :: entry.1.toText) ('"' :: entry.1.toText) := by
    refine .of_not_mem fun hmem => ?_
    have hslash : '/' ∈ entry.1.toText := (List.mem_cons.1 hmem).resolve_left (by decide)
    simpa using (Code.numeral_toText entry.1).isDigit_or_sign '/' hslash
  have hmiddle : Yields "\":\"".toList "\":\"".toList := .of_not_mem (by decide)
  unfold plainMember
  rw [List.append_assoc _ entry.2, List.append_assoc _ (strippedEntry entry).2]
  exact (hcode.append hmiddle).append h.yields_quote

/-- **The comment pass goes through the descriptions one by one.** -/
theorem yields_plain {entries : List (Code × Text)}
    (h : ∀ entry ∈ entries, Closed (Utf8.encode entry.2)) :
    Yields (plain entries) (plain (entries.map strippedEntry)) := by
  cases entries with
  | nil => exact .of_not_mem (by decide)
  | cons entry entries =>
    have hfirst := yields_plainMember (h entry List.mem_cons_self)
    -- piece by piece: no sign between the descriptions is part of a comment
    have hothers : Yields (entries.flatMap (',' :: plainMember ·))
        (entries.flatMap fun other => ',' :: plainMember (strippedEntry other)) := by
      refine .flatMap fun other hother => ?_
      have hcomma : Yields [','] [','] := .of_not_mem (by decide)
      exact hcomma.append (yields_plainMember (h other (List.mem_cons_of_mem _ hother)))
    have hopen : Yields ['\x7b'] ['\x7b'] := .of_not_mem (by decide)
    have hclose : Yields ['\x7d'] ['\x7d'] := .of_not_mem (by decide)
    rw [List.map_cons, plain_cons, plain_cons, List.flatMap_map]
    exact (hopen.append (hfirst.append hothers)).append hclose

theorem plain_stripped {text : Text} (h : Plain text) : Plain (stripped text) := fun c hc =>
  h c ((Comment.exists_stripped text).1.subset hc)

end Json

namespace Catalog

open Json (strippedEntry)

/-- An entry is found with its description stripped. -/
theorem lookup_strippedEntry (entries : List (Code × Text)) (code : Code) :
    (entries.map strippedEntry).lookup code = (entries.lookup code).map Comment.stripped := by
  induction entries with
  | nil => rfl
  | cons entry entries ih =>
    rw [List.map_cons, lookup_entry, lookup_entry, ih, apply_ite (Option.map Comment.stripped)]
    rfl

/-- The last description loses its comments with the others. -/
theorem lastDescription_strippedEntry (entries : List (Code × Text)) (code : Code) :
    lastDescription (entries.map strippedEntry) code =
      Comment.stripped (lastDescription entries code) := by
  rw [lastDescription, lastDescription, ← List.map_reverse, lookup_strippedEntry]
  cases entries.reverse.lookup code with
  | some text => rfl
  | none => exact Comment.stripped_nil.symm

/--
**Comments in descriptions are taken out of each description on its own.**

The descriptions need no escape, and each closes the comments that it opens. The codes are those of
the entries, and what is said of each is its last description without the comments in it; so what
looks like a comment in one description is of no account to any other entry.
-/
theorem parse_plain_closed {entries : List (Code × Text)}
    (hplain : ∀ entry ∈ entries, Json.StringLiteral.Plain entry.2)
    (hclosed : ∀ entry ∈ entries, Comment.Closed (Utf8.encode entry.2)) :
    ∃ catalog, parse (Utf8.encode (Json.plain entries)) = .ok catalog ∧
      (∀ code, code ∈ catalog.codes ↔ code ∈ entries.map Prod.fst) ∧
      ∀ code, Utf8.encode (catalog.get code) =
        Comment.strip (Utf8.encode (lastDescription entries code)) := by
  refine ⟨ofMembers (entries.map strippedEntry), parse_of_document ?_, fun code => ?_,
    fun code => ?_⟩
  · rw [(Json.yields_plain hclosed).strip_eq]
    refine Json.document_plain fun entry hentry => ?_
    obtain ⟨before, hbefore, rfl⟩ := List.mem_map.1 hentry
    exact Json.plain_stripped (hplain before hbefore)
  · rw [mem_codes_ofMembers, List.map_map]
    rfl
  · rw [get_ofMembers, lastDescription_strippedEntry, Comment.encode_stripped]

/-- A description that ends in a slash stands in front of one that starts with a star, and a code is
described again. -/
def neighbours : List (Code × Text) :=
  [(⟨8, by decide, by decide⟩, "/*/*/ /".toList), (⟨9, by decide, by decide⟩, "*/ *".toList),
    (⟨8, by decide, by decide⟩, "x/**/y/".toList)]

/-- The comments do not reach from one description into the next one. -/
theorem parse_plain_closed_neighbours :
    (∀ entry ∈ neighbours, Json.StringLiteral.Plain entry.2 ∧
      Comment.Closed (Utf8.encode entry.2)) ∧
    ∃ catalog, parse (Utf8.encode
        "\x7b\"8\":\"/*/*/ /\",\"9\":\"*/ *\",\"8\":\"x/**/y/\"\x7d".toList) = .ok catalog ∧
      Utf8.encode (catalog.get ⟨8, by decide, by decide⟩) = Utf8.encode "xy/".toList ∧
      Utf8.encode (catalog.get ⟨9, by decide, by decide⟩) = Utf8.encode "*/ *".toList := by
  have hplain : ∀ entry ∈ neighbours, Json.StringLiteral.Plain entry.2 := by decide
  have hclosed : ∀ entry ∈ neighbours, Comment.Closed (Utf8.encode entry.2) := by
    have hslash : Comment.IsComment (Utf8.encode "/*/*/".toList) :=
      ⟨['/'], by decide +kernel, by decide +kernel⟩
    have hempty : Comment.IsComment (Utf8.encode "/**/".toList) :=
      ⟨[], by decide +kernel, by decide +kernel⟩
    -- the cut of each description into comments and what is left
    have hfirst := Comment.closed_joined
      (List.forall_mem_singleton.2 hslash :
        ∀ piece ∈ [(([] : Bytes), _)], Comment.IsComment piece.2)
      (show ¬ Comment.opening <:+: Comment.gaps _ (Utf8.encode " /".toList) by decide +kernel)
    have hsecond := Comment.closed_joined (List.forall_mem_nil _)
      (show ¬ Comment.opening <:+: Comment.gaps [] (Utf8.encode "*/ *".toList) by decide +kernel)
    have hagain := Comment.closed_joined
      (List.forall_mem_singleton.2 hempty :
        ∀ piece ∈ [(Utf8.encode ['x'], _)], Comment.IsComment piece.2)
      (show ¬ Comment.opening <:+: Comment.gaps _ (Utf8.encode "y/".toList) by decide +kernel)
    intro entry hentry
    simp only [neighbours, List.mem_cons, List.not_mem_nil, or_false] at hentry
    rcases hentry with rfl | rfl | rfl
    · exact hfirst
    · exact hsecond
    · exact hagain
  obtain ⟨catalog, hread, -, hget⟩ := parse_plain_closed hplain hclosed
  refine ⟨fun entry hentry => ⟨hplain entry hentry, hclosed entry hentry⟩, catalog, hread, ?_, ?_⟩
  · rw [hget]
    decide +kernel
  · rw [hget]
    decide +kernel

end Catalog

end Codebook
