import Codebook.Proofs.Json.DocumentGrammar

/-!
# Which bytes are a catalog

The grammar derives a document in one way only: where one member ends the next byte says whether
another one follows. So a document has *the* members that it has, and the catalog that is read is
theirs. `parse_iff_document` is what this comes to for bytes with comments in them: they are read
exactly if a document is left without the comments, and nothing else decides what the catalog holds.
-/

namespace Codebook.Json

open StringLiteral (quote)

/-! ## One phrase, one reading -/

/-- The reader has one result, so the phrase has one meaning and one end. -/
theorem Member.unique {s s' rest rest' : Bytes} {entry entry' : Code × Text} (h : Member s entry)
    (h' : Member s' entry') (heq : s ++ rest = s' ++ rest') : entry = entry' ∧ rest = rest' := by
  obtain ⟨more, rfl⟩ := h.exists_quote
  have hread : member (more ++ rest) = .ok (entry, rest) := member_eq_ok_iff.mpr ⟨_, h, rfl⟩
  have hread' : member (more ++ rest) = .ok (entry', rest') :=
    member_eq_ok_iff.mpr ⟨s', h', heq⟩
  exact Prod.mk.inj (Except.ok.inj (hread.symm.trans hread'))

theorem Blanks.unique {blanks blanks' rest rest' : Bytes} {b b' : UInt8} (h : Blanks blanks)
    (h' : Blanks blanks') (hb : isBlank b = false) (hb' : isBlank b' = false)
    (heq : blanks ++ b :: rest = blanks' ++ b' :: rest') : b = b' ∧ rest = rest' := by
  have hskip := skipBlanks_append h hb rest
  rw [heq, skipBlanks_append h' hb' rest'] at hskip
  obtain ⟨rfl, rfl⟩ := List.cons.inj hskip
  exact ⟨rfl, rfl⟩

/-- Members end where their object does. -/
theorem Members.unique {s s' blanks blanks' rest rest' : Bytes}
    {entries entries' : List (Code × Text)} (h : Members s entries) (h' : Members s' entries')
    (hblanks : Blanks blanks) (hblanks' : Blanks blanks')
    (heq : s ++ (blanks ++ closeBrace :: rest) = s' ++ (blanks' ++ closeBrace :: rest')) :
    entries = entries' ∧ rest = rest' := by
  induction h generalizing s' entries' with
  | one hmember =>
      cases h' with
      | one hmember' =>
          obtain ⟨rfl, hbehind⟩ := hmember.unique hmember' heq
          exact ⟨rfl, (hblanks.unique hblanks' rfl rfl hbehind).2⟩
      | more hmember' hgap' _ _ =>
          simp only [List.append_assoc, List.cons_append] at heq
          obtain ⟨rfl, hbehind⟩ := hmember.unique hmember' heq
          -- the end of the object would be a comma
          exact absurd (hblanks.unique hgap' rfl rfl hbehind).1 (by decide)
  | more hmember hgap hnext htail ih =>
      cases h' with
      | one hmember' =>
          simp only [List.append_assoc, List.cons_append] at heq
          obtain ⟨rfl, hbehind⟩ := hmember.unique hmember' heq
          exact absurd (hgap.unique hblanks' rfl rfl hbehind).1 (by decide)
      | more hmember' hgap' hnext' htail' =>
          simp only [List.append_assoc, List.cons_append] at heq
          obtain ⟨rfl, hbehind⟩ := hmember.unique hmember' heq
          have hcomma := (hgap.unique hgap' rfl rfl hbehind).2
          obtain ⟨more, rfl⟩ := htail.exists_quote
          obtain ⟨more', rfl⟩ := htail'.exists_quote
          obtain ⟨-, hkey⟩ := hnext.unique hnext' rfl rfl hcomma
          obtain ⟨rfl, hrest⟩ := ih htail' (congrArg (List.cons quote) hkey)
          exact ⟨rfl, hrest⟩

theorem Object.unique {s s' rest rest' : Bytes} {entries entries' : List (Code × Text)}
    (h : Object s entries) (h' : Object s' entries') (heq : s ++ rest = s' ++ rest') :
    entries = entries' ∧ rest = rest' := by
  cases h with
  | empty hblanks =>
      cases h' with
      | empty hblanks' =>
          simp only [List.append_assoc, List.cons_append, List.nil_append, List.cons.injEq,
            true_and] at heq
          exact ⟨rfl, (hblanks.unique hblanks' rfl rfl heq).2⟩
      | members hblanks' hmembers' _ =>
          -- where one object ends, the other has a quote
          obtain ⟨more, rfl⟩ := hmembers'.exists_quote
          simp only [List.append_assoc, List.cons_append, List.nil_append, List.cons.injEq,
            true_and] at heq
          exact absurd (hblanks.unique hblanks' rfl rfl heq).1 (by decide)
  | members hblanks hmembers hend =>
      obtain ⟨more, rfl⟩ := hmembers.exists_quote
      cases h' with
      | empty hblanks' =>
          simp only [List.append_assoc, List.cons_append, List.nil_append, List.cons.injEq,
            true_and] at heq
          exact absurd (hblanks.unique hblanks' rfl rfl heq).1 (by decide)
      | members hblanks' hmembers' hend' =>
          obtain ⟨more', rfl⟩ := hmembers'.exists_quote
          simp only [List.append_assoc, List.cons_append, List.nil_append, List.cons.injEq,
            true_and] at heq
          -- the same blanks, so the same members behind them
          obtain ⟨-, hkey⟩ := hblanks.unique hblanks' rfl rfl heq
          exact hmembers.unique hmembers' hend hend' (congrArg (List.cons quote) hkey)

/-- **A document has one list of members.** -/
theorem Document.unique {bs : Bytes} {entries entries' : List (Code × Text)}
    (h : Document bs entries) (h' : Document bs entries') : entries = entries' := by
  generalize heq : bs = bs' at h'
  cases h with
  | mk hblanks hobject _ =>
      cases h' with
      | mk hblanks' hobject' _ =>
          obtain ⟨more, rfl⟩ := hobject.exists_openBrace
          obtain ⟨more', rfl⟩ := hobject'.exists_openBrace
          rw [List.append_assoc, List.append_assoc] at heq
          obtain ⟨-, hbehind⟩ := hblanks.unique hblanks' rfl rfl heq
          exact (hobject.unique hobject' (congrArg (List.cons openBrace) hbehind)).1

end Codebook.Json

namespace Codebook.Catalog

theorem parse_eq_ok_iff_document {raw : Bytes} {catalog : Catalog} :
    parse raw = .ok catalog ↔ Json.document (Comment.strip raw) = .ok catalog := by
  unfold parse
  dsimp only
  split
  · rename_i hdocument
    rw [hdocument]
    simp
  · rename_i hfault
    rw [hfault]
    simp

/-- What is a document without its comments is read as the catalog of its members. -/
theorem parse_of_document {raw : Bytes} {members : List (Code × Text)}
    (h : Json.Document (Comment.strip raw) members) : parse raw = .ok (ofMembers members) :=
  parse_eq_ok_iff_document.mpr (Json.document_eq_ok_iff.mpr ⟨members, h, rfl⟩)

/--
**Bytes write a catalog exactly if they are a document once their comments are out.**

The catalog is that of the members in the order in which they stand: the last one with a code
describes it, and there are as many codes as the members have different ones.
-/
theorem parse_iff_document (raw : Bytes) :
    ((∃ catalog, parse raw = .ok catalog) ↔
      ∃ members, Json.Document (Comment.strip raw) members) ∧
    ∀ members, Json.Document (Comment.strip raw) members →
      (∀ others, Json.Document (Comment.strip raw) others → others = members) ∧
      parse raw = .ok (ofMembers members) ∧
      (∀ code, (ofMembers members).get code = lastDescription members code) ∧
      (ofMembers members).size = (members.map Prod.fst).dedup.length := by
  refine ⟨⟨?_, ?_⟩, ?_⟩
  · intro h
    obtain ⟨catalog, h⟩ := h
    have hread := parse_eq_ok_iff_document.mp h
    obtain ⟨members, hmembers, -⟩ := Json.document_eq_ok_iff.mp hread
    exact ⟨members, hmembers⟩
  · intro h
    obtain ⟨members, hmembers⟩ := h
    exact ⟨_, parse_of_document hmembers⟩
  · -- what the members are follows from the document alone
    intro members hmembers
    refine ⟨?_, parse_of_document hmembers, get_ofMembers members, size_ofMembers members⟩
    intro others hothers
    exact hothers.unique hmembers

/-- Two keys with one code, a comment between their members, and a character in two escapes. -/
theorem parse_iff_document_one_code :
    ∃ catalog members,
      parse (Utf8.encode "\x7b\"-1\":\"\",/*\"*/ \"-01\" :\"\\uD83d\\uDE00\"\x7d".toList) =
        .ok catalog ∧
      Json.Document
        (Comment.strip
          (Utf8.encode "\x7b\"-1\":\"\",/*\"*/ \"-01\" :\"\\uD83d\\uDE00\"\x7d".toList))
        members ∧
      lastDescription members ⟨-1, by decide, by decide⟩ = [Char.ofNat 0x1F600] ∧
      (members.map Prod.fst).dedup.length = 1 := by
  have hread : (parse (Utf8.encode
      "\x7b\"-1\":\"\",/*\"*/ \"-01\" :\"\\uD83d\\uDE00\"\x7d".toList)).toOption.map entries =
        some [(⟨-1, by decide, by decide⟩, [Char.ofNat 0x1F600])] := by
    decide +kernel
  -- the members come from the theorem; what they describe is read off the catalog
  cases hparse : parse (Utf8.encode
      "\x7b\"-1\":\"\",/*\"*/ \"-01\" :\"\\uD83d\\uDE00\"\x7d".toList) with
  | error fault =>
      rw [hparse] at hread
      exact nomatch hread
  | ok catalog =>
      rw [hparse] at hread
      have hentries : catalog.entries = _ := Option.some.inj hread
      obtain ⟨members, hmembers⟩ := (parse_iff_document _).1.mp ⟨catalog, hparse⟩
      obtain ⟨-, hmembers', hget, hsize⟩ := (parse_iff_document _).2 members hmembers
      obtain rfl := Except.ok.inj (hparse.symm.trans hmembers')
      refine ⟨_, members, rfl, hmembers, ?_, ?_⟩
      · rw [← hget, get, hentries]
        decide
      · rw [← hsize, size, hentries]
        rfl

end Codebook.Catalog
