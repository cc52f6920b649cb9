import Codebook.Proofs.Catalog.Enumeration
import Codebook.Proofs.Json.Plain
import Codebook.Proofs.Template.Phrasing

/-!
# A catalog by its own template

`catalogTemplate` puts a catalog down as a document: a member of the code zero without a
description, so that every member of the loop can have a comma in front of it, and then each code
with its description. What it gives is `Json.plain` of these members, whatever is in the
descriptions. Where nothing in them needs an escape and no `*/` is there, the document is read
back: nothing that a template, a comment or a page could take for its own is changed on the way.
-/

namespace Codebook

/-- The code zero. -/
def Code.zero : Code := ⟨0, by decide, by decide⟩

namespace Catalog

theorem mem_entries_iff {catalog : Catalog} {entry : Code × Text} :
    entry ∈ catalog.entries ↔ entry.1 ∈ catalog.codes ∧ entry.2 = catalog.get entry.1 := by
  rw [entries_eq, List.mem_map]
  constructor
  · rintro ⟨code, hcode, rfl⟩
    exact ⟨hcode, rfl⟩
  · rintro ⟨hcode, hget⟩
    exact ⟨entry.1, hcode, Prod.ext rfl hget.symm⟩

/-- A catalog is made up of its own entries. -/
theorem ofMembers_entries (catalog : Catalog) : ofMembers catalog.entries = catalog := by
  have hcodes (code : Code) : code ∈ (ofMembers catalog.entries).codes ↔ code ∈ catalog.codes :=
    mem_codes_ofMembers
  refine ext_of_codes hcodes fun code => ?_
  by_cases hcode : code ∈ catalog.codes
  · have hentry : (code, catalog.get code) ∈ catalog.entries := mem_entries_iff.2 ⟨hcode, rfl⟩
    exact get_ofMembers_of_mem catalog.nodup_codes hentry
  · rw [get_of_not_mem hcode, get_of_not_mem (mt (hcodes code).1 hcode)]

/-- A code without a description in front changes no description. -/
theorem get_ofMembers_cons_nil (code code' : Code) (members : List (Code × Text)) :
    (ofMembers ((code, []) :: members)).get code' = (ofMembers members).get code' := by
  have hbefore : (empty.insert code []).get code' = empty.get code' := by
    rw [get_insert]
    split <;> rfl
  rw [ofMembers, ofMembers, insertAll_cons, get_insertAll, get_insertAll, hbefore]

end Catalog

namespace Template

open Codebook.Template.Part

/-- The template that puts a catalog down, behind a member of the code zero. -/
def catalogTemplate : Text :=
  ("\x7b\"0\":\"\"\x7b% for code in codes %\x7d," ++
    "\"\x7b\x7b code \x7d\x7d\":\"\x7b\x7b key(code) \x7d\x7d\"" ++
    "\x7b% endfor %\x7d\x7d").toList

/-- What the loop shows for each code. -/
def memberParts : List Part :=
  [.data ",\"".toList, .emit (.name .code), .data "\":\"".toList, .emit TextExpr.key.term,
    .data ['"']]

theorem textOfAll?_memberParts (context : Context) (code : Code) (turn : Turn) :
    textOfAll? context (codeScope code turn) memberParts =
      some (',' :: Json.plainMember (code, context.catalog.get code)) := by
  have hdescription := TextExpr.key.value?_term context code turn
  have hvalue : TextExpr.key.value context code = context.catalog.get code := rfl
  have hshow (t : Text) : ((Value.text t).shownAs false).toOption = some t := rfl
  have hnumber : ((Value.integer code.value).shownAs false).toOption = some code.toText := rfl
  simp [memberParts, textOfAll?, text?, hdescription, hvalue, hshow, Term.value?_code, hnumber,
    Json.plainMember]

set_option maxRecDepth 2048 in
theorem catalogTemplate_eq_codeLoop :
    catalogTemplate = codeLoop false false "\x7b\"0\":\"\"".toList
      (",\"".toList ++ showTag (' ' :: ("code".toList ++ [' '])) ++
        ("\":\"".toList ++ showTag (' ' :: ("key(code)".toList ++ [' '])) ++ ['"'])) ['\x7d'] :=
  rfl

/-- **The template gives the document of the entries as they are.** -/
theorem render_catalogTemplate (context : Context) :
    render context catalogTemplate =
      .ok (Json.plain ((.zero, []) :: context.catalog.entries)) := by
  have hcode : Written (Term.name .code).tokens "code".toList := (Term.name .code).written_text rfl
  have hkey : Written TextExpr.key.term.tokens "key(code)".toList :=
    TextExpr.key.term.written_text rfl
  have hbody : WrittenBody false memberParts
      (",\"".toList ++ showTag (' ' :: ("code".toList ++ [' '])) ++
        ("\":\"".toList ++ showTag (' ' :: ("key(code)".toList ++ [' '])) ++ ['"'])) :=
    .emit (unmarked_of_not_mem (by decide)) hcode.spaced
      (.emit (unmarked_of_not_mem (by decide)) hkey.spaced
        (.last (unmarked_of_not_mem (by decide))))
  have hfits : AllFit memberParts (Parser.maxDepth - 1) := by
    simp only [memberParts, AllFit, Fits, TextExpr.key.fits_term_iff, Term.Fits, true_and, and_true]
    decide
  -- the entry of zero in front spares the loop its first comma
  rw [catalogTemplate_eq_codeLoop]
  have hfront : Unmarked "\x7b\"0\":\"\"".toList := rfl
  have hbehind : findMarker ['\x7d'] = none := rfl
  refine (render_codeLoop hfront hbody hbehind hfits (textOfAll?_memberParts context)).trans ?_
  rw [Json.plain_cons, Catalog.entries_eq, List.flatMap_map]
  rfl

end Template

/--
**A catalog is read back from what its own template gives.**

If nothing in its descriptions needs an escape and none holds `*/`, the document that is rendered
is read, in both modes. It has the code zero once, whether or not the catalog has it, and all codes
of the catalog, and says of every code what the catalog says.
-/
theorem parse_catalogTemplate {catalog : Catalog}
    (hplain : ∀ code ∈ catalog.codes, Json.StringLiteral.Plain (catalog.get code))
    (hclosing : ∀ code ∈ catalog.codes, ¬ "*/".toList <:+: catalog.get code)
    (mode : Phrase.MapMode) :
    ∃ output again,
      Template.render ⟨catalog, mode⟩ Template.catalogTemplate = .ok output ∧
      Catalog.parse (Utf8.encode output) = .ok again ∧
      again.codes.Pairwise (fun a b => a.value < b.value) ∧
      (∀ code, code ∈ again.codes ↔ code = .zero ∨ code ∈ catalog.codes) ∧
      ∀ code, again.get code = catalog.get code := by
  have hentry (entry : Code × Text) (hentry : entry ∈ (Code.zero, []) :: catalog.entries) :
      entry.2 = [] ∨ ∃ code ∈ catalog.codes, entry.2 = catalog.get code := by
    rcases List.mem_cons.1 hentry with rfl | hentry
    · exact .inl rfl
    · obtain ⟨hcode, hget⟩ := Catalog.mem_entries_iff.1 hentry
      exact .inr ⟨entry.1, hcode, hget⟩
  -- a plain document without a closing mark, so nothing is cut out of it
  have hread : Catalog.parse (Utf8.encode (Json.plain ((.zero, []) :: catalog.entries))) =
      .ok (.ofMembers ((.zero, []) :: catalog.entries)) := by
    refine Catalog.parse_plain (fun entry h => ?_) fun entry h => ?_
    · rcases hentry entry h with hnil | ⟨code, hcode, hget⟩
      · rw [hnil]
        exact Json.StringLiteral.plain_nil
      · rw [hget]
        exact hplain code hcode
    · rcases hentry entry h with hnil | ⟨code, hcode, hget⟩
      · rw [hnil]
        decide
      · rw [hget]
        exact hclosing code hcode
  refine ⟨_, _, Template.render_catalogTemplate ⟨catalog, mode⟩, hread,
    Catalog.ascending_codes _, fun code => ?_, fun code => ?_⟩
  · rw [Catalog.mem_codes_ofMembers, List.map_cons, List.mem_cons]
    rfl
  · rw [Catalog.get_ofMembers_cons_nil, Catalog.ofMembers_entries]

/-- Zero and one code below, with descriptions full of marks that mean something elsewhere. -/
def markedCatalog : Catalog :=
  .ofMembers [(.zero, "/* <b> & 'é' *".toList),
    (⟨-7, by decide, by decide⟩, "/\x7b\x7b code \x7d\x7d \x7b% 漢".toList)]

/-- Zero keeps its description, though there is a member without one in front. -/
theorem parse_catalogTemplate_marked :
    (∀ code ∈ markedCatalog.codes, Json.StringLiteral.Plain (markedCatalog.get code)) ∧
    (∀ code ∈ markedCatalog.codes, ¬ "*/".toList <:+: markedCatalog.get code) ∧
    ∃ output again,
      Template.render ⟨markedCatalog, .legacy⟩ Template.catalogTemplate = .ok output ∧
      Catalog.parse (Utf8.encode output) = .ok again ∧
      again.get .zero = "/* <b> & 'é' *".toList := by
  have hcodes : markedCatalog.codes = [⟨-7, by decide, by decide⟩, .zero] := rfl
  have hbelow : markedCatalog.get ⟨-7, by decide, by decide⟩ =
      "/\x7b\x7b code \x7d\x7d \x7b% 漢".toList := rfl
  have hzero : markedCatalog.get .zero = "/* <b> & 'é' *".toList := rfl
  have hplain : ∀ code ∈ markedCatalog.codes,
      Json.StringLiteral.Plain (markedCatalog.get code) := by
    rw [hcodes, List.forall_mem_cons, List.forall_mem_singleton, hbelow, hzero]
    decide +kernel
  -- an opening without a closing is not a comment
  have hclosing : ∀ code ∈ markedCatalog.codes, ¬ "*/".toList <:+: markedCatalog.get code := by
    rw [hcodes, List.forall_mem_cons, List.forall_mem_singleton, hbelow, hzero]
    decide +kernel
  obtain ⟨output, again, hrender, hread, -, -, hget⟩ :=
    parse_catalogTemplate hplain hclosing .legacy
  exact ⟨hplain, hclosing, output, again, hrender, hread, (hget .zero).trans hzero⟩

end Codebook
