import Codebook.Proofs.Catalog.Filling
import Codebook.Proofs.Generation.Meaning

/-!
# The codes of a catalog

The codes of a catalog that was read are those of the members of its document, each once and in the
order of the numbers, wherever the document comes from. A table that these members have filled says
the same, in whatever order it enumerates them.
-/

namespace Codebook

namespace Catalog

/-- What a catalog says of its codes, if it is made of some members. -/
structure Sequenced (members : List (Code × Text)) (catalog : Catalog) : Prop where
  ascending : catalog.codes.Pairwise fun a b => a.value < b.value
  mem_codes_iff : ∀ code, code ∈ catalog.codes ↔ ∃ text, (code, text) ∈ members
  length_codes : catalog.codes.length = catalog.size
  codes_eq_nil_iff : catalog.codes = [] ↔ catalog.isEmpty = true
  get_eq_nil : ∀ code, code ∉ catalog.codes → catalog.get code = []
  /-- What is asked of a table that the members have filled does not show its order. -/
  table : ∀ table : Table, Table.Filled members table →
    table.codes = catalog.codes ∧ table.size = catalog.size ∧
      (table.entries = [] ↔ catalog.isEmpty = true) ∧ ∀ code, table.get code = catalog.get code
  /-- Every order is one of such a table. -/
  filled : ∀ table : Table, table.entries.Perm catalog.entries → Table.Filled members table

theorem isEmpty_iff {catalog : Catalog} : catalog.isEmpty = true ↔ catalog.entries = [] :=
  List.isEmpty_iff

theorem codes_eq_nil_iff {catalog : Catalog} : catalog.codes = [] ↔ catalog.isEmpty = true := by
  rw [codes, List.map_eq_nil_iff, isEmpty_iff]

/-- **A catalog is in sequence with the members that it is made of.** -/
theorem sequenced_ofMembers (members : List (Code × Text)) :
    (ofMembers members).Sequenced members where
  ascending := ascending_codes _
  mem_codes_iff code := by
    rw [mem_codes_ofMembers, List.mem_map]
    simp
  length_codes := (size_eq_length_codes _).symm
  codes_eq_nil_iff := codes_eq_nil_iff
  get_eq_nil _ := get_of_not_mem
  table table hfilled := by
    -- however the table is arranged, it holds the same entries
    have hperm := Table.filled_iff_perm.1 hfilled
    have hempty : table.entries = [] ↔ (ofMembers members).isEmpty = true := by
      rw [isEmpty_iff, ← List.length_eq_zero_iff, hperm.length_eq, List.length_eq_zero_iff]
    rw [← table.codes_catalog, ← table.size_catalog, hfilled.holds.catalog_eq]
    refine ⟨rfl, rfl, hempty, fun code => ?_⟩
    rw [← table.get_catalog, hfilled.holds.catalog_eq]
  filled _ := Table.filled_iff_perm.2

/-- A catalog is in sequence with the members of a document, which has no others. -/
def SequencedBy (raw : Bytes) (catalog : Catalog) : Prop :=
  ∃ members, Json.Document (Comment.strip raw) members ∧
    (∀ others, Json.Document (Comment.strip raw) others → others = members) ∧
    catalog.Sequenced members

theorem sequencedBy_of_parse {raw : Bytes} {catalog : Catalog} (h : parse raw = .ok catalog) :
    catalog.SequencedBy raw := by
  obtain ⟨members, hdocument, rfl⟩ := exists_members_of_parse h
  exact ⟨members, hdocument, fun others hothers => hothers.unique hdocument,
    sequenced_ofMembers members⟩

end Catalog

/-! ## Where a catalog was read -/

theorem mapError_parse_eq_ok {result : Except CatalogFault Catalog} {catalog : Catalog}
    (h : result.mapError Error.parse = .ok catalog) : result = .ok catalog := by
  cases result with
  | ok read => exact congrArg Except.ok (Except.ok.inj h)
  | error fault => exact nomatch h

/-- A catalog that comes from a file is what its bytes write. -/
theorem exists_parse_of_catalogAt {world : World} {path : Text} {catalog : Catalog}
    (h : ((catalogAt path : Run Catalog).run world).1 = .ok catalog) :
    ∃ raw, world.files.read path = .ok raw ∧ Catalog.parse raw = .ok catalog := by
  rw [run_catalogAt] at h
  split at h
  · exact nomatch h
  · next raw hread => exact ⟨raw, hread, mapError_parse_eq_ok h⟩

/-- A catalog that comes from a source is what the bytes that the source has write. -/
theorem exists_parse_of_catalogFrom {world : World} {source : Text} {catalog : Catalog}
    (h : ((catalogFrom source : Run Catalog).run world).1 = .ok catalog) :
    ∃ raw, world.Holds source raw ∧ Catalog.parse raw = .ok catalog := by
  unfold catalogFrom at h
  unfold World.Holds
  -- of all that may become of an address, only a successful answer is parsed
  split at h
  · next scheme hsource =>
    rw [hsource]
    rw [run_catalogAtUrl] at h
    split at h
    · exact nomatch h
    · next url hurl =>
      split at h
      · exact nomatch h
      · next response hresponse =>
        split at h
        · next hsuccess =>
          exact ⟨response.body, ⟨url, response, hurl, hresponse, hsuccess, rfl⟩,
            mapError_parse_eq_ok h⟩
        · exact nomatch h
  · next hsource =>
    rw [hsource]
    exact exists_parse_of_catalogAt h

/--
**The codes of every catalog are those of its members, each once and in ascending order.**

This is so of the catalog without entries, and of every catalog that was parsed, read from a file or
opened at a source, whose members are those of the one document that was there.
-/
theorem sequenced_everywhere :
    Catalog.empty.Sequenced [] ∧
    (∀ raw catalog, Catalog.parse raw = .ok catalog → catalog.SequencedBy raw) ∧
    (∀ (world : World) path catalog,
      ((catalogAt path : Run Catalog).run world).1 = .ok catalog →
      ∃ raw, world.files.read path = .ok raw ∧ catalog.SequencedBy raw) ∧
    ∀ (world : World) source catalog,
      ((catalogFrom source : Run Catalog).run world).1 = .ok catalog →
      ∃ raw, world.Holds source raw ∧ catalog.SequencedBy raw := by
  refine ⟨Catalog.sequenced_ofMembers [], fun raw catalog => Catalog.sequencedBy_of_parse,
    fun world path catalog h => ?_, fun world source catalog h => ?_⟩
  · -- wherever a catalog comes from, it was parsed
    obtain ⟨raw, hread, hparse⟩ := exists_parse_of_catalogAt h
    exact ⟨raw, hread, Catalog.sequencedBy_of_parse hparse⟩
  · obtain ⟨raw, hholds, hparse⟩ := exists_parse_of_catalogFrom h
    exact ⟨raw, hholds, Catalog.sequencedBy_of_parse hparse⟩

/-- A document that names three codes, two of them twice and in different ways. -/
def mixedDocument : Bytes :=
  Utf8.encode
    ("\x7b\"10\":\"a\",\"9\":\"b\",\"-9223372036854775808\":\"c\"," ++
      "\"+10\":\"d\",\"09\":\"\"\x7d").toList

/-- The document in a file. -/
def mixedWorld : World :=
  .ofFiles (FileSystem.empty.put .root "m".toList (.file mixedDocument) (by decide))

/-- In the order of the texts the code 10 would come before the code 9. -/
theorem sequenced_everywhere_mixed :
    ∃ catalog, Catalog.parse mixedDocument = .ok catalog ∧
      ((catalogAt "m".toList : Run Catalog).run mixedWorld).1 = .ok catalog ∧
      ((catalogFrom "m".toList : Run Catalog).run mixedWorld).1 = .ok catalog ∧
      catalog.codes.map (·.value) = [-9223372036854775808, 9, 10] ∧
      catalog.SequencedBy mixedDocument ∧
      ∃ raw, mixedWorld.Holds "m".toList raw ∧ catalog.SequencedBy raw := by
  obtain ⟨-, hparse, -, hfrom⟩ := sequenced_everywhere
  have hcodes : (Catalog.parse mixedDocument).toOption.map (·.codes.map (·.value)) =
      some [-9223372036854775808, 9, 10] := by decide +kernel
  obtain ⟨catalog, hread, hvalues⟩ := Option.map_eq_some_iff.1 hcodes
  have hcatalog := Except.toOption_eq_some_iff.1 hread
  have hfile : mixedWorld.files.read "m".toList = .ok mixedDocument := rfl
  -- a source that is no address is a path
  have hat : ((catalogAt "m".toList : Run Catalog).run mixedWorld).1 = .ok catalog := by
    rw [run_catalogAt, hfile]
    dsimp only
    rw [hcatalog]
    rfl
  have hsource : ((catalogFrom "m".toList : Run Catalog).run mixedWorld).1 = .ok catalog := by
    rwa [catalogFrom_of_path (by decide)]
  exact ⟨catalog, hcatalog, hat, hsource, hvalues, hparse _ _ hcatalog, hfrom _ _ _ hsource⟩

end Codebook
