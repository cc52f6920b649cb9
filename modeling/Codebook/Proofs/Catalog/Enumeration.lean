import Mathlib.Data.List.Sort
import Codebook.Proofs.Catalog.Contents

/-!
# The order in which entries are enumerated

A catalog is known by its codes and by what it says of each (`Catalog.ext_of_codes`), since its
entries stand in the order of the codes. A table may enumerate the same entries in any other order.
Nothing that is asked of it depends on that order: its codes are sorted when they are asked for,
and a code has one entry at most, which is found wherever it stands. So every table that holds the
members of a document makes up the catalog of that document.
-/

namespace Codebook

instance : Std.Asymm fun a b : Code => a.value < b.value := ⟨fun _ _ => Int.lt_asymm⟩

namespace Catalog

/-- The order of the codes leaves no choice but which they are. -/
theorem codes_eq_of_mem_iff {catalog catalog' : Catalog}
    (h : ∀ code, code ∈ catalog.codes ↔ code ∈ catalog'.codes) :
    catalog.codes = catalog'.codes :=
  catalog.ascending_codes.eq_of_mem_iff catalog'.ascending_codes h

theorem size_eq_length_codes (catalog : Catalog) : catalog.size = catalog.codes.length := by
  rw [size, codes, List.length_map]

/-- Each code stands in front of what the catalog says of it. -/
theorem entries_eq (catalog : Catalog) :
    catalog.entries = catalog.codes.map fun code => (code, catalog.get code) := by
  rw [codes, List.map_map]
  conv => lhs; rw [← List.map_id catalog.entries]
  refine List.map_congr_left fun entry hentry => ?_
  have hlookup : catalog.entries.lookup entry.1 = some entry.2 :=
    (lookup_eq_some_iff_mem catalog.nodup_codes).2 hentry
  show entry = (entry.1, catalog.get entry.1)
  rw [get, hlookup]
  rfl

/-- **Catalogs with the same codes that say the same of each are one.** -/
theorem ext_of_codes {catalog catalog' : Catalog}
    (hcodes : ∀ code, code ∈ catalog.codes ↔ code ∈ catalog'.codes)
    (hget : ∀ code, catalog.get code = catalog'.get code) : catalog = catalog' := by
  have hentries : catalog.entries = catalog'.entries := by
    rw [entries_eq, entries_eq catalog', codes_eq_of_mem_iff hcodes]
    exact List.map_congr_left fun code _ => by rw [hget code]
  obtain ⟨entries, _⟩ := catalog
  obtain ⟨entries', _⟩ := catalog'
  subst hentries
  rfl

/-- Members that name the same codes and describe each in the same way last make up one catalog. -/
theorem ofMembers_congr {members members' : List (Code × Text)}
    (hcodes : ∀ code, code ∈ members.map Prod.fst ↔ code ∈ members'.map Prod.fst)
    (hlast : ∀ code, lastDescription members code = lastDescription members' code) :
    ofMembers members = ofMembers members' := by
  refine ext_of_codes (fun code => ?_) fun code => ?_
  · rw [mem_codes_ofMembers, mem_codes_ofMembers]
    exact hcodes code
  · rw [get_ofMembers, get_ofMembers]
    exact hlast code

end Catalog

/-! ## Tables -/

/-- Entries in the order in which they are enumerated, which may be any. No two have one code. -/
structure Table where
  entries : List (Code × Text)
  distinct : (entries.map Prod.fst).Nodup

namespace Table

/-- Whether a code comes before another, or is the same. -/
def upTo (a b : Code) : Bool := a.value ≤ b.value

/-- The codes, which are sorted as they are asked for. -/
def codes (table : Table) : List Code := (table.entries.map Prod.fst).mergeSort upTo

/-- The description of a code, empty where the table has none. -/
def get (table : Table) (code : Code) : Text := (table.entries.lookup code).getD []

/-- The number of entries. -/
def size (table : Table) : Nat := table.entries.length

theorem pairwise_upTo_codes (table : Table) : table.codes.Pairwise fun a b => upTo a b = true :=
  List.pairwise_mergeSort
    (fun a b c hab hbc => by
      simp only [upTo, decide_eq_true_eq] at hab hbc ⊢
      exact Int.le_trans hab hbc)
    (fun a b => by
      simp only [upTo, Bool.or_eq_true, decide_eq_true_eq]
      exact Int.le_total a.value b.value)
    _

/-- The codes are sorted, and each stands there once. -/
theorem ascending_codes (table : Table) :
    table.codes.Pairwise fun a b => a.value < b.value := by
  have hnodup : table.codes.Nodup :=
    (List.mergeSort_perm _ upTo).nodup_iff.2 table.distinct
  refine (table.pairwise_upTo_codes.and hnodup).imp fun {a b} h => ?_
  obtain ⟨hle, hne⟩ := h
  simp only [upTo, decide_eq_true_eq] at hle
  have hvalue : a.value ≠ b.value := fun heq => hne (Code.eq_of_value_eq heq)
  omega

theorem mem_codes_iff {table : Table} {code : Code} :
    code ∈ table.codes ↔ (table.entries.lookup code).isSome := by
  rw [codes, (List.mergeSort_perm _ upTo).mem_iff, List.lookup_isSome_iff]
  simp

/-- What is asked of a table, as a catalog. -/
def catalog (table : Table) : Catalog where
  entries := table.codes.map fun code => (code, table.get code)
  ascending := List.pairwise_map.2 table.ascending_codes

theorem codes_catalog (table : Table) : table.catalog.codes = table.codes := by
  rw [Catalog.codes, catalog, List.map_map]
  exact List.map_id _

theorem size_catalog (table : Table) : table.catalog.size = table.size := by
  rw [Catalog.size_eq_length_codes, codes_catalog, codes, (List.mergeSort_perm _ upTo).length_eq,
    List.length_map, size]

theorem get_catalog (table : Table) (code : Code) : table.catalog.get code = table.get code := by
  by_cases hcode : code ∈ table.codes
  · have hentry : (code, table.get code) ∈ table.catalog.entries :=
      List.mem_map_of_mem (f := fun code => (code, table.get code)) hcode
    rw [Catalog.entries_eq] at hentry
    obtain ⟨code', -, heq⟩ := List.mem_map.1 hentry
    obtain ⟨rfl, hget⟩ := Prod.mk.inj heq
    exact hget
  · -- neither has an entry for the code
    have htable : table.entries.lookup code = none := by
      rwa [mem_codes_iff, Option.not_isSome_iff_eq_none] at hcode
    have hcatalog : table.catalog.entries.lookup code = none := by
      rwa [← codes_catalog, Catalog.mem_codes_iff, Option.not_isSome_iff_eq_none] at hcode
    rw [Catalog.get, hcatalog, get, htable]

/-- A table holds members if the entry of each code is the last member with it. -/
def Holds (table : Table) (members : List (Code × Text)) : Prop :=
  ∀ code, table.entries.lookup code = members.reverse.lookup code

/-- **In whatever order a table enumerates the members, it makes up their catalog.** -/
theorem Holds.catalog_eq {table : Table} {members : List (Code × Text)} (h : table.Holds members) :
    table.catalog = Catalog.ofMembers members := by
  refine Catalog.ext_of_codes (fun code => ?_) fun code => ?_
  · rw [codes_catalog, mem_codes_iff, h code, Catalog.mem_codes_ofMembers, List.lookup_isSome_iff]
    simp
  · rw [get_catalog, Catalog.get_ofMembers, get, h code, Catalog.lastDescription]

end Table

end Codebook
