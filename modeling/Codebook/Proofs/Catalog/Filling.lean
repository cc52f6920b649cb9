import Mathlib.Data.List.Induction
import Codebook.Proofs.Catalog.Enumeration

/-!
# How a table is filled

A table takes one member after the other. Each takes the place of an entry with its code, and with
each the table may come to enumerate all of its entries anew. So there are many tables that some
members may fill, and they are exactly those that hold the last member of each code, in any order
(`filled_iff_perm`). What is asked of a table does not show which of them it is.
-/

namespace Codebook.Table

/-! ## Entries and what is found -/

/-- Two enumerations of the same entries find the same for each code. -/
theorem perm_iff_lookup_eq {entries entries' : List (Code × Text)}
    (h : (entries.map Prod.fst).Nodup) (h' : (entries'.map Prod.fst).Nodup) :
    entries.Perm entries' ↔ ∀ code, entries.lookup code = entries'.lookup code := by
  constructor
  · intro hperm code
    refine Option.ext fun text => ?_
    rw [Catalog.lookup_eq_some_iff_mem h, Catalog.lookup_eq_some_iff_mem h', hperm.mem_iff]
  · intro hlookup
    refine (List.perm_ext_iff_of_nodup h.of_map h'.of_map).2 fun entry => ?_
    obtain ⟨code, text⟩ := entry
    rw [← Catalog.lookup_eq_some_iff_mem h, ← Catalog.lookup_eq_some_iff_mem h', hlookup]

/-- A table holds some members exactly if its entries are those of their catalog. -/
theorem holds_iff_perm {table : Table} {members : List (Code × Text)} :
    table.Holds members ↔ table.entries.Perm (Catalog.ofMembers members).entries := by
  rw [perm_iff_lookup_eq table.distinct (Catalog.nodup_codes _)]
  exact forall_congr' fun code => by rw [Catalog.lookup_ofMembers]

/-! ## One member more -/

/-- The table with an entry in front, in place of one with its code. -/
def put (table : Table) (entry : Code × Text) : Table where
  entries := entry :: table.entries.filter (·.1 ≠ entry.1)
  distinct := by
    refine List.nodup_cons.2 ⟨fun hmem => ?_, table.distinct.sublist (List.filter_sublist.map _)⟩
    obtain ⟨other, hother, heq⟩ := List.mem_map.1 hmem
    simp [heq] at hother

/-- One table becomes another by an entry that it takes, wherever the entries stand then. -/
def Takes (table : Table) (entry : Code × Text) (table' : Table) : Prop :=
  table'.entries.Perm (table.put entry).entries

theorem lookup_put (table : Table) (entry : Code × Text) (code : Code) :
    (table.put entry).entries.lookup code =
      if code = entry.1 then some entry.2 else table.entries.lookup code := by
  refine Option.ext fun text => ?_
  rw [Catalog.lookup_eq_some_iff_mem (table.put entry).distinct, put, List.mem_cons,
    List.mem_filter]
  split
  · next heq =>
    subst heq
    simp [Prod.ext_iff, eq_comm]
  · next hne =>
    rw [Catalog.lookup_eq_some_iff_mem table.distinct]
    simp [Prod.ext_iff, hne]

/-- **A table that takes one more member holds the members with it.** -/
theorem Holds.takes {table table' : Table} {members : List (Code × Text)} {entry : Code × Text}
    (h : table.Holds members) (htakes : table.Takes entry table') :
    table'.Holds (members ++ [entry]) := by
  intro code
  rw [(perm_iff_lookup_eq table'.distinct (table.put entry).distinct).1 htakes, lookup_put, h code,
    List.reverse_concat, Catalog.lookup_entry]

/-! ## All members -/

/-- A table that members have filled from the first to the last. -/
inductive Filled : List (Code × Text) → Table → Prop where
  | start {table : Table} : table.entries = [] → Filled [] table
  | next {members : List (Code × Text)} {entry : Code × Text} {table table' : Table} :
      Filled members table → table.Takes entry table' → Filled (members ++ [entry]) table'

/-- **A table holds the members that have filled it.** -/
theorem Filled.holds {members : List (Code × Text)} {table : Table} (h : Filled members table) :
    table.Holds members := by
  induction h with
  | start hnil => exact fun code => by rw [hnil]; rfl
  | next _ htakes ih => exact ih.takes htakes

/-- Members may fill any table that holds them. -/
theorem filled_of_holds {members : List (Code × Text)} {table : Table} (h : table.Holds members) :
    Filled members table := by
  induction members using List.reverseRecOn generalizing table with
  | nil => exact .start (List.Perm.eq_nil (holds_iff_perm.1 h))
  | append_singleton members entry ih =>
    -- the entry comes last to a table of those before it, and then the order is free
    let before : Table := ⟨(Catalog.ofMembers members).entries, Catalog.nodup_codes _⟩
    have hbefore : before.Holds members := holds_iff_perm.2 (.refl _)
    have hput : (before.put entry).Holds (members ++ [entry]) := hbefore.takes (.refl _)
    exact .next (ih hbefore) ((holds_iff_perm.1 h).trans (holds_iff_perm.1 hput).symm)

/-- **Members fill exactly the tables of their entries, enumerated in any order.** -/
theorem filled_iff_perm {members : List (Code × Text)} {table : Table} :
    Filled members table ↔ table.entries.Perm (Catalog.ofMembers members).entries :=
  ⟨fun h => holds_iff_perm.1 h.holds, fun h => filled_of_holds (holds_iff_perm.2 h)⟩

end Codebook.Table
