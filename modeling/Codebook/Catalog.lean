import Codebook.Code

/-!
# Catalogs

A catalog gives each of its codes one description. Its entries stand in ascending order of their
codes, so equal catalogs have equal entries, whatever the order they were written in. `insert`
keeps that order and puts a new description in the place of an old one.
-/

namespace Codebook

/-- Whether an entry comes before another: by its code. -/
def EntryBefore (a b : Code × Text) : Prop := a.1.value < b.1.value

/-- Codes with their descriptions, in ascending order. -/
structure Catalog where
  entries : List (Code × Text)
  ascending : entries.Pairwise EntryBefore

namespace Catalog

/-- The catalog without entries. -/
def empty : Catalog := ⟨[], List.Pairwise.nil⟩

/-- The description of a code, empty where the catalog has none. -/
def get (catalog : Catalog) (code : Code) : Text := (catalog.entries.lookup code).getD []

/-- The codes in ascending order. -/
def codes (catalog : Catalog) : List Code := catalog.entries.map Prod.fst

/-- The number of codes. -/
def size (catalog : Catalog) : Nat := catalog.entries.length

/-- Whether the catalog has no code. -/
def isEmpty (catalog : Catalog) : Bool := catalog.entries.isEmpty

/-! ## Adding an entry -/

/-- The entries with one more at its place, which takes over from one with the same code. -/
def insertEntry (code : Code) (description : Text) : List (Code × Text) → List (Code × Text)
  | [] => [(code, description)]
  | entry :: rest =>
    if code.value < entry.1.value then (code, description) :: entry :: rest
    else if code.value = entry.1.value then (code, description) :: rest
    else entry :: insertEntry code description rest

/-- Nothing comes in but the new entry. -/
theorem eq_or_mem_of_mem_insertEntry {code : Code} {description : Text} {entry : Code × Text}
    {entries : List (Code × Text)} (h : entry ∈ insertEntry code description entries) :
    entry = (code, description) ∨ entry ∈ entries := by
  induction entries with
  | nil => exact .inl (by simpa [insertEntry] using h)
  | cons first rest ih =>
    simp only [insertEntry] at h
    -- the code replaces the first entry, goes in front of it, or is put among the rest
    split at h
    · simpa using h
    · split at h
      · rcases List.mem_cons.1 h with h | h
        · exact .inl h
        · exact .inr (List.mem_cons_of_mem _ h)
      · rcases List.mem_cons.1 h with h | h
        · exact .inr (h ▸ List.mem_cons_self)
        · exact (ih h).imp_right (List.mem_cons_of_mem _)

/-- The order is kept. -/
theorem ascending_insertEntry {code : Code} {description : Text} {entries : List (Code × Text)}
    (h : entries.Pairwise EntryBefore) :
    (insertEntry code description entries).Pairwise EntryBefore := by
  induction entries with
  | nil => simp [insertEntry]
  | cons first rest ih =>
    obtain ⟨hfirst, hrest⟩ := List.pairwise_cons.1 h
    simp only [insertEntry]
    split
    -- in front of the first entry, in its place, or further behind
    · next hlt =>
      refine List.pairwise_cons.2 ⟨fun entry hentry => ?_, h⟩
      rcases List.mem_cons.1 hentry with rfl | hentry
      · exact hlt
      · exact Int.lt_trans hlt (hfirst entry hentry)
    · split
      · next heq =>
        refine List.pairwise_cons.2 ⟨fun entry hentry => ?_, hrest⟩
        simpa only [EntryBefore, heq] using hfirst entry hentry
      · refine List.pairwise_cons.2 ⟨fun entry hentry => ?_, ih hrest⟩
        rcases eq_or_mem_of_mem_insertEntry hentry with rfl | hentry
        · simp only [EntryBefore]; omega
        · exact hfirst entry hentry

/-- The catalog with a description for a code, in place of the one it had. -/
def insert (catalog : Catalog) (code : Code) (description : Text) : Catalog :=
  ⟨insertEntry code description catalog.entries, ascending_insertEntry catalog.ascending⟩

end Catalog

end Codebook
