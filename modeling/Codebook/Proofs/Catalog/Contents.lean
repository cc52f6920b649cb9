import Mathlib.Data.List.Dedup
import Codebook.Catalog
import Codebook.Proofs.Code.Numeral

/-!
# What a catalog holds

A catalog is looked at through its codes and through the description that it gives a code. Both are
known of a catalog to which one entry is added, and so of one that is built from members one after
the other: the last member with a code describes it, and the codes are those that some member has,
each once and in ascending order.
-/

namespace Codebook.Catalog

/-! ## One entry more -/

theorem lookup_entry (code : Code) (entry : Code × Text) (entries : List (Code × Text)) :
    (entry :: entries).lookup code =
      if code = entry.1 then some entry.2 else entries.lookup code := by
  obtain ⟨first, text⟩ := entry
  rw [List.lookup_cons]
  by_cases h : code = first
  · simp [h]
  · have hb : (code == first) = false := by simpa using h
    simp [h, hb]

/-- Of entries with different codes each one is found. -/
theorem lookup_eq_some_iff_mem {entries : List (Code × Text)} {code : Code} {text : Text}
    (h : (entries.map Prod.fst).Nodup) :
    entries.lookup code = some text ↔ (code, text) ∈ entries := by
  induction entries with
  | nil => simp
  | cons entry entries ih =>
      obtain ⟨hfirst, hrest⟩ := List.nodup_cons.mp h
      rw [lookup_entry, List.mem_cons]
      split
      · rename_i heq
        subst heq
        constructor
        · intro hsome
          exact Or.inl (Prod.ext rfl (Option.some.inj hsome).symm)
        · rintro (heq | hmem)
          · exact congrArg (some ∘ Prod.snd) heq.symm
          -- a second entry with this code would be among the rest
          · exact absurd (List.mem_map_of_mem (f := Prod.fst) hmem) hfirst
      · rename_i hne
        rw [ih hrest]
        exact (or_iff_right fun heq => hne (congrArg Prod.fst heq)).symm

theorem lookup_insertEntry (code code' : Code) (description : Text)
    (entries : List (Code × Text)) :
    (insertEntry code description entries).lookup code' =
      if code' = code then some description else entries.lookup code' := by
  induction entries with
  | nil => rw [insertEntry, lookup_entry]
  | cons entry rest ih =>
      rw [insertEntry]
      split
      · rw [lookup_entry]
      · split
        · rename_i heq
          obtain rfl : code = entry.1 := Code.eq_of_value_eq heq
          rw [lookup_entry, lookup_entry]
          split <;> rfl
        · rename_i hne
          rw [lookup_entry, lookup_entry, ih]
          -- an entry that is passed has another code than the new one
          by_cases h : code' = entry.1
          · have hother : ¬ entry.1 = code := fun he => hne (by rw [he])
            rw [if_pos h, if_pos h, if_neg (h ▸ hother)]
          · rw [if_neg h, if_neg h]

theorem get_insert (catalog : Catalog) (code code' : Code) (description : Text) :
    (catalog.insert code description).get code' =
      if code' = code then description else catalog.get code' := by
  unfold get insert
  rw [lookup_insertEntry]
  split <;> rfl

/-! ## The codes -/

theorem mem_codes_iff {catalog : Catalog} {code : Code} :
    code ∈ catalog.codes ↔ (catalog.entries.lookup code).isSome := by
  rw [List.lookup_isSome_iff, codes]
  simp

theorem get_of_not_mem {catalog : Catalog} {code : Code} (h : code ∉ catalog.codes) :
    catalog.get code = [] := by
  rw [mem_codes_iff, Option.not_isSome_iff_eq_none] at h
  rw [get, h]
  rfl

theorem ascending_codes (catalog : Catalog) :
    catalog.codes.Pairwise fun a b => a.value < b.value :=
  List.pairwise_map.mpr catalog.ascending

theorem nodup_codes (catalog : Catalog) : catalog.codes.Nodup :=
  catalog.ascending_codes.imp fun hlt heq => by rw [heq] at hlt; exact absurd hlt (Int.lt_irrefl _)

/-! ## Members one after the other -/

/-- The catalog with some members, each taking over from those before it with the same code. -/
def insertAll (catalog : Catalog) (members : List (Code × Text)) : Catalog :=
  members.foldl (fun catalog member => catalog.insert member.1 member.2) catalog

/-- The catalog that some members make up. -/
def ofMembers (members : List (Code × Text)) : Catalog := empty.insertAll members

/-- What the last member with a code says, and nothing where there is none. -/
def lastDescription (members : List (Code × Text)) (code : Code) : Text :=
  (members.reverse.lookup code).getD []

@[simp] theorem insertAll_cons (catalog : Catalog) (member : Code × Text)
    (members : List (Code × Text)) :
    catalog.insertAll (member :: members) =
      (catalog.insert member.1 member.2).insertAll members := rfl

theorem lookup_insertAll (members : List (Code × Text)) (catalog : Catalog) (code : Code) :
    (catalog.insertAll members).entries.lookup code =
      (members.reverse.lookup code).or (catalog.entries.lookup code) := by
  induction members generalizing catalog with
  | nil => rfl
  | cons member members ih =>
      rw [insertAll_cons, ih, insert, lookup_insertEntry, List.reverse_cons, List.lookup_append,
        Option.or_assoc, lookup_entry]
      congr 1
      split <;> rfl

theorem get_insertAll (members : List (Code × Text)) (catalog : Catalog) (code : Code) :
    (catalog.insertAll members).get code =
      (members.reverse.lookup code).getD (catalog.get code) := by
  rw [get, lookup_insertAll, Option.getD_or]
  rfl

theorem mem_codes_insertAll {members : List (Code × Text)} {catalog : Catalog} {code : Code} :
    code ∈ (catalog.insertAll members).codes ↔
      code ∈ members.map Prod.fst ∨ code ∈ catalog.codes := by
  rw [mem_codes_iff, lookup_insertAll, Option.isSome_or, Bool.or_eq_true, ← mem_codes_iff,
    List.lookup_isSome_iff]
  simp

/-- The entry of a code is the last member with it. -/
theorem lookup_ofMembers (members : List (Code × Text)) (code : Code) :
    (ofMembers members).entries.lookup code = members.reverse.lookup code :=
  (lookup_insertAll members empty code).trans (Option.or_none)

/-- **The last member with a code describes it.** -/
theorem get_ofMembers (members : List (Code × Text)) (code : Code) :
    (ofMembers members).get code = lastDescription members code :=
  get_insertAll members empty code

theorem lastDescription_append_cons {before after : List (Code × Text)} {code : Code} {text : Text}
    (h : code ∉ after.map Prod.fst) :
    lastDescription (before ++ (code, text) :: after) code = text := by
  have hafter : after.reverse.lookup code = none := by
    rw [← Option.not_isSome_iff_eq_none, List.lookup_isSome_iff]
    simpa using h
  rw [lastDescription, List.reverse_append, List.reverse_cons, List.append_assoc,
    List.lookup_append, hafter, Option.none_or, List.singleton_append, lookup_entry, if_pos rfl,
    Option.getD_some]

/-- Of members with different codes each one describes its own. -/
theorem get_ofMembers_of_mem {members : List (Code × Text)} {member : Code × Text}
    (hdistinct : (members.map Prod.fst).Nodup) (h : member ∈ members) :
    (ofMembers members).get member.1 = member.2 := by
  have hcodes : (members.reverse.map Prod.fst).Nodup := by
    rw [List.map_reverse]
    exact List.nodup_reverse.mpr hdistinct
  rw [get_ofMembers, lastDescription,
    (lookup_eq_some_iff_mem hcodes).mpr (List.mem_reverse.mpr h)]
  rfl

theorem mem_codes_ofMembers {members : List (Code × Text)} {code : Code} :
    code ∈ (ofMembers members).codes ↔ code ∈ members.map Prod.fst :=
  mem_codes_insertAll.trans (or_iff_left (List.not_mem_nil))

/-- **The codes are those of the members, each once.** -/
theorem codes_ofMembers_perm (members : List (Code × Text)) :
    (ofMembers members).codes.Perm (members.map Prod.fst).dedup :=
  (List.perm_ext_iff_of_nodup (nodup_codes _) (List.nodup_dedup _)).mpr fun _ =>
    mem_codes_ofMembers.trans List.mem_dedup.symm

theorem size_ofMembers (members : List (Code × Text)) :
    (ofMembers members).size = (members.map Prod.fst).dedup.length := by
  rw [← (codes_ofMembers_perm members).length_eq, codes, List.length_map]
  rfl

end Codebook.Catalog
