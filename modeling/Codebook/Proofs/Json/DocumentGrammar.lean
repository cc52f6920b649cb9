import Mathlib.Data.List.TakeWhile
import Codebook.Proofs.Catalog.Contents
import Codebook.Proofs.Json.StringGrammar

/-!
# The document reader and the grammar

Bytes are read as a catalog exactly if the grammar derives them, and the catalog is that of the
members in the order in which they stand. Every reader takes a phrase off the front; blanks are
skipped as far as they go, and since no token starts with a blank this is never too far.

Readers start behind the byte that told their caller what comes next, so the phrase of a member
starts with the quote in front of what its reader gets, and that of an object with its brace.
-/

namespace Codebook.Json

open StringLiteral (quote)

/-! ## Blanks -/

theorem isBlank_iff {b : UInt8} : isBlank b = true ↔ b = 32 ∨ b = 9 ∨ b = 10 ∨ b = 13 := by
  simp only [isBlank, Bool.or_eq_true, beq_iff_eq, or_assoc]

theorem skipBlanks_append {blanks : Bytes} {b : UInt8} (h : Blanks blanks)
    (hb : isBlank b = false) (rest : Bytes) : skipBlanks (blanks ++ b :: rest) = b :: rest := by
  unfold skipBlanks
  rw [List.dropWhile_append_of_pos fun c hc => isBlank_iff.mpr (h c hc)]
  exact List.dropWhile_cons_of_neg (by simp [hb])

/-- What is skipped in front of a byte are blanks. -/
theorem blanks_of_skipBlanks {bs rest : Bytes} {b : UInt8} (h : skipBlanks bs = b :: rest) :
    ∃ blanks, Blanks blanks ∧ bs = blanks ++ b :: rest := by
  refine ⟨bs.takeWhile isBlank, fun c hc => isBlank_iff.mp (List.mem_takeWhile_imp hc), ?_⟩
  rw [← h]
  exact List.takeWhile_append_dropWhile.symm

theorem skipBlanks_eq_nil_iff {bs : Bytes} : skipBlanks bs = [] ↔ Blanks bs := by
  unfold skipBlanks
  rw [List.dropWhile_eq_nil_iff]
  exact forall₂_congr fun b _ => isBlank_iff

/-! ## The first byte of a phrase -/

theorem Literal.exists_quote {s : Bytes} {text : Text} (h : Literal s text) :
    ∃ more, s = quote :: more := by
  cases h with
  | mk _ => exact ⟨_, rfl⟩

theorem Member.exists_quote {s : Bytes} {entry : Code × Text} (h : Member s entry) :
    ∃ more, s = quote :: more := by
  cases h with
  | mk hkey _ _ _ _ =>
      obtain ⟨more, rfl⟩ := hkey.exists_quote
      exact ⟨_, rfl⟩

theorem Members.exists_quote {s : Bytes} {entries : List (Code × Text)} (h : Members s entries) :
    ∃ more, s = quote :: more := by
  cases h with
  | one hmember => exact hmember.exists_quote
  | more hmember _ _ _ =>
      obtain ⟨more, rfl⟩ := hmember.exists_quote
      exact ⟨_, rfl⟩

theorem Object.exists_openBrace {s : Bytes} {entries : List (Code × Text)} (h : Object s entries) :
    ∃ more, s = openBrace :: more := by
  cases h with
  | empty _ => exact ⟨_, rfl⟩
  | members _ _ _ => exact ⟨_, rfl⟩

/-! ## The parts of a member -/

theorem afterColon_eq_ok_iff {bs rest : Bytes} :
    afterColon bs = .ok rest ↔ ∃ blanks, Blanks blanks ∧ bs = blanks ++ colon :: rest := by
  constructor
  · -- the reader stops at the first byte that is no blank
    intro h
    unfold afterColon at h
    split at h
    · exact absurd h (by simp)
    · rename_i b more hskip
      split at h
      · rename_i hb
        obtain rfl := Except.ok.inj h
        obtain ⟨blanks, hblanks, rfl⟩ := blanks_of_skipBlanks hskip
        exact ⟨blanks, hblanks, by rw [hb]; rfl⟩
      · exact absurd h (by simp)
  · intro h
    obtain ⟨blanks, hblanks, rfl⟩ := h
    simp only [afterColon, skipBlanks_append hblanks (rfl : isBlank colon = false)]
    rfl

theorem description_eq_ok_iff {bs rest : Bytes} {text : Text} :
    description bs = .ok (text, rest) ↔
      ∃ blanks value, Blanks blanks ∧ Literal value text ∧ bs = blanks ++ (value ++ rest) := by
  constructor
  · intro h
    unfold description at h
    split at h
    · exact absurd h (by simp)
    · rename_i b more hskip
      split at h
      · rename_i hb
        obtain ⟨value, hvalue, heq⟩ := StringLiteral.read_eq_ok_iff.mp h
        obtain ⟨blanks, hblanks, rfl⟩ := blanks_of_skipBlanks hskip
        exact ⟨blanks, value, hblanks, hvalue, by rw [hb, heq]⟩
      · exact absurd h (by simp)
  · intro h
    obtain ⟨blanks, value, hblanks, hvalue, rfl⟩ := h
    -- a literal starts with its quote, which is no blank
    obtain ⟨more, rfl⟩ := hvalue.exists_quote
    rw [List.cons_append]
    simp only [description, skipBlanks_append hblanks (rfl : isBlank quote = false), if_true]
    exact StringLiteral.read_eq_ok_iff.mpr ⟨_, hvalue, rfl⟩

/-- **A member is read exactly as the phrase that starts with the quote in front of it.** -/
theorem member_eq_ok_iff {bs rest : Bytes} {entry : Code × Text} :
    member bs = .ok (entry, rest) ↔ ∃ s, Member s entry ∧ quote :: bs = s ++ rest := by
  simp only [member, Except.bind_eq_ok_iff, Prod.exists, StringLiteral.read_eq_ok_iff,
    afterColon_eq_ok_iff, description_eq_ok_iff]
  constructor
  · intro h
    obtain ⟨name, _, ⟨key, hkey, heq⟩, _, ⟨blanks, hblanks, rfl⟩, text, _,
      ⟨blanks', value, hblanks', hvalue, rfl⟩, h⟩ := h
    split at h
    · rename_i code hcode
      simp only [Except.ok.injEq, Prod.mk.injEq] at h
      obtain ⟨rfl, rfl⟩ := h
      -- the key is refused last, so the member is complete here
      have hname := Code.parse_eq_ok_iff.mp hcode
      exact ⟨_, .mk hkey hname hblanks hblanks' hvalue, by rw [heq]; simp⟩
    · exact absurd h (by simp)
  · intro h
    obtain ⟨s, hs, heq⟩ := h
    cases hs with
    | @mk key value blanks blanks' name text code hkey hname hblanks hblanks' hvalue =>
        refine ⟨name, _, ⟨key, hkey, ?_⟩, _, ⟨blanks, hblanks, rfl⟩, text, rest,
          ⟨blanks', value, hblanks', hvalue, rfl⟩, ?_⟩
        · rw [heq]
          simp
        · rw [Code.parse_eq_ok_iff.mpr hname]

/-! ## Members -/

theorem afterKeyQuote_eq_ok_iff {bs rest : Bytes} :
    afterKeyQuote bs = .ok rest ↔ ∃ blanks, Blanks blanks ∧ bs = blanks ++ quote :: rest := by
  constructor
  · intro h
    unfold afterKeyQuote at h
    split at h
    · exact absurd h (by simp)
    · rename_i b more hskip
      split at h
      · rename_i hb
        obtain rfl := Except.ok.inj h
        obtain ⟨blanks, hblanks, rfl⟩ := blanks_of_skipBlanks hskip
        exact ⟨blanks, hblanks, by rw [hb]⟩
      · -- no key here: a brace behind a comma, or something else
        split at h
        · exact absurd h (by simp)
        · exact absurd h (by simp)
  · intro h
    obtain ⟨blanks, hblanks, rfl⟩ := h
    simp only [afterKeyQuote, skipBlanks_append hblanks (rfl : isBlank quote = false), if_true]

/-- Behind a member the next byte decides. -/
theorem members_of_member {bs rest behind : Bytes} {entry : Code × Text} {b : UInt8}
    (catalog : Catalog) (hmember : member bs = .ok (entry, rest))
    (hskip : skipBlanks rest = b :: behind) :
    members catalog bs =
      if b = closeBrace then .ok (catalog.insert entry.1 entry.2, behind)
      else if b = comma then afterKeyQuote behind >>= members (catalog.insert entry.1 entry.2)
      else .error (.next .expectedCommaOrEnd (b :: behind)) := by
  have hsame : ∀ {code text rest'}, member bs = .ok ((code, text), rest') →
      entry = (code, text) ∧ rest = rest' := by
    intro code text rest' hok
    exact Prod.mk.inj (Except.ok.inj (hmember.symm.trans hok))
  -- in each case of the definition, the member read is the given one
  fun_cases members catalog bs with
  | case1 _ hfault =>
      rw [hmember] at hfault
      exact nomatch hfault
  | case2 _ _ _ hok _ hnil =>
      obtain ⟨rfl, rfl⟩ := hsame hok
      rw [hskip] at hnil
      exact nomatch hnil
  | case3 _ _ _ hok _ _ _ hcons =>
      obtain ⟨rfl, rfl⟩ := hsame hok
      obtain ⟨rfl, rfl⟩ := List.cons.inj (hskip.symm.trans hcons)
      rfl
  | case4 _ _ _ hok _ _ _ hquote hcons =>
      obtain ⟨rfl, rfl⟩ := hsame hok
      obtain ⟨rfl, rfl⟩ := List.cons.inj (hskip.symm.trans hcons)
      rw [hquote]
      rfl
  | case5 _ _ _ hok _ _ _ _ hquote hcons =>
      obtain ⟨rfl, rfl⟩ := hsame hok
      obtain ⟨rfl, rfl⟩ := List.cons.inj (hskip.symm.trans hcons)
      rw [hquote]
      rfl
  | case6 _ _ _ hok _ _ _ hcons hclose hcomma =>
      obtain ⟨rfl, rfl⟩ := hsame hok
      obtain ⟨rfl, rfl⟩ := List.cons.inj (hskip.symm.trans hcons)
      exact ((if_neg hclose).trans (if_neg hcomma)).symm

/-- What is read as members is a phrase of them, with blanks and the end of the object behind. -/
theorem phrase_of_members {catalog catalog' : Catalog} {bs behind : Bytes}
    (h : members catalog bs = .ok (catalog', behind)) :
    ∃ s entries blanks, Members s entries ∧ Blanks blanks ∧
      quote :: bs = s ++ (blanks ++ closeBrace :: behind) ∧
      catalog' = catalog.insertAll entries := by
  -- by the turns of the reader: a comma leads to the next one, with one member more in the catalog
  fun_induction members catalog bs with
  | case1 => exact absurd h (by simp)
  | case2 => exact absurd h (by simp)
  | case3 catalog bs code text rest hmember _ _ behind' hskip =>
      simp only [Except.ok.injEq, Prod.mk.injEq] at h
      obtain ⟨rfl, rfl⟩ := h
      obtain ⟨s, hs, heq⟩ := member_eq_ok_iff.mp hmember
      obtain ⟨blanks, hblanks, rfl⟩ := blanks_of_skipBlanks hskip
      exact ⟨s, _, blanks, .one hs, hblanks, heq, rfl⟩
  | case4 => exact absurd h (by simp)
  | case5 catalog bs code text rest hmember _ _ behind' next hquote hskip _ _ ih =>
      obtain ⟨s, hs, heq⟩ := member_eq_ok_iff.mp hmember
      obtain ⟨blanks, hblanks, rfl⟩ := blanks_of_skipBlanks hskip
      obtain ⟨blanks', hblanks', rfl⟩ := afterKeyQuote_eq_ok_iff.mp hquote
      obtain ⟨s', entries, blanks'', hs', hblanks'', heq', rfl⟩ := ih h
      refine ⟨_, _, blanks'', .more hs hblanks hblanks' hs', hblanks'', ?_, rfl⟩
      rw [heq, heq']
      simp [comma]
  | case6 => exact absurd h (by simp)

/-- **Members are read up to the end of their object, one after the other.** -/
theorem members_eq_ok_iff {catalog catalog' : Catalog} {bs behind : Bytes} :
    members catalog bs = .ok (catalog', behind) ↔
      ∃ s entries blanks, Members s entries ∧ Blanks blanks ∧
        quote :: bs = s ++ (blanks ++ closeBrace :: behind) ∧
        catalog' = catalog.insertAll entries := by
  constructor
  · exact phrase_of_members
  · intro h
    obtain ⟨s, entries, blanks, hs, hblanks, heq, rfl⟩ := h
    -- what was read before is in the catalog, so the catalog changes with the induction
    induction hs generalizing catalog bs with
    | one hmember =>
        have hread := member_eq_ok_iff.mpr ⟨_, hmember, heq⟩
        rw [members_of_member catalog hread (skipBlanks_append hblanks rfl _), if_pos rfl]
        rfl
    | @more first gap gap' tail entry entries hmember hgap hgap' htail ih =>
        obtain ⟨more, rfl⟩ := htail.exists_quote
        have hread := member_eq_ok_iff.mpr ⟨first, hmember, heq.trans (by simp; rfl)⟩
        rw [members_of_member catalog hread (skipBlanks_append hgap rfl _), if_neg (by decide),
          if_pos rfl, Except.bind_eq_ok_iff]
        exact ⟨_, afterKeyQuote_eq_ok_iff.mpr ⟨gap', hgap', rfl⟩, ih rfl⟩

/-! ## The object -/

theorem object_eq_ok_iff {catalog : Catalog} {bs rest : Bytes} :
    object bs = .ok (catalog, rest) ↔
      ∃ s entries, Object s entries ∧ openBrace :: bs = s ++ rest ∧
        catalog = .ofMembers entries := by
  constructor
  · intro h
    unfold object at h
    split at h
    · exact absurd h (by simp)
    · rename_i b more hskip
      obtain ⟨blanks, hblanks, rfl⟩ := blanks_of_skipBlanks hskip
      -- nothing but blanks, a closing brace, or a quote that starts a member
      split at h
      · rename_i hb
        simp only [Except.ok.injEq, Prod.mk.injEq] at h
        obtain ⟨rfl, rfl⟩ := h
        exact ⟨_, [], .empty hblanks, by rw [hb]; simp [closeBrace], rfl⟩
      · split at h
        · rename_i hb
          obtain ⟨s, entries, blanks', hs, hblanks', heq, rfl⟩ := members_eq_ok_iff.mp h
          exact ⟨_, entries, .members hblanks hs hblanks', by rw [hb, heq]; simp, rfl⟩
        · exact absurd h (by simp)
  · intro h
    obtain ⟨s, entries, hs, heq, rfl⟩ := h
    cases hs with
    | @empty blanks hblanks =>
        obtain rfl : bs = blanks ++ closeBrace :: rest := by simpa using heq
        simp only [object, skipBlanks_append hblanks (rfl : isBlank closeBrace = false)]
        rfl
    | @members blanks members' blanks' _ hblanks hs hblanks' =>
        obtain ⟨more, rfl⟩ := hs.exists_quote
        obtain rfl : bs = blanks ++ quote :: (more ++ (blanks' ++ closeBrace :: rest)) := by
          simpa using heq
        simp only [object, skipBlanks_append hblanks (rfl : isBlank quote = false)]
        exact members_eq_ok_iff.mpr ⟨_, entries, blanks', hs, hblanks', rfl, rfl⟩

/-- **A document is read exactly if the grammar derives it, as the catalog of its members.** -/
theorem document_eq_ok_iff {catalog : Catalog} {bs : Bytes} :
    document bs = .ok catalog ↔
      ∃ entries, Document bs entries ∧ catalog = .ofMembers entries := by
  constructor
  · intro h
    unfold document at h
    split at h
    · exact absurd h (by simp)
    · rename_i b more hskip
      obtain ⟨blanks, hblanks, rfl⟩ := blanks_of_skipBlanks hskip
      split at h
      · rename_i hb
        obtain ⟨⟨catalog', rest⟩, hobject, h⟩ := Except.bind_eq_ok_iff.mp h
        obtain ⟨s, entries, hs, heq, rfl⟩ := object_eq_ok_iff.mp hobject
        dsimp only at h
        split at h
        · rename_i hend
          obtain rfl := Except.ok.inj h
          -- the opening brace is part of the object, though it was taken off before
          have hbytes : blanks ++ b :: more = blanks ++ s ++ rest := by
            rw [List.append_assoc, ← heq, hb]
            rfl
          refine ⟨entries, ?_, rfl⟩
          rw [hbytes]
          exact .mk hblanks hs (skipBlanks_eq_nil_iff.mp hend)
        · exact absurd h (by simp)
      · exact absurd h (by simp)
  · intro h
    obtain ⟨entries, hs, rfl⟩ := h
    cases hs with
    | @mk blanks object' blanks' _ hblanks hobject hblanks' =>
        obtain ⟨more, rfl⟩ := hobject.exists_openBrace
        -- and only blanks may stand behind it
        have hread : object (more ++ blanks') = .ok (.ofMembers entries, blanks') :=
          object_eq_ok_iff.mpr ⟨_, entries, hobject, rfl, rfl⟩
        have hend : skipBlanks blanks' = [] := skipBlanks_eq_nil_iff.mpr hblanks'
        rw [List.append_assoc, List.cons_append]
        simp only [document, skipBlanks_append hblanks (rfl : isBlank openBrace = false)]
        rw [if_pos (by rfl : openBrace = 123), Except.bind_eq_ok_iff]
        exact ⟨_, hread, by simp only [hend]⟩

end Codebook.Json
