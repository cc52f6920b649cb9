import Mathlib.Data.List.Chain
import Codebook.Proofs.Catalog.Reading
import Codebook.Proofs.Comment.Cut

/-!
# Writing a catalog

A catalog is written without blanks, and in its strings a quote, a backslash, a slash and the
characters below 32 are escaped. The comment pass knows nothing of strings, so a description may
hold what looks like the start of a comment, and it is written as it is. But every slash has a
backslash in front of it, and then `*/` is nowhere: no comment ends, and the pass changes nothing.
What it leaves is a document, with the same members.
-/

namespace Codebook.Json

/-! ## The writer -/

namespace StringLiteral

/-- A hexadecimal digit as a byte, a letter of either case. -/
def hexByte (capitals : Bool) (n : Nat) : UInt8 :=
  UInt8.ofNat (if n < 10 then 48 + n else if capitals then 55 + n else 87 + n)

/-- A character inside a string. -/
def writeChar (capitals : Bool) (c : Char) : Bytes :=
  if c = '"' then [backslash, quote]
  else if c = '\\' then [backslash, backslash]
  else if c = '/' then [backslash, Comment.slash]
  else if c.toNat < 32 then
    [backslash, letterU, 48, 48, hexByte capitals (c.toNat / 16), hexByte capitals (c.toNat % 16)]
  else Utf8.encodeChar c

/-- A text between quotes. -/
def write (capitals : Bool) (text : Text) : Bytes :=
  quote :: text.flatMap (writeChar capitals) ++ [quote]

end StringLiteral

open StringLiteral (quote)

/-- A code between quotes, a colon, and its description. -/
def writeMember (capitals : Bool) (entry : Code × Text) : Bytes :=
  (quote :: Utf8.encode entry.1.toText ++ [quote]) ++ colon :: StringLiteral.write capitals entry.2

/-- Members between braces, in the order in which they stand. -/
def write (capitals : Bool) (entries : List (Code × Text)) : Bytes :=
  openBrace :: [comma].intercalate (entries.map (writeMember capitals)) ++ [closeBrace]

variable (capitals : Bool)

/-! ## What is written is a document -/

namespace StringLiteral

theorem Inside.append {inside inside' bytes bytes' : Bytes} (h : Inside inside bytes)
    (h' : Inside inside' bytes') : Inside (inside ++ inside') (bytes ++ bytes') := by
  induction h with
  | nil => exact h'
  | cons hpiece _ ih =>
      rw [List.append_assoc, List.append_assoc]
      exact .cons hpiece ih

theorem Inside.piece {piece bytes : Bytes} (h : Piece piece bytes) : Inside piece bytes := by
  have hcons := Inside.cons h .nil
  rwa [List.append_nil, List.append_nil] at hcons

/-- Bytes that need no escape stand for themselves. -/
theorem Inside.plain {bs : Bytes} (h : ∀ b ∈ bs, 32 ≤ b ∧ b ≠ quote ∧ b ≠ backslash) :
    Inside bs bs := by
  induction bs with
  | nil => exact .nil
  | cons b bs ih =>
      obtain ⟨hlow, hquote, hslash⟩ := h b List.mem_cons_self
      exact .cons (.plain hlow hquote hslash) (ih fun d hd => h d (List.mem_cons_of_mem _ hd))

/-- A byte below 128 is a whole character, and needs an escape only if that does. -/
theorem inside_encodeChar {c : Char} (hlow : 32 ≤ c.toNat) (hquote : c ≠ '"') (hslash : c ≠ '\\') :
    Inside (Utf8.encodeChar c) (Utf8.encodeChar c) := by
  refine .plain fun b hb => ?_
  -- from 128 on no byte has a meaning of its own
  by_cases hlt : b.toNat < 128
  · have hnum := (Utf8.encodeChar_eq_singleton hb hlt).2
    refine ⟨UInt8.le_iff_toNat_le.mpr (by rw [← hnum]; exact hlow), ?_, ?_⟩
    · rintro rfl
      exact hquote (Char.toNat_inj.mp hnum)
    · rintro rfl
      exact hslash (Char.toNat_inj.mp hnum)
  · refine ⟨UInt8.le_iff_toNat_le.mpr (Nat.le_trans (by decide) (Nat.le_of_not_lt hlt)), ?_, ?_⟩
    · rintro rfl
      exact hlt (by decide)
    · rintro rfl
      exact hlt (by decide)

theorem hexDigit_hexByte {n : Nat} (h : n < 16) : HexDigit (hexByte capitals n) n := by
  unfold hexByte
  split
  · rename_i hn
    exact .decimal hn (by rw [UInt8.toNat_ofNat']; show _ = 48 + n; omega)
  · obtain ⟨k, rfl⟩ : ∃ k, n = 10 + k := ⟨n - 10, by omega⟩
    split
    · exact .upper (by omega) (by rw [UInt8.toNat_ofNat']; show _ = 65 + k; omega)
    · exact .lower (by omega) (by rw [UInt8.toNat_ofNat']; show _ = 97 + k; omega)

theorem fourDigits_hexByte {n : Nat} (h : n < 256) :
    FourDigits [48, 48, hexByte capitals (n / 16), hexByte capitals (n % 16)] n := by
  have hzero : HexDigit 48 0 := .decimal (by decide) rfl
  have hhigh : HexDigit (hexByte capitals (n / 16)) (n / 16) := hexDigit_hexByte _ (by omega)
  have hlow : HexDigit (hexByte capitals (n % 16)) (n % 16) := hexDigit_hexByte _ (by omega)
  have hdigits := FourDigits.mk hzero hzero hhigh hlow
  have hvalue : ((0 * 16 + 0) * 16 + n / 16) * 16 + n % 16 = n := by omega
  rwa [hvalue] at hdigits

theorem inside_writeChar (c : Char) : Inside (writeChar capitals c) (Utf8.encodeChar c) := by
  unfold writeChar
  -- a short escape for three of them, digits for what cannot be written, or the character itself
  split
  · rename_i hc
    rw [hc]
    exact .piece (.short .quote)
  · rename_i hquote
    split
    · rename_i hc
      rw [hc]
      exact .piece (.short .backslash)
    · rename_i hslash
      split
      · rename_i hc
        rw [hc]
        exact .piece (.short .slash)
      · split
        · exact .piece (.single (fourDigits_hexByte capitals (by omega)))
        · rename_i hlow
          exact inside_encodeChar (Nat.le_of_not_lt hlow) hquote hslash

/-- **Reading undoes writing.** -/
theorem literal_write (text : Text) : Literal (write capitals text) text := by
  refine .mk ?_
  induction text with
  | nil => exact .nil
  | cons c text ih =>
      rw [List.flatMap_cons, Utf8.encode_cons]
      exact (inside_writeChar capitals c).append ih

/-- Digits and signs are written as they are. -/
theorem writeChar_of_digit_or_sign {c : Char} (h : c.isDigit ∨ c = '+' ∨ c = '-') :
    writeChar capitals c = Utf8.encodeChar c := by
  rcases h with h | rfl | rfl
  · have hlow : 48 ≤ c.toNat := by
      simp only [Char.isDigit, Bool.and_eq_true, decide_eq_true_eq] at h
      exact h.1
    unfold writeChar
    rw [if_neg, if_neg, if_neg, if_neg (by omega)]
    all_goals rintro rfl; simp at h
  · rfl
  · rfl

end StringLiteral

/-- A code has nothing in it that needs an escape. -/
theorem write_toText (code : Code) :
    StringLiteral.write capitals code.toText = quote :: Utf8.encode code.toText ++ [quote] := by
  have hplain : code.toText.flatMap (StringLiteral.writeChar capitals) =
      code.toText.flatMap Utf8.encodeChar := by
    refine List.flatMap_congr fun c hc => ?_
    have hchar := (Code.numeral_toText code).isDigit_or_sign c hc
    exact StringLiteral.writeChar_of_digit_or_sign capitals hchar
  unfold StringLiteral.write
  rw [hplain]
  rfl

theorem blanks_nil : Blanks [] := fun _ hb => absurd hb List.not_mem_nil

/-- A code between quotes, a colon, and a string behind it without blanks are a member. -/
theorem member_of_literal {value : Bytes} {text : Text} (code : Code) (h : Literal value text) :
    Member ((quote :: Utf8.encode code.toText ++ [quote]) ++ colon :: value) (code, text) := by
  have hkey := StringLiteral.literal_write false code.toText
  rw [write_toText] at hkey
  have hmember := Member.mk hkey (Code.numeral_toText code) blanks_nil blanks_nil h
  rwa [List.append_nil, List.append_assoc] at hmember

section Parts

variable {part : Code × Text → Bytes}

theorem members_intercalate (entry : Code × Text) (entries : List (Code × Text))
    (h : ∀ e ∈ entry :: entries, Member (part e) e) :
    Members ([comma].intercalate ((entry :: entries).map part)) (entry :: entries) := by
  -- a comma stands in front of all members but the first one
  induction entries generalizing entry with
  | nil =>
      rw [List.map_singleton, List.intercalate_singleton]
      exact .one (h entry List.mem_cons_self)
  | cons next entries ih =>
      have hrest := ih next fun e he => h e (List.mem_cons_of_mem _ he)
      have hmembers := Members.more (h entry List.mem_cons_self) blanks_nil blanks_nil hrest
      rw [List.map_cons, List.map_cons, List.intercalate_cons_cons, List.append_assoc]
      rwa [List.append_nil, List.append_assoc, List.map_cons] at hmembers

/-- **Members with commas between them and braces around them are a document.** -/
theorem document_intercalate (entries : List (Code × Text))
    (h : ∀ e ∈ entries, Member (part e) e) :
    Document (openBrace :: [comma].intercalate (entries.map part) ++ [closeBrace]) entries := by
  have hobject : Object (openBrace :: [comma].intercalate (entries.map part) ++ [closeBrace])
      entries := by
    cases entries with
    | nil => exact .empty blanks_nil
    | cons entry entries =>
        have hmembers := Object.members blanks_nil (members_intercalate entry entries h) blanks_nil
        rwa [List.append_nil] at hmembers
  have hdocument := Document.mk blanks_nil hobject blanks_nil
  rwa [List.nil_append, List.append_nil] at hdocument

end Parts

theorem member_writeMember (entry : Code × Text) : Member (writeMember capitals entry) entry :=
  member_of_literal entry.1 (StringLiteral.literal_write capitals entry.2)

/-- **What is written is a document with the members that were written.** -/
theorem document_write (entries : List (Code × Text)) :
    Document (write capitals entries) entries :=
  document_intercalate entries fun entry _ => member_writeMember capitals entry

/-! ## What is written holds no comment -/

open Comment (slash star closing)

/-- A slash does not come first, and right in front of each one is a byte of some kind. -/
structure SlashesBehind (kind : UInt8 → Prop) (bs : Bytes) : Prop where
  head : bs.head? ≠ some slash
  chain : bs.IsChain fun a b => b = slash → kind a

namespace SlashesBehind

variable {kind : UInt8 → Prop}

theorem append {bs bs' : Bytes} (h : SlashesBehind kind bs) (h' : SlashesBehind kind bs') :
    SlashesBehind kind (bs ++ bs') := by
  refine ⟨?_, h.chain.append h'.chain ?_⟩
  · cases bs with
    | nil => exact h'.head
    | cons b bs => exact h.head
  · -- the seam is in front of no slash
    rintro a - b hb rfl
    exact absurd hb h'.head

theorem of_not_mem {bs : Bytes} (h : slash ∉ bs) : SlashesBehind kind bs := by
  refine ⟨fun hhead => h (List.mem_of_head? hhead), ?_⟩
  induction bs with
  | nil => exact .nil
  | cons b bs ih =>
      refine (ih (List.not_mem_of_not_mem_cons h)).cons ?_
      rintro a ha rfl
      exact absurd (List.mem_cons_of_mem _ (List.mem_of_head? ha)) h

theorem cons {b : UInt8} {bs : Bytes} (hb : slash ≠ b) (h : SlashesBehind kind bs) :
    SlashesBehind kind (b :: bs) :=
  (of_not_mem fun hmem => hb (List.mem_singleton.mp hmem)).append h

theorem flatMap {α : Type} {f : α → Bytes} (h : ∀ x, SlashesBehind kind (f x)) (xs : List α) :
    SlashesBehind kind (xs.flatMap f) := by
  induction xs with
  | nil => exact of_not_mem List.not_mem_nil
  | cons x xs ih =>
      rw [List.flatMap_cons]
      exact (h x).append ih

theorem intercalate {mark : Bytes} (hmark : SlashesBehind kind mark) {parts : List Bytes}
    (h : ∀ part ∈ parts, SlashesBehind kind part) :
    SlashesBehind kind (mark.intercalate parts) := by
  induction parts with
  | nil => exact of_not_mem List.not_mem_nil
  | cons part parts ih =>
      have hpart := h part List.mem_cons_self
      have hparts := ih fun part' hp => h part' (List.mem_cons_of_mem _ hp)
      cases parts with
      | nil => rwa [List.intercalate_singleton]
      | cons next parts =>
          rw [List.intercalate_cons_cons]
          exact (hpart.append hmark).append hparts

/-- A comment ends with a slash behind a star. -/
theorem not_closing {bs : Bytes} (h : SlashesBehind kind bs) (hstar : ¬ kind star) :
    ¬ closing <:+: bs := by
  intro hin
  have hpair := List.IsChain.infix h.chain hin
  exact hstar (hpair.rel rfl)

end SlashesBehind

theorem slash_ne_hexByte {n : Nat} (h : n < 16) : slash ≠ StringLiteral.hexByte capitals n := by
  intro heq
  have hdigit := StringLiteral.hexDigit_hexByte capitals h
  rw [← heq] at hdigit
  cases hdigit with
  | decimal _ hb =>
      have hb : 47 = 48 + _ := hb
      omega
  | upper _ hb =>
      have hb : 47 = 65 + _ := hb
      omega
  | lower _ hb =>
      have hb : 47 = 97 + _ := hb
      omega

/-- Every slash has a backslash in front of it. -/
def SlashesEscaped (bs : Bytes) : Prop := SlashesBehind (· = StringLiteral.backslash) bs

theorem slashesEscaped_writeChar (c : Char) :
    SlashesEscaped (StringLiteral.writeChar capitals c) := by
  unfold StringLiteral.writeChar
  -- a quote, a backslash, a slash, a control character, and all others
  split
  · exact .of_not_mem (by decide)
  · split
    · exact .of_not_mem (by decide)
    · split
      · exact ⟨by decide, by decide⟩
      · rename_i hslash
        split
        · refine .of_not_mem ?_
          simp only [List.mem_cons, List.not_mem_nil, or_false, not_or]
          exact ⟨by decide, by decide, by decide, by decide,
            slash_ne_hexByte capitals (by omega), slash_ne_hexByte capitals (by omega)⟩
        · refine .of_not_mem fun hmem => hslash ?_
          exact Char.toNat_inj.mp (Utf8.encodeChar_eq_singleton hmem (by decide)).2

theorem slashesEscaped_text (text : Text) :
    SlashesEscaped (StringLiteral.write capitals text) := by
  refine .cons (by decide) (.append ?_ (.of_not_mem (by decide)))
  exact .flatMap (slashesEscaped_writeChar capitals) text

theorem slashesEscaped_member (entry : Code × Text) :
    SlashesEscaped (writeMember capitals entry) := by
  unfold writeMember
  rw [← write_toText capitals]
  exact (slashesEscaped_text capitals _).append
    (.cons (by decide) (slashesEscaped_text capitals _))

theorem slashesEscaped_write (entries : List (Code × Text)) :
    SlashesEscaped (write capitals entries) := by
  refine .cons (by decide) (.append ?_ (.of_not_mem (by decide)))
  refine .intercalate (.of_not_mem (by decide)) fun part hpart => ?_
  obtain ⟨entry, -, rfl⟩ := List.mem_map.mp hpart
  exact slashesEscaped_member capitals entry

/-- **The comment pass leaves everything that is written as it is.** -/
theorem strip_write (entries : List (Code × Text)) :
    Comment.strip (write capitals entries) = write capitals entries :=
  Comment.strip_of_not_closing ((slashesEscaped_write capitals entries).not_closing (by decide))

end Codebook.Json

namespace Codebook.Catalog

/-- What is written is read as the catalog of its members, with or without equal codes. -/
theorem parse_write (capitals : Bool) (entries : List (Code × Text)) :
    parse (Json.write capitals entries) = .ok (ofMembers entries) := by
  refine parse_of_document ?_
  rw [Json.strip_write]
  exact Json.document_write capitals entries

/--
**A catalog that is written is read again.**

Its entries may stand in any order, and their descriptions may hold anything.
-/
theorem parse_write_distinct (capitals : Bool) {entries : List (Code × Text)}
    (hdistinct : (entries.map Prod.fst).Nodup) :
    ∃ catalog, parse (Json.write capitals entries) = .ok catalog ∧
      catalog.codes.Perm (entries.map Prod.fst) ∧
      catalog.codes.Pairwise (fun a b => a.value < b.value) ∧
      (∀ entry ∈ entries, catalog.get entry.1 = entry.2) ∧
      Comment.strip (Json.write capitals entries) = Json.write capitals entries := by
  refine ⟨ofMembers entries, parse_write capitals entries, ?_, ascending_codes _, ?_,
    Json.strip_write capitals entries⟩
  · have hperm := codes_ofMembers_perm entries
    rwa [hdistinct.dedup] at hperm
  · intro entry hentry
    exact get_ofMembers_of_mem hdistinct hentry

/-- The largest and the smallest code, with a description full of comment marks and one of a quote,
a backslash, two characters of control and two beyond ASCII. -/
theorem parse_write_distinct_extremes :
    ∃ catalog, parse (Json.write true
        [(⟨0x7FFFFFFFFFFFFFFF, by decide, by decide⟩, "/*/*/**/".toList),
          (⟨-0x8000000000000000, by decide, by decide⟩, "\"\\\x1bé\n漢".toList)]) = .ok catalog ∧
      catalog.get ⟨0x7FFFFFFFFFFFFFFF, by decide, by decide⟩ = "/*/*/**/".toList ∧
      catalog.get ⟨-0x8000000000000000, by decide, by decide⟩ = "\"\\\x1bé\n漢".toList := by
  have hread := @parse_write_distinct true
    [(⟨0x7FFFFFFFFFFFFFFF, by decide, by decide⟩, "/*/*/**/".toList),
      (⟨-0x8000000000000000, by decide, by decide⟩, "\"\\\x1bé\n漢".toList)] (by decide)
  obtain ⟨catalog, hread, -, -, hget, -⟩ := hread
  exact ⟨catalog, hread, hget _ List.mem_cons_self,
    hget _ (List.mem_cons_of_mem _ List.mem_cons_self)⟩

end Codebook.Catalog
