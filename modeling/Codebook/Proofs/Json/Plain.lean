import Codebook.Proofs.Json.Writing

/-!
# Catalogs without escapes

A text without quotes, backslashes and characters of control stands in a string as it is. So members
whose descriptions are such texts are a document once quotes, colons, commas and braces are put
around them. If no description holds `*/`, the document holds none either, since what is put around
them has no slash in it, and the comment pass changes nothing.
-/

namespace Codebook

namespace Json

open StringLiteral (quote)

namespace StringLiteral

/-- Nothing in the text needs an escape. -/
def Plain (text : Text) : Prop := ∀ c ∈ text, c ≠ '"' ∧ c ≠ '\\' ∧ 32 ≤ c.toNat

instance (text : Text) : Decidable (Plain text) :=
  List.decidableBAll (fun c => c ≠ '"' ∧ c ≠ '\\' ∧ 32 ≤ c.toNat) text

theorem plain_nil : Plain [] := fun _ hc => absurd hc List.not_mem_nil

theorem Plain.literal {text : Text} (h : Plain text) :
    Literal (quote :: Utf8.encode text ++ [quote]) text := by
  refine .mk ?_
  induction text with
  | nil => exact .nil
  | cons c text ih =>
    obtain ⟨hquote, hslash, hlow⟩ := h c List.mem_cons_self
    rw [Utf8.encode_cons]
    exact (inside_encodeChar hlow hquote hslash).append (ih fun d hd => h d (.tail _ hd))

end StringLiteral

open StringLiteral (Plain)

/-- A code and its description, each between quotes and as it is. -/
def plainMember (entry : Code × Text) : Text :=
  '"' :: entry.1.toText ++ "\":\"".toList ++ entry.2 ++ ['"']

/-- Members between braces, with a comma between any two of them. -/
def plain (entries : List (Code × Text)) : Text :=
  '\x7b' :: [','].intercalate (entries.map plainMember) ++ ['\x7d']

/-- A comma stands in front of each member but the first one. -/
theorem plain_cons (entry : Code × Text) (entries : List (Code × Text)) :
    plain (entry :: entries) =
      '\x7b' :: (plainMember entry ++ entries.flatMap (',' :: plainMember ·)) ++ ['\x7d'] := by
  have hinner : [','].intercalate ((entry :: entries).map plainMember) =
      plainMember entry ++ entries.flatMap (',' :: plainMember ·) := by
    induction entries generalizing entry with
    | nil => rw [List.map_singleton, List.intercalate_singleton, List.flatMap_nil, List.append_nil]
    | cons next entries ih =>
      rw [List.map_cons, List.map_cons, List.intercalate_cons_cons, ← List.map_cons, ih next,
        List.flatMap_cons, List.append_assoc]
      rfl
  rw [plain, hinner]

theorem encode_plainMember (entry : Code × Text) :
    Utf8.encode (plainMember entry) =
      (quote :: Utf8.encode entry.1.toText ++ [quote]) ++
        colon :: (quote :: Utf8.encode entry.2 ++ [quote]) := by
  have hmiddle : Utf8.encode "\":\"".toList = [quote, colon, quote] := by decide
  have hquote : Utf8.encode ['"'] = [quote] := by decide
  rw [plainMember, Utf8.encode_append, Utf8.encode_append, Utf8.encode_append, hmiddle, hquote,
    ← List.singleton_append, Utf8.encode_append, hquote]
  simp only [List.append_assoc, List.cons_append, List.nil_append]

theorem encode_plain (entries : List (Code × Text)) :
    Utf8.encode (plain entries) =
      openBrace :: [comma].intercalate (entries.map fun entry => Utf8.encode (plainMember entry)) ++
        [closeBrace] := by
  have hopen : Utf8.encode ['\x7b'] = [openBrace] := by decide
  have hclose : Utf8.encode ['\x7d'] = [closeBrace] := by decide
  have hcomma : Utf8.encode [','] = [comma] := by decide
  rw [plain, Utf8.encode_append, ← List.singleton_append, Utf8.encode_append, hopen, hclose,
    Utf8.encode_intercalate, hcomma, List.map_map]
  rfl

/-- **Members that need no escape are a document as they are.** -/
theorem document_plain {entries : List (Code × Text)} (h : ∀ entry ∈ entries, Plain entry.2) :
    Document (Utf8.encode (plain entries)) entries := by
  rw [encode_plain]
  refine document_intercalate entries fun entry hentry => ?_
  rw [encode_plainMember]
  exact member_of_literal entry.1 (h entry hentry).literal

/-! ## Comment marks -/

open Comment (slash star closing)

/-- Without `*/`, no slash has a star in front of it. -/
theorem isChain_of_not_closing {bs : Bytes} (h : ¬ closing <:+: bs) :
    bs.IsChain fun a b => b = slash → a ≠ star := by
  induction bs with
  | nil => exact .nil
  | cons b bs ih =>
    refine (ih fun hin => h (hin.trans (List.suffix_cons b bs).isInfix)).cons ?_
    rintro a ha rfl rfl
    obtain ⟨rest, rfl⟩ := List.head?_eq_some_iff.1 ha
    exact h ⟨[], rest, rfl⟩

/-- A quote in front of a text and one behind it keep its first and its last character from
making up `*/` with what is around. -/
theorem slashesBehind_quoted {text : Text} (h : ¬ "*/".toList <:+: text) :
    SlashesBehind (· ≠ star) (quote :: Utf8.encode text ++ [quote]) := by
  have hbytes : ¬ closing <:+: Utf8.encode text := by
    rw [← Comment.encode_closing, Utf8.encode_infix_iff (by decide)]
    exact h
  have hchain := isChain_of_not_closing hbytes
  refine ⟨?_, (hchain.cons ?_).append (.singleton quote) ?_⟩
  · exact fun hhead => absurd (Option.some.inj hhead) (by decide)
  · exact fun _ _ _ => by decide
  · rintro a - b hb rfl
    exact absurd (Option.some.inj hb) (by decide)

theorem slashesBehind_plainMember {entry : Code × Text} (h : ¬ "*/".toList <:+: entry.2) :
    SlashesBehind (· ≠ star) (Utf8.encode (plainMember entry)) := by
  have hcode : ¬ "*/".toList <:+: entry.1.toText := fun hin => by
    have hmem : '/' ∈ entry.1.toText := hin.subset (by decide)
    simpa using (Code.numeral_toText entry.1).isDigit_or_sign '/' hmem
  rw [encode_plainMember]
  exact (slashesBehind_quoted hcode).append (.cons (by decide) (slashesBehind_quoted h))

/-- The comment pass leaves such a document as it is. -/
theorem strip_plain {entries : List (Code × Text)}
    (h : ∀ entry ∈ entries, ¬ "*/".toList <:+: entry.2) :
    Comment.strip (Utf8.encode (plain entries)) = Utf8.encode (plain entries) := by
  have hslashes : SlashesBehind (· ≠ star) (Utf8.encode (plain entries)) := by
    rw [encode_plain]
    refine .cons (by decide) (.append ?_ (.of_not_mem (by decide)))
    refine .intercalate (.of_not_mem (by decide)) fun part hpart => ?_
    obtain ⟨entry, hentry, rfl⟩ := List.mem_map.1 hpart
    exact slashesBehind_plainMember (h entry hentry)
  exact Comment.strip_of_not_closing (hslashes.not_closing (by simp))

end Json

/-- **Members that need no escape and hold no `*/` are read as they were put down.** -/
theorem Catalog.parse_plain {entries : List (Code × Text)}
    (hplain : ∀ entry ∈ entries, Json.StringLiteral.Plain entry.2)
    (hclosing : ∀ entry ∈ entries, ¬ "*/".toList <:+: entry.2) :
    parse (Utf8.encode (Json.plain entries)) = .ok (ofMembers entries) := by
  refine parse_of_document ?_
  rw [Json.strip_plain hclosing]
  exact Json.document_plain hplain

/-- Two braces are the catalog of no codes. -/
theorem Catalog.parse_braces : parse [0x7B, 0x7D] = .ok (ofMembers []) :=
  parse_plain (List.forall_mem_nil _) (List.forall_mem_nil _)

end Codebook
