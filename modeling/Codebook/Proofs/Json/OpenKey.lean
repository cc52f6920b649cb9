import Codebook.Proofs.Catalog.Reading
import Codebook.Proofs.Code.Refusal
import Codebook.Proofs.Json.FirstFault
import Codebook.Proofs.Json.Plain

/-!
# A document but for one of its keys

Everything around one key is taken to be as the grammar wants it: the members in front, the colon
and the string behind the key, the members behind those. Whether the whole is a catalog is then up
to the key alone. A key that writes a code makes it one, and the member is entered under the number
that the key writes, to the last digit; for any other key the error says why it is none.
-/

namespace Codebook

namespace Json

/-! ## The bytes around a key -/

/-- What stands behind a member, to the end of the document, and the members there. -/
inductive Behind : Bytes → List (Code × Text) → Prop where
  | close {blanks blanks' : Bytes} :
      Blanks blanks → Blanks blanks' → Behind (blanks ++ closeBrace :: blanks') []
  | more {blanks blanks' member rest : Bytes} {entry : Code × Text}
      {entries : List (Code × Text)} :
      Blanks blanks → Blanks blanks' → Member member entry → Behind rest entries →
      Behind (blanks ++ comma :: blanks' ++ (member ++ rest)) (entry :: entries)

/-- What stands in front of a key and behind it, the members before its own, the description that
follows the key, and the members after. -/
inductive OpenKey : Bytes → Bytes → List (Code × Text) → Text → List (Code × Text) → Prop where
  | mk {blanks blanks' led gap gap' value rest : Bytes} {before after : List (Code × Text)}
      {text : Text} :
      Blanks blanks → Blanks blanks' → Led led before →
      Blanks gap → Blanks gap' → Literal value text → Behind rest after →
      OpenKey (blanks ++ openBrace :: blanks' ++ led) (gap ++ colon :: gap' ++ value ++ rest)
        before text after

variable {front behind key : Bytes} {before after : List (Code × Text)} {name text : Text}

theorem OpenKey.toFront (h : OpenKey front behind before text after) : Front front := by
  cases h with
  | mk hblanks hblanks' hled _ _ _ _ => exact .mk hblanks hblanks' hled

theorem OpenKey.described (h : OpenKey front behind before text after) :
    ∃ rest, Described behind rest := by
  cases h with
  | mk _ _ _ hgap hgap' hvalue _ => exact ⟨_, _, _, _, _, hgap, hgap', hvalue, rfl⟩

/-! ## A key that writes a code -/

theorem Led.members {led members : Bytes} {entries : List (Code × Text)} (h : Led led before)
    (hmembers : Members members entries) : Members (led ++ members) (before ++ entries) := by
  induction h with
  | nil => exact hmembers
  | cons hmember hblanks hblanks' _ ih =>
      rw [List.append_assoc]
      exact .more hmember hblanks hblanks' ih

/-- A member and those behind it, up to the brace. -/
theorem Behind.exists_members {member rest : Bytes} {entry : Code × Text} (h : Behind rest after)
    (hmember : Member member entry) :
    ∃ members blanks blanks', Members members (entry :: after) ∧ Blanks blanks ∧ Blanks blanks' ∧
      member ++ rest = members ++ (blanks ++ closeBrace :: blanks') := by
  induction h generalizing member entry with
  | close hblanks hblanks' => exact ⟨_, _, _, .one hmember, hblanks, hblanks', rfl⟩
  | more hgap hgap' hnext _ ih =>
      obtain ⟨members, blanks, blanks', hmembers, hblanks, hblanks', heq⟩ := ih hnext
      refine ⟨_, blanks, blanks', .more hmember hgap hgap' hmembers, hblanks, hblanks', ?_⟩
      rw [heq]
      simp

/-- **With a key that writes a code in its place the bytes are a document.** -/
theorem OpenKey.document {code : Code} (h : OpenKey front behind before text after)
    (hkey : Literal key name) (hname : Code.Numeral name code.value) :
    Document (front ++ key ++ behind) (before ++ (code, text) :: after) := by
  cases h with
  | @mk blanks blanks' led gap gap' value rest _ _ _ hblanks hblanks' hled hgap hgap' hvalue
      hrest =>
      obtain ⟨members, close, close', hmembers, hclose, hclose', heq⟩ :=
        hrest.exists_members (.mk hkey hname hgap hgap' hvalue)
      have hbytes : blanks ++ openBrace :: blanks' ++ led ++ key ++
            (gap ++ colon :: gap' ++ value ++ rest) =
          blanks ++ (openBrace :: blanks' ++ (led ++ members) ++ close ++ [closeBrace]) ++
            close' := by
        -- only where the brackets stand changes
        calc
          _ = blanks ++ openBrace :: blanks' ++ led ++
              (key ++ gap ++ colon :: gap' ++ value ++ rest) := by simp
          _ = blanks ++ openBrace :: blanks' ++ led ++
              (members ++ (close ++ closeBrace :: close')) := by rw [heq]
          _ = _ := by simp
      rw [hbytes]
      exact .mk hblanks (.members hblanks' (hled.members hmembers) hclose) hclose'

/-! ## A key that writes none -/

/-- **With any other key the document has the fault of that key.** -/
theorem OpenKey.document_fault (h : OpenKey front behind before text after)
    (hkey : Literal key name) (hname : ∀ code : Code, ¬ Code.Numeral name code.value) :
    ∃ fault reason, Json.document (front ++ key ++ behind) = .error fault ∧
      Code.Refused name reason ∧ fault.cause = .badKey name reason := by
  obtain ⟨more, rfl⟩ := hkey.exists_quote
  have hbytes : StringLiteral.quote :: (more ++ behind) =
      StringLiteral.quote :: more ++ behind := rfl
  obtain ⟨fault, hmember, hbad, -⟩ := member_of_badKey hkey hbytes hname
  obtain ⟨reason, hreason, hcause⟩ := hbad h.described
  refine ⟨fault, reason, ?_, Code.parse_eq_error_iff.1 hreason, hcause⟩
  rw [List.append_assoc]
  exact document_of_fault h.toFront hmember

end Json

namespace Catalog

open Json.StringLiteral (Plain quote)

/--
**The key alone decides, and it is taken for its number exactly.**

A key is taken if it writes a number that a signed 64-bit word holds, with as many zeros in front
as it likes, and the description is entered under that number. Any other key is quoted in the
error, with the first thing that is wrong with it.
-/
theorem parse_openKey {raw front key behind : Bytes} {before after : List (Code × Text)}
    {name text : Text} (hopen : Json.OpenKey front behind before text after)
    (hkey : Json.Literal key name) (hraw : Comment.strip raw = front ++ key ++ behind) :
    (∀ value, Code.Numeral name value → -0x8000000000000000 ≤ value → value ≤ 0x7FFFFFFFFFFFFFFF →
      ∃ code catalog, code.value = value ∧ parse raw = .ok catalog ∧
        catalog = ofMembers (before ++ (code, text) :: after) ∧ code ∈ catalog.codes ∧
        (code ∉ after.map Prod.fst → catalog.get code = text)) ∧
    ((∀ value, Code.Numeral name value →
        ¬ (-0x8000000000000000 ≤ value ∧ value ≤ 0x7FFFFFFFFFFFFFFF)) →
      ∃ fault shown words line column, parse raw = .error fault ∧
        name.Quotes shown ∧ Code.Complaint name words ∧
        (Error.parse fault).message =
          "failed to parse error catalog: ".toList ++
            ("error code ".toList ++ shown ++ " is not an integer: ".toList ++ words ++
              " at line ".toList ++ Text.ofNat line ++
              " column ".toList ++ Text.ofNat column)) := by
  constructor
  · -- a number within the limits is a code, and the document is a whole one
    intro value hvalue hlower hupper
    let code : Code := ⟨value, hlower, by omega⟩
    have hdocument : Json.Document (Comment.strip raw) (before ++ (code, text) :: after) :=
      hraw ▸ hopen.document hkey hvalue
    refine ⟨code, _, rfl, parse_of_document hdocument, rfl, ?_, fun hlast => ?_⟩
    · exact mem_codes_ofMembers.2 (List.mem_map.2 ⟨(code, text), by simp, rfl⟩)
    · rw [get_ofMembers, lastDescription_append_cons hlast]
  · -- otherwise no code has the key for a numeral
    intro hname
    have hnone (code : Code) : ¬ Code.Numeral name code.value := fun hcode =>
      hname code.value hcode ⟨code.lower, Int.le_sub_one_of_lt code.upper⟩
    obtain ⟨fault, reason, hdocument, hreason, hcause⟩ := hopen.document_fault hkey hnone
    obtain ⟨line, column, hwords⟩ := fault.exists_place (Comment.strip raw)
    rw [hcause] at hwords
    exact ⟨_, _, _, line, column, parse_of_fault (hraw ▸ hdocument), name.quotes_quoted,
      hreason.complaint, congrArg ("failed to parse error catalog: ".toList ++ ·) hwords⟩

/-- The smallest code with a zero in front of it, and the number above the largest one with a
letter behind it. -/
theorem parse_openKey_limits :
    (∃ code catalog, code.value = -0x8000000000000000 ∧
      parse (Utf8.encode
        "\x7b\"1\":\"a\",/**/\"-09223372036854775808\":\"b\"\x7d".toList) = .ok catalog ∧
      catalog.get code = ['b']) ∧
    ∃ fault line column,
      parse (Utf8.encode
        "\x7b\"1\":\"a\",/**/\"9223372036854775808x\":\"b\"\x7d".toList) = .error fault ∧
      (Error.parse fault).message =
        "failed to parse error catalog: ".toList ++
          ("error code ".toList ++ "\"9223372036854775808x\"".toList ++
            " is not an integer: ".toList ++ "number too large to fit in target type".toList ++
            " at line ".toList ++ Text.ofNat line ++ " column ".toList ++ Text.ofNat column) := by
  have hopen : Json.OpenKey (Utf8.encode "\x7b\"1\":\"a\",".toList)
      (Utf8.encode ":\"b\"\x7d".toList) [(⟨1, by decide, by decide⟩, ['a'])] ['b'] [] := by
    have ha : Plain ['a'] := by decide
    have hb : Plain ['b'] := by decide
    have hled := Json.Led.cons (Json.member_of_literal ⟨1, by decide, by decide⟩ ha.literal)
      Json.blanks_nil Json.blanks_nil .nil
    have hbehind := Json.Behind.close Json.blanks_nil Json.blanks_nil
    have hopen := Json.OpenKey.mk Json.blanks_nil Json.blanks_nil hled Json.blanks_nil
      Json.blanks_nil hb.literal hbehind
    exact hopen
  constructor
  · have hkey : Plain "-09223372036854775808".toList := by decide +kernel
    have hname : Code.Numeral "-09223372036854775808".toList (-0x8000000000000000) :=
      Code.parse_eq_ok_iff.1 (rfl : Code.parse _ = .ok ⟨-0x8000000000000000, by decide, by decide⟩)
    have hraw : Comment.strip (Utf8.encode
        "\x7b\"1\":\"a\",/**/\"-09223372036854775808\":\"b\"\x7d".toList) =
        Utf8.encode "\x7b\"1\":\"a\",".toList ++
          (quote :: Utf8.encode "-09223372036854775808".toList ++ [quote]) ++
          Utf8.encode ":\"b\"\x7d".toList := by
      decide +kernel
    obtain ⟨code, catalog, hcode, hparse, -, -, hget⟩ :=
      (parse_openKey hopen hkey.literal hraw).1 _ hname (by decide) (by decide)
    exact ⟨code, catalog, hcode, hparse, hget List.not_mem_nil⟩
  · have hkey : Plain "9223372036854775808x".toList := by decide +kernel
    -- the number is too large before the letter is reached
    have hname : ∀ value, Code.Numeral "9223372036854775808x".toList value →
        ¬ (-0x8000000000000000 ≤ value ∧ value ≤ 0x7FFFFFFFFFFFFFFF) := by
      intro value hvalue
      exact absurd (hvalue.isDigit_or_sign 'x' (by decide +kernel)) (by decide)
    have hraw : Comment.strip (Utf8.encode
        "\x7b\"1\":\"a\",/**/\"9223372036854775808x\":\"b\"\x7d".toList) =
        Utf8.encode "\x7b\"1\":\"a\",".toList ++
          (quote :: Utf8.encode "9223372036854775808x".toList ++ [quote]) ++
          Utf8.encode ":\"b\"\x7d".toList := by
      decide +kernel
    obtain ⟨fault, shown, words, line, column, hparse, hshown, hcomplaint, hmessage⟩ :=
      (parse_openKey hopen hkey.literal hraw).2 hname
    obtain rfl : "\"9223372036854775808x\"".toList = shown :=
      (by decide +kernel : _ = Text.quoted "9223372036854775808x".toList).trans
        (Text.quotes_iff.1 hshown).symm
    obtain rfl := hcomplaint.eq
      (rfl : Code.parse "9223372036854775808x".toList = .error .tooLarge)
    exact ⟨fault, line, column, hparse, hmessage⟩

end Catalog

end Codebook
