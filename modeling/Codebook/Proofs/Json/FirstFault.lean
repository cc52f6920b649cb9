import Codebook.Error
import Codebook.Proofs.Code.Refusal
import Codebook.Proofs.Json.Blame
import Codebook.Proofs.Text.Quoting

/-!
# The first fault

Members are read from the left, and reading ends at the first one that is wrong. Inside it the key
comes first, then the colon, then the value, and only behind the value is the key taken for a code.
So a key that is no code is reported if its value could be read, and is not mentioned if it could
not, and in neither case does it matter what stands behind.
-/

namespace Codebook

namespace Json

open StringLiteral (quote)

/-! ## What stands in front of a member -/

/-- Members with a comma behind each of them. -/
inductive Led : Bytes → List (Code × Text) → Prop where
  | nil : Led [] []
  | cons {member blanks blanks' led : Bytes} {entry : Code × Text}
      {entries : List (Code × Text)} :
      Member member entry → Blanks blanks → Blanks blanks' → Led led entries →
      Led (member ++ blanks ++ comma :: blanks' ++ led) (entry :: entries)

/-- A document up to one of its members: the brace, and the members in front of that one. -/
inductive Front : Bytes → Prop where
  | mk {blanks blanks' led : Bytes} {entries : List (Code × Text)} :
      Blanks blanks → Blanks blanks' → Led led entries →
      Front (blanks ++ openBrace :: blanks' ++ led)

/-- A quote comes next, be it that of a member in front or that of the one behind them. -/
theorem Led.exists_quote {led : Bytes} {entries : List (Code × Text)} (h : Led led entries)
    (next : Bytes) : ∃ more, led ++ quote :: next = quote :: more := by
  cases h with
  | nil => exact ⟨next, rfl⟩
  | cons hmember _ _ _ =>
      obtain ⟨more, rfl⟩ := hmember.exists_quote
      exact ⟨_, rfl⟩

/-- A member and its comma are read, and then reading goes on behind them. -/
theorem members_of_comma {bs behind next : Bytes} {entry : Code × Text} (catalog : Catalog)
    (hmember : member bs = .ok (entry, behind)) {blanks blanks' : Bytes} (hblanks : Blanks blanks)
    (hblanks' : Blanks blanks') (hbehind : behind = blanks ++ comma :: (blanks' ++ quote :: next)) :
    members catalog bs = members (catalog.insert entry.1 entry.2) next := by
  have hcomma : skipBlanks behind = comma :: (blanks' ++ quote :: next) :=
    hbehind ▸ skipBlanks_append hblanks rfl _
  have hquote : afterKeyQuote (blanks' ++ quote :: next) = .ok next :=
    afterKeyQuote_eq_ok_iff.2 ⟨blanks', hblanks', rfl⟩
  rw [members_of_member catalog hmember hcomma, if_neg (by decide), if_pos rfl, hquote,
    Except.ok_bind]

/-- **The reader comes through the members in front.** -/
theorem members_of_led {led bs next : Bytes} {entries : List (Code × Text)} {catalog : Catalog}
    (h : Led led entries) (heq : quote :: bs = led ++ quote :: next) :
    members catalog bs = members (catalog.insertAll entries) next := by
  induction h generalizing catalog bs with
  | nil =>
      obtain rfl : bs = next := (List.cons.inj heq).2
      rfl
  | @cons first blanks blanks' led entry entries hfirst hblanks hblanks' hled ih =>
      obtain ⟨more, hmore⟩ := hled.exists_quote next
      have hread : member bs = .ok (entry, blanks ++ comma :: (blanks' ++ quote :: more)) :=
        member_eq_ok_iff.2 ⟨first, hfirst, by rw [heq, ← hmore]; simp⟩
      rw [members_of_comma catalog hread hblanks hblanks' rfl, ih hmore.symm]
      rfl

theorem members_of_fault {bs : Bytes} {fault : Fault} (catalog : Catalog)
    (h : member bs = .error fault) : members catalog bs = .error fault := by
  rw [members]
  split
  · next fault' hfault =>
    obtain rfl : fault = fault' := Except.error.inj (h.symm.trans hfault)
    rfl
  · next hok => cases h.symm.trans hok

/-- **A document has the fault of the first member that has one**, whatever stands behind. -/
theorem document_of_fault {front next : Bytes} {fault : Fault} (hfront : Front front)
    (h : member next = .error fault) : document (front ++ quote :: next) = .error fault := by
  cases hfront with
  | @mk blanks blanks' led entries hblanks hblanks' hled =>
      obtain ⟨more, hmore⟩ := hled.exists_quote next
      -- the members in front are read without a fault
      have hmembers : members .empty more = .error fault :=
        (members_of_led hled hmore.symm).trans (members_of_fault _ h)
      have hobject : object (blanks' ++ quote :: more) = .error fault := by
        simp only [object, skipBlanks_append hblanks' (rfl : isBlank quote = false)]
        exact hmembers
      have heq : blanks ++ openBrace :: blanks' ++ led ++ quote :: next =
          blanks ++ openBrace :: (blanks' ++ quote :: more) := by
        rw [← hmore]
        simp
      rw [heq]
      simp only [document, skipBlanks_append hblanks (rfl : isBlank openBrace = false)]
      rw [if_pos (by rfl : openBrace = 123), hobject, Except.error_bind]

/-! ## The member -/

/-- A colon and a string, in front of the rest. -/
def Described (bs rest : Bytes) : Prop :=
  ∃ blanks blanks' value text, Blanks blanks ∧ Blanks blanks' ∧ Literal value text ∧
    bs = blanks ++ colon :: blanks' ++ value ++ rest

/-- What is wrong behind a key that is not described: its colon or its value. -/
inductive DescriptionFault (bs : Bytes) (cause : Cause) : Prop where
  | colon : ColonFault bs cause → DescriptionFault bs cause
  | value {blanks value : Bytes} :
      Blanks blanks → bs = blanks ++ Json.colon :: value → ValueFault value cause →
      DescriptionFault bs cause

/-- What is read behind a key. -/
def described (bs : Bytes) : Except Fault (Text × Bytes) := afterColon bs >>= description

theorem described_iff {bs rest : Bytes} :
    Described bs rest ↔ ∃ text, described bs = .ok (text, rest) := by
  simp only [Described, described, Except.bind_eq_ok_iff, afterColon_eq_ok_iff,
    description_eq_ok_iff]
  constructor
  · intro h
    obtain ⟨blanks, blanks', value, text, hblanks, hblanks', hvalue, rfl⟩ := h
    exact ⟨text, blanks' ++ (value ++ rest), ⟨blanks, hblanks, by simp⟩, blanks', value, hblanks',
      hvalue, rfl⟩
  · intro h
    obtain ⟨text, _, ⟨blanks, hblanks, rfl⟩, blanks', value, hblanks', hvalue, rfl⟩ := h
    exact ⟨blanks, blanks', value, text, hblanks, hblanks', hvalue, by simp⟩

theorem fails_described (bs : Bytes) :
    (described bs).Fails fun fault => DescriptionFault bs fault.cause := by
  unfold described
  cases hcolon : afterColon bs with
  | error fault => exact Except.fails_error.2 (.colon (fails_afterColon bs fault hcolon))
  | ok value =>
      obtain ⟨blanks, hblanks, hbs⟩ := afterColon_eq_ok_iff.1 hcolon
      exact fun fault hfault => .value hblanks hbs (fails_description value fault hfault)

theorem DescriptionFault.ne_badKey {bs : Bytes} {cause : Cause} (h : DescriptionFault bs cause)
    (key : Text) (reason : CodeError) : cause ≠ .badKey key reason := by
  rintro rfl
  obtain hcolon | ⟨-, -, hvalue⟩ := h
  · exact nomatch hcolon
  · cases hvalue with
    | string _ hstring => exact nomatch hstring
    | other _ _ _ hother => exact nomatch hother

/-- A member is its key and what is read behind that, and then the key is taken for a code. -/
theorem member_of_key {bs behind : Bytes} {name : Text}
    (hkey : StringLiteral.read bs = .ok (name, behind)) :
    member bs = described behind >>= fun (text, rest) =>
      match Code.parse name with
      | .ok code => .ok ((code, text), rest)
      | .error reason => .error (.before (.badKey name reason) (afterLastMember rest)) := by
  unfold member described
  rw [hkey, Except.ok_bind]
  dsimp only
  cases afterColon behind with
  | error fault => rfl
  | ok value => rfl

/-- A key that is no code is what is wrong with its member if it is described, and else it is not
even looked at. -/
theorem member_of_badKey {key behind bs : Bytes} {name : Text} (hkey : Literal key name)
    (hbs : quote :: bs = key ++ behind) (hname : ∀ code : Code, ¬ Code.Numeral name code.value) :
    ∃ fault, member bs = .error fault ∧
      ((∃ rest, Described behind rest) →
        ∃ reason, Code.parse name = .error reason ∧ fault.cause = .badKey name reason) ∧
      ((¬ ∃ rest, Described behind rest) → DescriptionFault behind fault.cause) := by
  have hread : StringLiteral.read bs = .ok (name, behind) :=
    StringLiteral.read_eq_ok_iff.2 ⟨key, hkey, hbs⟩
  obtain ⟨reason, hreason⟩ := Code.exists_error_of_not_numeral hname
  rw [member_of_key hread, hreason]
  -- the description is read before the key is looked at, so its fault wins
  cases hdescribed : described behind with
  | error fault =>
      refine ⟨fault, rfl, fun h => ?_, fun _ => fails_described behind fault hdescribed⟩
      obtain ⟨rest, h⟩ := h
      obtain ⟨text, hok⟩ := described_iff.1 h
      rw [hdescribed] at hok
      exact nomatch hok
  | ok result =>
      obtain ⟨text, rest⟩ := result
      exact ⟨.before (.badKey name reason) (afterLastMember rest), rfl,
        fun _ => ⟨reason, rfl, rfl⟩,
        fun h => absurd ⟨rest, described_iff.2 ⟨text, hdescribed⟩⟩ h⟩

/-! ## In words -/

/-- A fault is told with its place behind it. -/
theorem Fault.exists_place (fault : Fault) (document : Bytes) :
    ∃ line column, fault.message document =
      fault.cause.message ++ " at line ".toList ++ Text.ofNat line ++ " column ".toList ++
        Text.ofNat column :=
  ⟨_, _, rfl⟩

/-- Only a key that is no code is told about as an error code. -/
theorem Cause.exists_badKey {cause : Cause} {words : Text}
    (h : "error code ".toList <+: cause.message ++ words) :
    ∃ key reason, cause = .badKey key reason := by
  cases cause with
  | badKey key reason => exact ⟨key, reason, rfl⟩
  -- the words of a found value go on behind the same start
  | notObject found | notString found =>
      have htype (expected : Text) :
          "invalid type: ".toList <+:
            "invalid type: ".toList ++ found.message ++ expected ++ words := by
        simp only [List.append_assoc]
        exact List.prefix_append _ _
      exact absurd (List.prefix_or_prefix_of_prefix h (htype _)) (by decide +kernel)
  | _ =>
      have hstart := List.prefix_or_prefix_of_prefix h (List.prefix_append _ words)
      exact absurd hstart (by decide +kernel)

end Json

namespace Catalog

theorem parse_of_fault {raw : Bytes} {fault : Json.Fault}
    (h : Json.document (Comment.strip raw) = .error fault) :
    parse raw = .error ⟨fault, Comment.strip raw⟩ := by
  unfold parse
  dsimp only
  rw [h]

/--
**The first member whose key is no code decides the error, whatever stands behind it.**

If a colon and a string follow the key, the error quotes the key and says why it is no code. If
they do not, the error is about the colon or the string, and not about the key.
-/
theorem parse_first_fault {raw front key behind : Bytes} {name : Text} (hfront : Json.Front front)
    (hkey : Json.Literal key name) (hname : ∀ code : Code, ¬ Code.Numeral name code.value)
    (hraw : Comment.strip raw = front ++ key ++ behind) :
    ∃ fault, parse raw = .error fault ∧
      ((∃ rest, Json.Described behind rest) →
        ∃ shown words line column, name.Quotes shown ∧ Code.Complaint name words ∧
          (Error.parse fault).message =
            "failed to parse error catalog: ".toList ++
              ("error code ".toList ++ shown ++ " is not an integer: ".toList ++ words ++
                " at line ".toList ++ Text.ofNat line ++ " column ".toList ++
                Text.ofNat column)) ∧
      ((¬ ∃ rest, Json.Described behind rest) →
        Json.DescriptionFault behind fault.fault.cause ∧
        (∀ key reason, fault.fault.cause ≠ .badKey key reason) ∧
        ¬ "error code ".toList <+: fault.message) := by
  obtain ⟨more, rfl⟩ := hkey.exists_quote
  have hbs : Json.StringLiteral.quote :: (more ++ behind) =
      Json.StringLiteral.quote :: more ++ behind := rfl
  obtain ⟨fault, hmember, hbad, hother⟩ := Json.member_of_badKey hkey hbs hname
  have hdocument : Json.document (Comment.strip raw) = .error fault := by
    rw [hraw, List.append_assoc]
    exact Json.document_of_fault hfront hmember
  refine ⟨_, parse_of_fault hdocument, fun hdescribed => ?_, fun hdescribed => ?_⟩
  · -- the key is at fault
    obtain ⟨reason, hreason, hcause⟩ := hbad hdescribed
    obtain ⟨line, column, hwords⟩ := fault.exists_place (Comment.strip raw)
    refine ⟨_, _, line, column, name.quotes_quoted, (Code.parse_eq_error_iff.1 hreason).complaint,
      ?_⟩
    rw [hcause] at hwords
    exact congrArg ("failed to parse error catalog: ".toList ++ ·) hwords
  · -- its description is, whose words start otherwise
    have hcause := hother hdescribed
    refine ⟨hcause, hcause.ne_badKey, fun hwords => ?_⟩
    obtain ⟨line, column, hplace⟩ := fault.exists_place (Comment.strip raw)
    have hstart : "error code ".toList <+: fault.message (Comment.strip raw) := hwords
    rw [hplace, List.append_assoc, List.append_assoc, List.append_assoc] at hstart
    obtain ⟨key, reason, hbad⟩ := Json.Cause.exists_badKey hstart
    exact hcause.ne_badKey key reason hbad

/-- A key that is no code behind one that is, once in front of a string and rubbish, and once in
front of a number and nothing. -/
theorem parse_first_fault_described_or_not :
    (∃ fault line column,
      parse (Utf8.encode "\x7b\"1\":\"a\",/**/\"x\" :\"\"]\x7b".toList) = .error fault ∧
      (Error.parse fault).message =
        "failed to parse error catalog: ".toList ++
          ("error code ".toList ++ "\"x\"".toList ++ " is not an integer: ".toList ++
            "invalid digit found in string".toList ++ " at line ".toList ++ Text.ofNat line ++
            " column ".toList ++ Text.ofNat column)) ∧
    ∃ fault, parse (Utf8.encode "\x7b\"1\":\"a\",/**/\"x\":1".toList) = .error fault ∧
      ¬ "error code ".toList <+: fault.message := by
  have hfront : Json.Front (Utf8.encode "\x7b\"1\":\"a\",".toList) := by
    have hread : Json.member (Utf8.encode "1\":\"a\"".toList) =
        .ok ((⟨1, by decide, by decide⟩, ['a']), []) :=
      Except.toOption_eq_some_iff.1 (by decide +kernel)
    obtain ⟨member, hmember, heq⟩ := Json.member_eq_ok_iff.1 hread
    have hled := Json.Led.cons hmember (List.forall_mem_nil _) (List.forall_mem_nil _) .nil
    have hfront := Json.Front.mk (List.forall_mem_nil _) (List.forall_mem_nil _) hled
    rw [List.append_nil] at heq
    rw [← heq] at hfront
    exact hfront
  have hkey : Json.Literal (Utf8.encode "\"x\"".toList) ['x'] := by
    have hread : Json.StringLiteral.read (Utf8.encode "x\"".toList) = .ok (['x'], []) :=
      Except.toOption_eq_some_iff.1 (by decide +kernel)
    obtain ⟨key, hkey, heq⟩ := Json.StringLiteral.read_eq_ok_iff.1 hread
    rw [List.append_nil] at heq
    rw [← heq] at hkey
    exact hkey
  have hname (code : Code) : ¬ Code.Numeral ['x'] code.value := fun h =>
    nomatch Code.parse_eq_ok_iff.2 h
  constructor
  · have hraw : Comment.strip (Utf8.encode "\x7b\"1\":\"a\",/**/\"x\" :\"\"]\x7b".toList) =
        Utf8.encode "\x7b\"1\":\"a\",".toList ++ Utf8.encode "\"x\"".toList ++
          Utf8.encode " :\"\"]\x7b".toList := by
      decide +kernel
    obtain ⟨fault, hparse, hbad, -⟩ := parse_first_fault hfront hkey hname hraw
    have hdescribed : ∃ rest, Json.Described (Utf8.encode " :\"\"]\x7b".toList) rest :=
      ⟨Utf8.encode "]\x7b".toList, Json.described_iff.2
        ⟨[], Except.toOption_eq_some_iff.1 (by decide +kernel)⟩⟩
    obtain ⟨shown, words, line, column, hshown, hcomplaint, hmessage⟩ := hbad hdescribed
    -- there is one quoted form, and one text for the reason
    obtain rfl : "\"x\"".toList = shown :=
      (by decide +kernel : _ = Text.quoted ['x']).trans (Text.quotes_iff.1 hshown).symm
    obtain rfl := hcomplaint.eq (rfl : Code.parse ['x'] = .error .invalidDigit)
    exact ⟨fault, line, column, hparse, hmessage⟩
  · have hraw : Comment.strip (Utf8.encode "\x7b\"1\":\"a\",/**/\"x\":1".toList) =
        Utf8.encode "\x7b\"1\":\"a\",".toList ++ Utf8.encode "\"x\"".toList ++
          Utf8.encode ":1".toList := by
      decide +kernel
    obtain ⟨fault, hparse, -, hother⟩ := parse_first_fault hfront hkey hname hraw
    have hdescribed : ¬ ∃ rest, Json.Described (Utf8.encode ":1".toList) rest := by
      intro h
      obtain ⟨rest, h⟩ := h
      obtain ⟨text, h⟩ := Json.described_iff.1 h
      exact nomatch h
    exact ⟨fault, hparse, (hother hdescribed).2.2⟩

end Catalog

end Codebook
