import Codebook.Catalog
import Codebook.Comment
import Codebook.Json.Number
import Codebook.Json.StringLiteral

/-!
# Catalog documents

A catalog is written as one object whose keys are codes and whose values are their descriptions.
The document is read from the left and the first fault ends it. A key is taken for a code only
after its value has been read, so a value that is no string comes before a key that is no code,
and both come before anything that stands behind them. Of two members with one code the later
one counts.
-/

namespace Codebook.Json

/-- Blanks, tabs and line ends. -/
def isBlank (b : UInt8) : Bool := b == 32 || b == 9 || b == 10 || b == 13

/-- What follows the blanks that stand next. -/
def skipBlanks (bs : Bytes) : Bytes := bs.dropWhile isBlank

/-- There is nothing between the tokens but what is skipped. -/
theorem length_skipBlanks_le (bs : Bytes) : (skipBlanks bs).length ≤ bs.length :=
  (List.dropWhile_suffix isBlank).length_le

/-! ## A value of the wrong kind -/

/-- What follows the rest of a word. -/
def afterWord : Bytes → Bytes → Except Fault Bytes
  | [], bs => .ok bs
  | _ :: _, [] => .error (.atEnd .endInValue)
  | expected :: word, b :: rest =>
    if b = expected then afterWord word rest else .error (.before .expectedWord rest)

/-- The value that stands next, and where it ends. Of a sequence and a map only the first byte is
looked at. -/
def foundValue (bs : Bytes) : Except Fault (Found × Bytes) :=
  match bs with
  | [] => .error (.next .expectedValue bs)
  | b :: rest =>
    if b = 110 then (afterWord [117, 108, 108] rest).map fun r => (.null, r)
    else if b = 116 then (afterWord [114, 117, 101] rest).map fun r => (.boolean true, r)
    else if b = 102 then (afterWord [97, 108, 115, 101] rest).map fun r => (.boolean false, r)
    else if b = 45 then Number.read true rest
    else if Number.isDigit b then Number.read false bs
    else if b = StringLiteral.quote then
      (StringLiteral.read rest).map fun (text, r) => (.text text, r)
    else if b = 91 then .ok (.sequence, bs)
    else if b = 123 then .ok (.map, bs)
    else .error (.next .expectedValue bs)

/-- The fault of a value that is not what was expected. -/
def wrongValue (cause : Found → Cause) (bs : Bytes) : Fault :=
  match foundValue bs with
  | .ok (found, rest) => .before (cause found) rest
  | .error fault => fault

/-! ## Members -/

/-- What follows the colon behind a key. -/
def afterColon (bs : Bytes) : Except Fault Bytes :=
  match skipBlanks bs with
  | [] => .error (.atEnd .endInObject)
  | b :: rest => if b = 58 then .ok rest else .error (.next .expectedColon (b :: rest))

/-- The description that stands next, and what follows it. -/
def description (bs : Bytes) : Except Fault (Text × Bytes) :=
  match skipBlanks bs with
  | [] => .error (.atEnd .endInValue)
  | b :: rest =>
    if b = StringLiteral.quote then StringLiteral.read rest
    else .error (wrongValue .notString (b :: rest))

/-- The place that reading has come to when a key turns out to be no code: behind the blanks that
follow the member, and behind the end of the object if that comes next. -/
def afterLastMember (bs : Bytes) : Bytes :=
  match skipBlanks bs with
  | [] => []
  | b :: rest => if b = 125 then rest else b :: rest

/-- The member whose key starts behind an opening quote, and what follows it. -/
def member (bs : Bytes) : Except Fault ((Code × Text) × Bytes) := do
  let (key, rest) ← StringLiteral.read bs
  let rest ← afterColon rest
  let (text, rest) ← description rest
  match Code.parse key with
  | .ok code => .ok ((code, text), rest)
  | .error reason => .error (.before (.badKey key reason) (afterLastMember rest))

/-- What follows the quote that opens a key. -/
def afterKeyQuote (bs : Bytes) : Except Fault Bytes :=
  match skipBlanks bs with
  | [] => .error (.atEnd .endInValue)
  | b :: rest =>
    if b = StringLiteral.quote then .ok rest
    else if b = 125 then .error (.next .trailingComma (b :: rest))
    else .error (.next .keyMustBeString (b :: rest))

/-! ## Every step goes forward -/

theorem length_lt_of_afterColon {bs rest : Bytes} (h : afterColon bs = .ok rest) :
    rest.length < bs.length := by
  have hskip := length_skipBlanks_le bs
  unfold afterColon at h
  split at h
  · simp at h
  · next b r hr =>
    rw [hr, List.length_cons] at hskip
    split at h
    · simp only [Except.ok.injEq] at h
      rw [← h]; omega
    · simp at h

theorem length_lt_of_description {bs rest : Bytes} {text : Text}
    (h : description bs = .ok (text, rest)) : rest.length < bs.length := by
  have hskip := length_skipBlanks_le bs
  unfold description at h
  split at h
  · simp at h
  · next b r hr =>
    rw [hr, List.length_cons] at hskip
    split at h
    · have := StringLiteral.length_lt_of_read h
      omega
    · simp at h

theorem length_lt_of_member {bs rest : Bytes} {entry : Code × Text}
    (h : member bs = .ok (entry, rest)) : rest.length < bs.length := by
  simp only [member, bind, Except.bind] at h
  -- each of the three readers of a member takes something off
  split at h
  · simp at h
  · next p hkey =>
    have h₁ := StringLiteral.length_lt_of_read hkey
    split at h
    · simp at h
    · next r₂ hcolon =>
      have h₂ := length_lt_of_afterColon hcolon
      split at h
      · simp at h
      · next q htext =>
        have h₃ := length_lt_of_description htext
        split at h
        · simp only [Except.ok.injEq, Prod.mk.injEq] at h
          rw [← h.2]; omega
        · simp at h

theorem length_lt_of_afterKeyQuote {bs rest : Bytes} (h : afterKeyQuote bs = .ok rest) :
    rest.length < bs.length := by
  have hskip := length_skipBlanks_le bs
  unfold afterKeyQuote at h
  split at h
  · simp at h
  · next b r hr =>
    rw [hr, List.length_cons] at hskip
    split at h
    · simp only [Except.ok.injEq] at h
      rw [← h]; omega
    · split at h <;> simp at h

/-! ## The object -/

/-- The catalog with the members whose first key starts behind an opening quote, and what follows
the end of the object. -/
def members (catalog : Catalog) (bs : Bytes) : Except Fault (Catalog × Bytes) :=
  match h : member bs with
  | .error fault => .error fault
  | .ok ((code, text), rest) =>
    have hmember : rest.length < bs.length := length_lt_of_member h
    let catalog := catalog.insert code text
    match hskip : skipBlanks rest with
    | [] => .error (.atEnd .endInObject)
    | b :: behind =>
      if b = 125 then .ok (catalog, behind)
      else if b = 44 then
        match hquote : afterKeyQuote behind with
        | .error fault => .error fault
        | .ok next =>
          have : next.length < bs.length := by
            have hle := length_skipBlanks_le rest
            have hlt := length_lt_of_afterKeyQuote hquote
            rw [hskip, List.length_cons] at hle
            omega
          members catalog next
      else .error (.next .expectedCommaOrEnd (b :: behind))
termination_by bs.length

/-- The catalog of an object behind its opening brace, and what follows the object. -/
def object (bs : Bytes) : Except Fault (Catalog × Bytes) :=
  match skipBlanks bs with
  | [] => .error (.atEnd .endInObject)
  | b :: rest =>
    if b = 125 then .ok (.empty, rest)
    else if b = StringLiteral.quote then members .empty rest
    else .error (.next .keyMustBeString (b :: rest))

/-- The catalog of a document without comments. -/
def document (bs : Bytes) : Except Fault Catalog :=
  match skipBlanks bs with
  | [] => .error (.atEnd .endInValue)
  | b :: rest =>
    if b = 123 then do
      let (catalog, rest) ← object rest
      match skipBlanks rest with
      | [] => .ok catalog
      | b :: rest => .error (.next .trailingCharacters (b :: rest))
    else .error (wrongValue .notObject (b :: rest))

end Codebook.Json

namespace Codebook

/-- Why bytes are no catalog, with the text in which it was found. -/
structure CatalogFault where
  fault : Json.Fault
  document : Bytes

/-- The fault in words, with its line and column. -/
def CatalogFault.message (f : CatalogFault) : Text := f.fault.message f.document

/-- The catalog that bytes write, once their comments are taken out. Places count without the
comments. -/
def Catalog.parse (raw : Bytes) : Except CatalogFault Catalog :=
  let document := Comment.strip raw
  match Json.document document with
  | .ok catalog => .ok catalog
  | .error fault => .error ⟨fault, document⟩

end Codebook
