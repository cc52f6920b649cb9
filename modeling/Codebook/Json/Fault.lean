import Codebook.Code
import Codebook.Decimal.Layout
import Codebook.Text.Quoted

/-!
# What can be wrong with a catalog document

A fault is a cause and the place that reading had come to, counted in bytes that are still to be
read. Counting from the end keeps the readers free of a position; `Position.ofRemaining` turns it
into a line and a column of the whole document once, when the fault is reported.
-/

namespace Codebook.Json

/-- What stands where something else was expected. -/
inductive Found where
  | null
  | boolean (value : Bool)
  | integer (value : Int)
  | float (value : Float)
  | text (value : Text)
  | sequence
  | map

/-- Numbers have no exponent between a hundred-thousandth and ten to the sixteenth. -/
def Found.layout : Decimal.Layout := ⟨fun leading => -5 ≤ leading && leading ≤ 15, true⟩

/-- What was found, in words. -/
def Found.message : Found → Text
  | .null => "null".toList
  | .boolean true => "boolean `true`".toList
  | .boolean false => "boolean `false`".toList
  | .integer value => "integer `".toList ++ Text.ofInt value ++ ['`']
  | .float value => "floating point `".toList ++ Decimal.ofFloat layout value ++ ['`']
  | .text value => "string ".toList ++ value.quoted
  | .sequence => "sequence".toList
  | .map => "map".toList

/-- Why a document is no catalog. -/
inductive Cause where
  /-- The document ends where a value has to stand. -/
  | endInValue
  /-- The document ends inside the object. -/
  | endInObject
  /-- The document ends inside a string. -/
  | endInString
  /-- No value starts like this. -/
  | expectedValue
  /-- A word that is not `null`, `true` or `false`. -/
  | expectedWord
  /-- A digit is missing, or stands behind a leading zero. -/
  | invalidNumber
  /-- A number beyond the largest double. -/
  | numberOutOfRange
  /-- A key without a colon. -/
  | expectedColon
  /-- A member that is followed by neither a comma nor the end of the object. -/
  | expectedCommaOrEnd
  /-- A key that does not start with a quote. -/
  | keyMustBeString
  /-- The object ends behind a comma. -/
  | trailingComma
  /-- Something stands behind the object. -/
  | trailingCharacters
  /-- A letter that names no escape, or a number that is not hexadecimal. -/
  | invalidEscape
  /-- A control character inside a string. -/
  | controlCharacter
  /-- The first half of a pair of escapes without a second escape. -/
  | unexpectedEndOfEscape
  /-- Half of a pair of escapes without the matching other half. -/
  | loneSurrogate
  /-- A string that is not UTF-8. -/
  | invalidUnicode
  /-- The document is not an object. -/
  | notObject (found : Found)
  /-- A description is not a string. -/
  | notString (found : Found)
  /-- A key is not a code. -/
  | badKey (key : Text) (reason : CodeError)

/-- The cause in words. -/
def Cause.message : Cause → Text
  | .endInValue => "EOF while parsing a value".toList
  | .endInObject => "EOF while parsing an object".toList
  | .endInString => "EOF while parsing a string".toList
  | .expectedValue => "expected value".toList
  | .expectedWord => "expected ident".toList
  | .invalidNumber => "invalid number".toList
  | .numberOutOfRange => "number out of range".toList
  | .expectedColon => "expected `:`".toList
  | .expectedCommaOrEnd => "expected `,` or `\x7d`".toList
  | .keyMustBeString => "key must be a string".toList
  | .trailingComma => "trailing comma".toList
  | .trailingCharacters => "trailing characters".toList
  | .invalidEscape => "invalid escape".toList
  | .controlCharacter =>
    "control character (\\u0000-\\u001F) found while parsing a string".toList
  | .unexpectedEndOfEscape => "unexpected end of hex escape".toList
  | .loneSurrogate => "lone leading surrogate in hex escape".toList
  | .invalidUnicode => "invalid unicode code point".toList
  | .notObject found =>
    "invalid type: ".toList ++ found.message
      ++ ", expected an object mapping integer error codes to descriptions".toList
  | .notString found => "invalid type: ".toList ++ found.message ++ ", expected a string".toList
  | .badKey key reason =>
    "error code ".toList ++ key.quoted ++ " is not an integer: ".toList ++ reason.message

/-- A cause, and how many bytes were still to be read where it was found. -/
structure Fault where
  cause : Cause
  remaining : Nat

/-- A fault in front of the bytes that are left. -/
def Fault.before (cause : Cause) (rest : Bytes) : Fault := ⟨cause, rest.length⟩

/-- A fault of the next byte, which is counted as read. -/
def Fault.next (cause : Cause) (rest : Bytes) : Fault := ⟨cause, rest.length - 1⟩

/-- A fault of the end of the document. -/
def Fault.atEnd (cause : Cause) : Fault := ⟨cause, 0⟩

/-! ## Places -/

/-- The byte that ends a line. -/
def lineFeed : UInt8 := 10

/-- A line, counted from one, and how many bytes of it have been read. -/
structure Position where
  line : Nat
  column : Nat
  deriving DecidableEq, Repr

/-- The place behind some bytes. -/
def Position.behind (read : Bytes) : Position :=
  ⟨1 + read.count lineFeed, (read.reverse.takeWhile (· != lineFeed)).length⟩

/-- The place in a document where so many bytes are left. -/
def Position.ofRemaining (document : Bytes) (remaining : Nat) : Position :=
  behind (document.take (document.length - remaining))

/-- A fault of a document, with its place. -/
def Fault.message (fault : Fault) (document : Bytes) : Text :=
  let position := Position.ofRemaining document fault.remaining
  fault.cause.message ++ " at line ".toList ++ Text.ofNat position.line
    ++ " column ".toList ++ Text.ofNat position.column

end Codebook.Json
