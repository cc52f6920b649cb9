import Codebook.Json.Document
import Codebook.Proofs.Code.Numeral

/-!
# The grammar of catalog documents

What a catalog document is, said without a reader: which bytes write a string and which text that
is, which strings write a code, and how members make up an object. Every relation holds between the
bytes of a phrase and what the phrase means, and the bytes of a phrase are those of its parts, one
behind the other, with blanks between them.

A single escape stands for the character with its number. No character has the number of a half of
a pair, so a half without the other one is no phrase, and nothing has to be said about it.
-/

namespace Codebook.Json

namespace StringLiteral

/-- A hexadecimal digit, in letters of either case, and its value. -/
inductive HexDigit : UInt8 → Nat → Prop where
  | decimal {b : UInt8} {n : Nat} : n < 10 → b.toNat = '0'.toNat + n → HexDigit b n
  | upper {b : UInt8} {n : Nat} : n < 6 → b.toNat = 'A'.toNat + n → HexDigit b (10 + n)
  | lower {b : UInt8} {n : Nat} : n < 6 → b.toNat = 'a'.toNat + n → HexDigit b (10 + n)

/-- Four hexadecimal digits, and the number that they write. -/
inductive FourDigits : Bytes → Nat → Prop where
  | mk {a b c d : UInt8} {i j k l : Nat} :
      HexDigit a i → HexDigit b j → HexDigit c k → HexDigit d l →
      FourDigits [a, b, c, d] (((i * 16 + j) * 16 + k) * 16 + l)

/-- A letter that follows a backslash, and the byte that the two stand for. -/
inductive Shorthand : UInt8 → UInt8 → Prop where
  | quote : Shorthand 34 34
  | backslash : Shorthand 92 92
  | slash : Shorthand 47 47
  | backspace : Shorthand 98 8
  | formFeed : Shorthand 102 12
  | lineFeed : Shorthand 110 10
  | carriageReturn : Shorthand 114 13
  | tab : Shorthand 116 9

/-- One piece of the inside of a string, and the bytes that it stands for. -/
inductive Piece : Bytes → Bytes → Prop where
  /-- A byte that stands for itself: neither of control, nor a quote, nor a backslash. -/
  | plain {b : UInt8} : 32 ≤ b → b ≠ quote → b ≠ backslash → Piece [b] [b]
  | short {letter b : UInt8} : Shorthand letter b → Piece [backslash, letter] [b]
  /-- A character by its number. -/
  | single {digits : Bytes} {c : Char} :
      FourDigits digits c.toNat → Piece (backslash :: letterU :: digits) (Utf8.encodeChar c)
  /-- A character by the two halves of its number. -/
  | pair {digits digits' : Bytes} {n m : Nat} {c : Char} :
      FourDigits digits n → 0xD800 ≤ n → n ≤ 0xDBFF →
      FourDigits digits' m → 0xDC00 ≤ m → m ≤ 0xDFFF →
      c.toNat = 0x10000 + (n - 0xD800) * 0x400 + (m - 0xDC00) →
      Piece (backslash :: letterU :: (digits ++ backslash :: letterU :: digits'))
        (Utf8.encodeChar c)

/-- The inside of a string, and the bytes that it stands for. -/
inductive Inside : Bytes → Bytes → Prop where
  | nil : Inside [] []
  | cons {piece bytes inside rest : Bytes} :
      Piece piece bytes → Inside inside rest → Inside (piece ++ inside) (bytes ++ rest)

end StringLiteral

open StringLiteral (Inside quote)

/-- The byte `:`. -/
def colon : UInt8 := 58

/-- The byte `,`. -/
def comma : UInt8 := 44

/-- The byte that opens an object. -/
def openBrace : UInt8 := 123

/-- The byte that ends an object. -/
def closeBrace : UInt8 := 125

/-- Spaces, tabs, line feeds and carriage returns. -/
def Blanks (bs : Bytes) : Prop := ∀ b ∈ bs, b = 32 ∨ b = 9 ∨ b = 10 ∨ b = 13

/-- A string between its quotes, and its text. -/
inductive Literal : Bytes → Text → Prop where
  | mk {inside : Bytes} {text : Text} :
      Inside inside (Utf8.encode text) → Literal (quote :: inside ++ [quote]) text

/-- A string that writes a code, and a string that describes it. -/
inductive Member : Bytes → Code × Text → Prop where
  | mk {key value blanks blanks' : Bytes} {name text : Text} {code : Code} :
      Literal key name → Code.Numeral name code.value → Blanks blanks → Blanks blanks' →
      Literal value text → Member (key ++ blanks ++ colon :: blanks' ++ value) (code, text)

/-- Members with one comma between any two of them. -/
inductive Members : Bytes → List (Code × Text) → Prop where
  | one {member : Bytes} {entry : Code × Text} : Member member entry → Members member [entry]
  | more {member blanks blanks' members : Bytes} {entry : Code × Text}
      {entries : List (Code × Text)} :
      Member member entry → Blanks blanks → Blanks blanks' → Members members entries →
      Members (member ++ blanks ++ comma :: blanks' ++ members) (entry :: entries)

/-- Members between braces, if there are any. -/
inductive Object : Bytes → List (Code × Text) → Prop where
  | empty {blanks : Bytes} : Blanks blanks → Object (openBrace :: blanks ++ [closeBrace]) []
  | members {blanks members blanks' : Bytes} {entries : List (Code × Text)} :
      Blanks blanks → Members members entries → Blanks blanks' →
      Object (openBrace :: blanks ++ members ++ blanks' ++ [closeBrace]) entries

/-- An object with nothing around it but blanks. -/
inductive Document : Bytes → List (Code × Text) → Prop where
  | mk {blanks object blanks' : Bytes} {entries : List (Code × Text)} :
      Blanks blanks → Object object entries → Blanks blanks' →
      Document (blanks ++ object ++ blanks') entries

end Codebook.Json
