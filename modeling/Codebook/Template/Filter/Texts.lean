import Codebook.Phrase
import Codebook.Template.Argument
import Codebook.Template.Display
import Codebook.Template.Filter.Kinds
import Codebook.Text.Split
import Codebook.Unicode.Case
import Codebook.Unicode.WhiteSpace

/-!
# Filters that make texts

They work on the text of a value, whatever it is, but `join` goes through its items.
-/

namespace Codebook.Template

/-! ## Words and lines -/

/-- Marks and white space, behind which a word may start. -/
def endsWord (c : Char) : Bool :=
  (c.toNat < 128 && 33 ≤ c.toNat && c.toNat ≠ 127 && !c.isAlphanum) || Unicode.isWhiteSpace c

/-- The text with the first letter of each word in upper case and all others in lower case;
`starts` tells whether a word may start here. -/
def titleFrom (starts : Bool) : Text → Text
  | [] => []
  | c :: rest =>
    if endsWord c then c :: titleFrom true rest
    else (if starts then Unicode.upperChar c else Unicode.lowerChar c) ++ titleFrom false rest

/-- The text with its first letter in upper case and all others in lower case. -/
def capitalized : Text → Text
  | [] => []
  | c :: rest => Unicode.upperChar c ++ Text.lower rest

/-- The text without the characters of `marks` around it. -/
def trimMarks (marks text : Text) : Text :=
  ((text.dropWhile (· ∈ marks)).reverse.dropWhile (· ∈ marks)).reverse

/-- The text without a character at its end. -/
def withoutLast (c : Char) (text : Text) : Text :=
  if text.getLast? = some c then text.dropLast else text

/-- The text without a line end at its end. -/
def withoutLineEnd (text : Text) : Text := withoutLast '\r' (withoutLast '\n' text)

/-- The lines of a text. -/
def linesOf (text : Text) : List Text :=
  let lines := Text.splitOn ['\n'] text
  (if lines.getLast? = some [] then lines.dropLast else lines).map (withoutLast '\r')

/-- The text with so many blanks in front of each line. The first line and empty lines have them
only where it is asked for. -/
def indented (width : Nat) (first blank : Bool) (text : Text) : Text :=
  let blanks := List.replicate width ' '
  let indent := fun line : Text => if line.isEmpty && !blank then line else blanks ++ line
  match Text.splitOn ['\n'] (withoutLineEnd text) with
  | [] => []
  | line :: rest =>
    withoutLineEnd
      (((if first then indent line else line) :: rest.map indent).flatMap (· ++ ['\n']))

/-- The items of a value as one text, with a separator between any two. -/
def Value.join (separator : Text) (value : Value) : Except Problem Text :=
  match value.items? with
  | some items => .ok (Phrase.join separator (items.map Value.toText))
  | none => .error (.cannotJoin value.kind)

/-! ## The filters -/

/-- The text that a filter makes of a value. -/
def TextFilter.apply (filter : TextFilter) (value : Value) (arguments : List Value) :
    Except Problem Text :=
  match filter with
  | .upper => do
    noMoreThan 0 arguments
    return value.toText.upper
  | .lower => do
    noMoreThan 0 arguments
    return value.toText.lower
  | .title => do
    noMoreThan 0 arguments
    return titleFrom true value.toText
  | .capitalize => do
    noMoreThan 0 arguments
    return capitalized value.toText
  | .trim => do
    let marks? ← optional textArgument arguments[0]?
    noMoreThan 1 arguments
    return marks?.elim value.toText.trim fun marks => trimMarks marks value.toText
  | .replace => do
    let old ← textArgument arguments[0]?
    let new ← textArgument arguments[1]?
    noMoreThan 2 arguments
    return Text.replaceAll old new value.toText
  | .join => do
    let separator? ← optional textArgument arguments[0]?
    noMoreThan 1 arguments
    value.join (separator?.getD [])
  | .indent => do
    let width ← sizeArgument arguments[0]?
    let first ← optional flagArgument arguments[1]?
    let blank ← optional flagArgument arguments[2]?
    noMoreThan 3 arguments
    return indented width (first.getD false) (blank.getD false) value.toText
  | .spread => do
    noMoreThan 0 arguments
    return value.spreadText 0

/-- What the filters for markup make of a value. -/
def MarkupFilter.apply (filter : MarkupFilter) (value : Value) (arguments : List Value) :
    Except Problem Value := do
  noMoreThan 0 arguments
  return match filter with
    | .safe => .markup value.toText
    | .escape => .markup value.escapedText
    | .string => if value.kind = .text then value else .text value.toText

end Codebook.Template
