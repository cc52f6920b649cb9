import Codebook.Text
import Codebook.Unicode.Run

/-!
# White space

The blanks, tabs, line ends and spaces of every width that count as white space, in all scripts.
The space that no line breaks at is among them, the one of no width is not.
-/

namespace Codebook.Unicode

/-- The characters that are white space. -/
def whiteSpaceRanges : List (Nat × Nat) := [
  (0x9, 0xd), (0x20, 0x20), (0x85, 0x85), (0xa0, 0xa0), (0x1680, 0x1680), (0x2000, 0x200a),
  (0x2028, 0x2029), (0x202f, 0x202f), (0x205f, 0x205f), (0x3000, 0x3000)]

/-- Whether a character is white space. -/
def isWhiteSpace (c : Char) : Bool := inRanges whiteSpaceRanges c

end Codebook.Unicode

namespace Codebook.Text

/-- The text without the white space at its start. -/
def trimStart (t : Text) : Text := t.dropWhile Unicode.isWhiteSpace

/-- The text without the white space at its end. -/
def trimEnd (t : Text) : Text := (t.reverse.dropWhile Unicode.isWhiteSpace).reverse

/-- The text without the white space around it. -/
def trim (t : Text) : Text := trimEnd (trimStart t)

end Codebook.Text
