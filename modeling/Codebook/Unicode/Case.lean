import Codebook.Text
import Codebook.Unicode.CaseTable
import Codebook.Unicode.CasedTable

/-!
# Upper and lower case

`simpleUpper` moves one character to one character and leaves a letter alone whose upper case is
longer. `upper` and `lower` are the full mappings, under which a text may grow. A capital sigma is
the one letter whose lower case depends on its neighbours: it takes the final form behind a letter
and with no letter after it.
-/

namespace Codebook.Unicode

/-- The upper case of a character where that is one character, else the character. -/
def simpleUpper (c : Char) : Char := mapByRuns upperRuns c

/-- The lower case of a character where that is one character, else the character. -/
def simpleLower (c : Char) : Char := mapByRuns lowerRuns c

/-- The longer case mapping that a table lists for a character. -/
def expansion? (table : List (Nat × List Nat)) (c : Char) : Option Text :=
  (table.lookup c.toNat).map (·.map Char.ofNat)

/-- The upper case of a character. -/
def upperChar (c : Char) : Text := (expansion? upperExpansions c).getD [simpleUpper c]

/-- The lower case of a character by itself. -/
def lowerChar (c : Char) : Text := (expansion? lowerExpansions c).getD [simpleLower c]

/-- Whether a character is a letter in lower case. -/
def isLower (c : Char) : Bool :=
  inRanges casedRanges c && lowerChar c == [c] && !inRanges standingCapitalRanges c

/-- Whether a character is a letter in upper case. Some letters have a form of their own for the
first letter of a word, which is neither. -/
def isUpper (c : Char) : Bool :=
  inRanges casedRanges c && upperChar c == [c] &&
    (lowerChar c != [c] || inRanges standingCapitalRanges c)

/-- Whether a letter with case comes next, after characters that are passed over. -/
def startsCased (t : Text) : Bool :=
  match t.dropWhile (inRanges ignorableRanges) with
  | [] => false
  | c :: _ => inRanges casedRanges c

/-- The lower case of a text, of which `before` has been read, last character first. -/
def lowerAfter (before : Text) : Text → Text
  | [] => []
  | c :: rest =>
    let lowered :=
      if c == 'Σ' && startsCased before && !startsCased rest then ['ς'] else lowerChar c
    lowered ++ lowerAfter (c :: before) rest

end Codebook.Unicode

namespace Codebook.Text

/-- The text in upper case. -/
def upper (t : Text) : Text := t.flatMap Unicode.upperChar

/-- The text in lower case. -/
def lower (t : Text) : Text := Unicode.lowerAfter [] t

end Codebook.Text
