import Codebook.Text
import Codebook.Unicode.Run
import Codebook.Unicode.EscapedTable

/-!
# Quoted text

A text in double quotes, in which everything that would not show is written as an escape: the
usual letters after a backslash where there is one, else the number of the character in
hexadecimal digits between braces.
-/

namespace Codebook.Text

/-- A number in hexadecimal digits, without zeros in front. -/
def hexadecimal (n : Nat) : Text := Nat.toDigits 16 n

/-- A character by its number. -/
def numbered (c : Char) : Text := ['\\', 'u', '\x7b'] ++ hexadecimal c.toNat ++ ['\x7d']

/-- A character as it stands inside quotes. -/
def quotedChar (c : Char) : Text :=
  match c with
  | '\x00' => ['\\', '0']
  | '\t' => ['\\', 't']
  | '\r' => ['\\', 'r']
  | '\n' => ['\\', 'n']
  | '\\' => ['\\', '\\']
  | '"' => ['\\', '"']
  | _ => if Unicode.inRanges Unicode.escapedRanges c then numbered c else [c]

/-- The text between double quotes, with its escapes. -/
def quoted (t : Text) : Text := '"' :: t.flatMap quotedChar ++ ['"']

end Codebook.Text
