import Codebook.Template.Items

/-!
# Other ways to show a value

Escaped, so that it can stand inside markup, and spread over lines, where what a list or a map holds
is set in.
-/

namespace Codebook.Template

/-! ## Escaped texts -/

/-- What stands for a character inside markup. -/
def escapeChar (c : Char) : Text :=
  if c = '<' then "&lt;".toList
  else if c = '>' then "&gt;".toList
  else if c = '&' then "&amp;".toList
  else if c = '"' then "&quot;".toList
  else if c = '\'' then "&#x27;".toList
  else if c = '/' then "&#x2f;".toList
  else [c]

/-- What a value shows as inside markup. -/
def Value.escapedText : Value → Text
  | .markup t => t
  | value => value.toText.flatMap escapeChar

/-- What a value shows as, where there has to be one. -/
def Value.shownAs (escape : Bool) (value : Value) : Except Problem Text :=
  value.defined.map fun value => if escape then value.escapedText else value.toText

/-- Captured text as a value. Where texts are escaped, it has been. -/
def captured (escape : Bool) (text : Text) : Value := if escape then .markup text else .text text

/-! ## Lines -/

/-- The blanks in front of a line. -/
def padding (depth : Nat) : Text := List.replicate (4 * depth) ' '

/-- Some parts, each on a line of its own, between an opening and a closing character. -/
def spread (opening closing : Char) (depth : Nat) (parts : List Text) : Text :=
  if parts.isEmpty then [opening, closing]
  else
    opening :: '\n' :: parts.flatMap (fun part => padding (depth + 1) ++ part ++ [',', '\n']) ++
      padding depth ++ [closing]

mutual

/-- The text of a value over several lines, set in to some depth. -/
def Value.spreadText (depth : Nat) : Value → Text
  | .list items | .iterator true items => spread '[' ']' depth (Value.spreadTexts (depth + 1) items)
  | .map _ entries => spread '\x7b' '\x7d' depth (Value.spreadEntries (depth + 1) entries)
  | .group common items =>
    spread '[' ']' depth [common.spreadText (depth + 1),
      spread '[' ']' (depth + 1) (Value.spreadTexts (depth + 2) items)]
  | value => value.itemText

/-- The texts of some items over several lines. -/
def Value.spreadTexts (depth : Nat) : List Value → List Text
  | [] => []
  | item :: rest => item.spreadText depth :: Value.spreadTexts depth rest

/-- The texts of some entries over several lines. -/
def Value.spreadEntries (depth : Nat) : List (Value × Value) → List Text
  | [] => []
  | (key, value) :: rest =>
    (key.spreadText depth ++ ": ".toList ++ value.spreadText depth) ::
      Value.spreadEntries depth rest

end

end Codebook.Template
