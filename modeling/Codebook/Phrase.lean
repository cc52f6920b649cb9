import Codebook.Text.Split
import Codebook.Unicode.Case
import Codebook.Unicode.WhiteSpace

/-!
# Turning descriptions into names

The operations that a template has for making an identifier out of a description. A description is
normalized, split at its blanks, its words are capitalized, and they are joined again. `map`
replaces whole words on the way.
-/

namespace Codebook.Phrase

/-- The description up to its first `)`, with a blank for each hyphen. An opening parenthesis
becomes a blank too, but only where one closes. -/
def normalize (description : Text) : Text :=
  let front :=
    if ')' ∈ description then
      (description.takeWhile (· != ')')).map fun c => if c == '(' then ' ' else c
    else description
  front.map fun c => if c == '-' then ' ' else c

/-- The texts between the occurrences of a separator. The empty separator gives one text for each
character. -/
def split (separator value : Text) : List Text :=
  if hsep : separator = [] then value.map (fun c => [c]) else Text.pieces separator hsep value

/-- The texts one after another, with the separator between them. -/
def join (separator : Text) (values : List Text) : Text := separator.intercalate values

/-! ## Capitals -/

/-- Whether a word may start behind the character. In ASCII that is everything except letters,
digits and the underscore; of the rest only white space. -/
def isSeparator (c : Char) : Bool :=
  if c.toNat < 128 then !(c.isAlphanum || c == '_') else Unicode.isWhiteSpace c

/-- The form of a character at the start of a word. A letter that is written as two has a form of
its own, with only the first of them large. -/
def capital (c : Char) : Char :=
  match c with
  | 'Ǆ' | 'ǅ' | 'ǆ' => 'ǅ'
  | 'Ǉ' | 'ǈ' | 'ǉ' => 'ǈ'
  | 'Ǌ' | 'ǋ' | 'ǌ' => 'ǋ'
  | 'Ǳ' | 'ǲ' | 'ǳ' => 'ǲ'
  | _ => if c.toNat < 128 then c.toUpper else Unicode.simpleUpper c

/-- The text with its words capitalized, where `previous` is the character in front of it. -/
def capitalizeAfter (previous : Char) : Text → Text
  | [] => []
  | c :: rest => (if isSeparator previous then capital c else c) :: capitalizeAfter c rest

/-- The text with every word capitalized. A word starts at the front and behind a separator. -/
def capitalize (t : Text) : Text := capitalizeAfter ' ' t

/-- Every text with its words capitalized. -/
def title (values : List Text) : List Text := values.map capitalize

/-! ## Replacing whole words -/

/-- What comes out of a replacement: the replaced texts, or as many empty texts and then these. -/
inductive MapMode where
  | substitute
  | legacy
  deriving DecidableEq, Repr

/-- The texts with `new` in place of each that is `old`. -/
def map (mode : MapMode) (old new : Text) (values : List Text) : List Text :=
  let mapped := values.map fun value => if value = old then new else value
  match mode with
  | .substitute => mapped
  | .legacy => List.replicate values.length [] ++ mapped

end Codebook.Phrase
