import Codebook.Text

/-!
# Lexemes of a template

A template is text with tags in it. Its lexemes are the stretches of text, the ends of the tags,
and the words, signs and constants inside them, each with the line that it starts on. Where a
template cannot be taken apart, a fault stands for the rest.
-/

namespace Codebook.Template

/-- The signs inside tags. -/
inductive Sign where
  | plus
  | minus
  | star
  | slash
  | doubleSlash
  | doubleStar
  | percent
  | tilde
  | dot
  | comma
  | colon
  | bar
  | assign
  | equal
  | notEqual
  | less
  | lessEqual
  | greater
  | greaterEqual
  | openParen
  | closeParen
  | openBracket
  | closeBracket
  | openBrace
  | closeBrace
  deriving DecidableEq, Repr

/-- A lexeme without its line. -/
inductive Token where
  /-- Text outside tags. -/
  | data (text : Text)
  | variableStart
  | variableEnd
  | blockStart
  | blockEnd
  | word (name : Text)
  | text (value : Text)
  | integer (value : Nat)
  | float (value : Float)
  | sign (sign : Sign)
  /-- Nothing can be read here. -/
  | fault

/-- It can be decided whether a token is a given word. -/
instance (token : Token) (name : Text) : Decidable (token = .word name) :=
  match token with
  | .word other => decidable_of_iff (other = name) (by simp)
  | .data _ | .variableStart | .variableEnd | .blockStart | .blockEnd | .text _ | .integer _
  | .float _ | .sign _ | .fault => isFalse nofun

/-- Whether a token stands for what cannot be read. -/
def Token.isFault : Token → Bool
  | .fault => true
  | _ => false

/-- A token and the line it starts on, counted from one. -/
structure Lexeme where
  token : Token
  line : Nat

/-- Blanks and line ends inside tags. -/
def isTagBlank (c : Char) : Bool :=
  c == ' ' || c == '\t' || c == '\n' || c == '\r' || c == '\x0c'

end Codebook.Template
