/-!
# Texts and bytes

A text is the list of its characters; what a file holds is the list of its bytes. Both are lists,
so that every operation of the library recurses on the data it reads.
-/

namespace Codebook

/-- A text is the list of its characters. -/
abbrev Text := List Char

/-- What a file holds, or what a server sends. -/
abbrev Bytes := List UInt8

namespace Text

/-- It can be decided whether a text is one of some texts. -/
instance decidableMem (t : Text) (ts : List Text) : Decidable (t ∈ ts) := inferInstance

/-- The text that a string literal writes. -/
abbrev ofString (s : String) : Text := s.toList

/-- The text as a string. -/
abbrev toString (t : Text) : String := String.ofList t

/-- Whether one text occurs somewhere in the other. -/
def contains (needle : Text) : Text → Bool
  | [] => needle.isEmpty
  | c :: rest => needle.isPrefixOf (c :: rest) || contains needle rest

/-- How many line feeds a text holds. -/
def lineFeeds (t : Text) : Nat := t.count '\n'

/-- Whether the first text comes before the second, character by character. -/
def before : Text → Text → Bool
  | [], [] => false
  | [], _ :: _ => true
  | _ :: _, [] => false
  | a :: as, b :: bs => a.toNat < b.toNat || (a == b && before as bs)

end Text

end Codebook
