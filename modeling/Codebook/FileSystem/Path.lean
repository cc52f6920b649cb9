import Codebook.FileSystem.Fault
import Codebook.Utf8

/-!
# Paths

A path is a text, cut at its slashes. Empty pieces name nothing, `.` is the directory itself and
`..` the directory above it. `parents` works on the text alone: it takes the last name away, and
with it the empty pieces and dots around it, again and again. So it lists, nearest first, every
directory that has to be there before the path itself can be.
-/

namespace Codebook.Path

/-- The piece before the first slash, and the pieces behind each slash. -/
def pieces : Text → Text × List Text
  | [] => ([], [])
  | c :: path =>
    if c = '/' then ([], (pieces path).1 :: (pieces path).2)
    else (c :: (pieces path).1, (pieces path).2)

/-- The path that has these pieces. -/
def ofPieces (first : Text) (rest : List Text) : Text :=
  first ++ rest.flatMap fun piece => '/' :: piece

/-- Cutting loses nothing but the slashes. -/
theorem ofPieces_pieces (path : Text) : ofPieces (pieces path).1 (pieces path).2 = path := by
  induction path with
  | nil => rfl
  | cons c path ih =>
    simp only [pieces]
    split
    · next hc => simpa [ofPieces, hc] using ih
    · simpa [ofPieces] using ih

/-- The segments that are looked up, one after the other. -/
def segments (path : Text) : List Text :=
  ((pieces path).1 :: (pieces path).2).filter (· ≠ [])

/-- The segment for the directory itself. -/
def here : Text := ['.']

/-- The segment for the directory above. -/
def above : Text := ['.', '.']

/-- Whether a slash ends the path, so that it has to name a directory. -/
def endsInSlash (path : Text) : Bool := path.getLast? == some '/'

/-! ## Limits -/

/-- The longest path, in bytes. -/
def maxLength : Nat := 4095

/-- The longest name, in bytes. -/
def maxNameLength : Nat := 255

/-- Whether a name is longer than names may be. -/
def isNameTooLong (name : Text) : Bool := maxNameLength < (Utf8.encode name).length

/-- What is wrong with a path before anything is looked up. -/
def check (path : Text) : Except FileFault Unit :=
  if '\x00' ∈ path then .error .nulInPath
  else if path = [] then .error .notFound
  else if maxLength < (Utf8.encode path).length then .error .nameTooLong
  else .ok ()

/-! ## The directories above -/

/-- Whether a piece behind a slash names nothing. -/
def isBlank (piece : Text) : Bool := piece == [] || piece == here

/-- The path of some pieces, the last ones without those that name nothing. The root is a slash. -/
def ofReversed (first : Text) (reversed : List Text) : Text :=
  match (reversed.dropWhile isBlank).reverse, first with
  | [], [] => ['/']
  | rest, first => ofPieces first rest

/-- The paths above that of some pieces, which come last piece first. -/
def parentsOfReversed (first : Text) : List Text → List Text
  | [] => []
  | piece :: reversed =>
    if isBlank piece then parentsOfReversed first reversed
    else ofReversed first reversed :: parentsOfReversed first reversed

/-- The directories above a path, nearest first, as the path spells them. The current directory
is not listed, as it has no spelling there, but `.` and the root are. -/
def parents (path : Text) : List Text := parentsOfReversed (pieces path).1 (pieces path).2.reverse

end Codebook.Path
