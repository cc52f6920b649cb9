import Codebook.Template.Lexer
import Codebook.Template.Tree

/-!
# Taking lexemes

A parser takes lexemes from the front. Loops over lexemes are bounded by the number of lexemes that
there are. A template that cannot be read is a syntax error on the line of the last lexeme taken, or
on that of the fault that was met.

Besides the lexemes, parsers keep the names of the blocks so far, which have to differ, and whether
they are inside a macro, where there are no blocks.
-/

namespace Codebook.Template

/-- The lexemes that are left, the line of the last one taken, and how many there were at first; the
names of the blocks so far, and whether this is inside a macro. -/
structure Cursor where
  rest : List Lexeme
  line : Nat
  total : Nat
  blocks : List Text
  inRoutine : Bool

/-- The line of a syntax error. -/
structure SyntaxFault where
  line : Nat
  deriving DecidableEq, Repr

/-- A parser takes lexemes and gives a result, unless there is a syntax error. -/
abbrev Parser (α : Type) := StateT Cursor (Except SyntaxFault) α

namespace Parser

/-- There is a syntax error. -/
def fail {α : Type} : Parser α := fun cursor => .error ⟨cursor.line⟩

/-- The next token, which is not taken. There is none at the end. -/
def peek : Parser (Option Token) := fun cursor =>
  match cursor.rest with
  | [] => .ok (none, cursor)
  | lexeme :: _ =>
    if lexeme.token.isFault then .error ⟨lexeme.line⟩ else .ok (some lexeme.token, cursor)

/-- The next lexeme, which is taken. -/
def take : Parser Lexeme := fun cursor =>
  match cursor.rest with
  | [] => .error ⟨cursor.line⟩
  | lexeme :: rest =>
    if lexeme.token.isFault then .error ⟨lexeme.line⟩
    else .ok (lexeme, { cursor with rest, line := lexeme.line })

/-- The line of the last lexeme taken. -/
def lastLine : Parser Nat := fun cursor => .ok (cursor.line, cursor)

/-- The line of the next lexeme, or of the last one at the end. -/
def nextLine : Parser Nat := fun cursor =>
  .ok ((cursor.rest.head?.map (·.line)).getD cursor.line, cursor)

/-- As many steps as a loop can take that takes a lexeme each time, and one more for its end. -/
def enough : Parser Nat := fun cursor => .ok (cursor.total + 1, cursor)

/-- Whether a sign stands next, which is then taken. -/
def skipSign (sign : Sign) : Parser Bool := do
  match ← peek with
  | some (.sign next) => if next = sign then do let _ ← take; return true else return false
  | _ => return false

/-- Whether a word stands next, which is then taken. -/
def skipWord (word : Text) : Parser Bool := do
  match ← peek with
  | some (.word next) => if next = word then do let _ ← take; return true else return false
  | _ => return false

/-- A sign has to stand next. -/
def expectSign (sign : Sign) : Parser Unit := do
  match (← take).token with
  | .sign next => if next = sign then return () else fail
  | _ => fail

/-- A certain word has to stand next. -/
def expectWord (word : Text) : Parser Unit := do
  match (← take).token with
  | .word next => if next = word then return () else fail
  | _ => fail

/-- Some word has to stand next. -/
def expectName : Parser Text := do
  match (← take).token with
  | .word name => return name
  | _ => fail

/-- The end of a block tag has to stand next. -/
def expectBlockEnd : Parser Unit := do
  match (← take).token with
  | .blockEnd => return ()
  | _ => fail

/-- The end of a variable tag has to stand next. -/
def expectVariableEnd : Parser Unit := do
  match (← take).token with
  | .variableEnd => return ()
  | _ => fail

/-- Whether one of some words stands next, which is then taken. -/
def skipWords (words : List Text) : Parser Bool := do
  match ← peek with
  | some (.word next) => if next ∈ words then do let _ ← take; return true else return false
  | _ => return false

/-- Whether the end of a block tag stands next, which is not taken. -/
def atBlockEnd : Parser Bool := do
  match ← peek with
  | some .blockEnd => return true
  | _ => return false

end Parser

end Codebook.Template
