import Codebook.Template.Parser.Statement

/-!
# Reading a template

A template is taken apart into lexemes, and these are put together to statements.

Every statement, expression, filter, test and function is read that the template language has
without being asked for more. Left out are the parts of it that have to be switched on: `break` and
`continue`, statements on lines of their own and other delimiters than the three pairs of the lexer.
They are syntax errors here.
-/

namespace Codebook.Template

/-- The statements of a template, or the line of its syntax error. -/
def parse (text : Text) : Except SyntaxFault (List Stmt) :=
  let lexemes := lexemes text
  (Parser.template.run ⟨lexemes, 1, lexemes.length, [], false⟩).map (·.1)

end Codebook.Template
