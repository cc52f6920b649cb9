import Codebook.Proofs.Template.Naming.Expression
import Codebook.Template.Parser

/-!
# What a template names

Statements are put together from expressions, targets and further statements, and none of these
names anything that is no word of the template: a template without the name of a function has no
statement that names it.
-/

namespace Codebook.Template

namespace Parser

variable {f : Function} {α : Type} {P : α → Prop}

/-! ## Targets -/

section Statements

variable {inner : Inner} {value condition : Parser Expr} {body : Body} {depth : Nat}

/-- The body of a statement names nothing that the lexemes do not name. -/
def Body.Keeps (f : Function) (body : Body) : Prop :=
  ∀ stops, Parser.Keeps f (Stmt.AllLack f) (body stops)

end Statements

end Parser

end Codebook.Template
