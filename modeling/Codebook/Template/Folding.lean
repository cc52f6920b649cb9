import Codebook.Template.Items
import Codebook.Template.Tree

/-!
# Constant expressions

What an expression says without any names is worked out before rendering starts: `Expr.fold` puts a
constant in its place, on the line where the expression starts. An operation that fails is left as
it is, so that the failure comes when it is reached. A list or a map is a constant if nothing but
constants has been written in it.

A conjunction of constants is `False` where one of them is false. One that is worked out later is
the operand that decided it.
-/

namespace Codebook.Template

/-- The value that an expression writes down. -/
def Expr.constant? : Expr → Option Value
  | .constant value _ => some value
  | _ => none

/-- The value of an operation. -/
def Operation.apply (op : Operation) (a b : Value) : Except Problem Value :=
  match op with
  | .arithmetic op => op.apply a b
  | .concat => do
    let a ← a.defined
    let b ← b.defined
    return .text (a.toText ++ b.toText)

/-- The value of the conjunction of two constants. -/
def Value.both (a b : Value) : Value := if a.isTrue && b.isTrue then b else .boolean false

/-- The value of the disjunction of two constants. -/
def Value.either (a b : Value) : Value := if a.isTrue then a else b

/-- The constant that a value makes of an expression, if there is one. -/
def Expr.orConstant (e : Expr) (line : Nat) : Option Value → Expr
  | some value => .constant value line
  | none => e

/-- The entries of a map in which nothing but constants has been written. -/
def constantEntries? (entries : List (Expr × Expr)) : Option (List (Value × Value)) :=
  entries.mapM fun (key, value) => do return (← key.constant?, ← value.constant?)

mutual

/-- The expression with constants for what can be worked out without names. -/
def Expr.fold : Expr → Expr
  | .constant value line => .constant value line
  | .variable name line => .variable name line
  | .list items line =>
    (Expr.list (Expr.foldAll items) line).orConstant line
      ((items.mapM Expr.constant?).map Value.list)
  | .map entries line =>
    (Expr.map (Expr.foldEntries entries) line).orConstant line
      ((constantEntries? entries).map fun entries => .map .plain (entriesOf entries))
  | .operation op left right line =>
    let left := left.fold
    let right := right.fold
    (Expr.operation op left right line).orConstant line (do
      let a ← left.constant?
      let b ← right.constant?
      (op.apply a b).toOption)
  | .comparison first links line =>
    let first := first.fold
    let links := Expr.foldLinks links
    (Expr.comparison first links line).orConstant line (do
      let a ← first.constant?
      match links with
      | [(op, right)] =>
        let b ← right.constant?
        (op.apply a b).toOption.map Value.boolean
      | _ => none)
  | .conjunction left right line =>
    let left := left.fold
    let right := right.fold
    (Expr.conjunction left right line).orConstant line (do
      let a ← left.constant?
      let b ← right.constant?
      return a.both b)
  | .disjunction left right line =>
    let left := left.fold
    let right := right.fold
    (Expr.disjunction left right line).orConstant line (do
      let a ← left.constant?
      let b ← right.constant?
      return a.either b)
  | .complement operand line =>
    let operand := operand.fold
    (Expr.complement operand line).orConstant line
      (operand.constant?.map fun a => .boolean !a.isTrue)
  | .negation operand line =>
    let operand := operand.fold
    (Expr.negation operand line).orConstant line
      (operand.constant?.bind fun a => a.negate.toOption)
  | .choice condition yes no => .choice condition.fold yes.fold no.fold
  | .option condition yes => .option condition.fold yes.fold
  | .attribute parent name => .attribute parent.fold name
  | .item parent index => .item parent.fold index.fold
  | .slice parent start stop step =>
    .slice parent.fold (Expr.foldOption start) (Expr.foldOption stop) (Expr.foldOption step)
  | .callName name arguments line => .callName name (Expr.foldPassed arguments) line
  | .callMethod parent name arguments => .callMethod parent.fold name (Expr.foldPassed arguments)
  | .callBlock name line => .callBlock name line
  | .call callee arguments => .call callee.fold (Expr.foldPassed arguments)
  | .filter operand name arguments => .filter operand.fold name (Expr.foldPassed arguments)
  | .test operand name arguments => .test operand.fold name (Expr.foldPassed arguments)

/-- The expression with constants for what can be worked out, if there is an expression. -/
def Expr.foldOption : Option Expr → Option Expr
  | none => none
  | some e => some e.fold

/-- Some expressions with constants for what can be worked out without names. -/
def Expr.foldAll : List Expr → List Expr
  | [] => []
  | first :: rest => first.fold :: Expr.foldAll rest

/-- The entries of a map with constants for what can be worked out without names. -/
def Expr.foldEntries : List (Expr × Expr) → List (Expr × Expr)
  | [] => []
  | (key, value) :: rest => (key.fold, value.fold) :: Expr.foldEntries rest

/-- Arguments with constants for what can be worked out without names. -/
def Expr.foldPassed : List (Passing × Expr) → List (Passing × Expr)
  | [] => []
  | (passing, argument) :: rest => (passing, argument.fold) :: Expr.foldPassed rest

/-- The links of a comparison with constants for what can be worked out without names. -/
def Expr.foldLinks : List (Comparison × Expr) → List (Comparison × Expr)
  | [] => []
  | (op, operand) :: rest => (op, operand.fold) :: Expr.foldLinks rest

end

/-- Filters with constants for what can be worked out without names. -/
def foldFilters (filters : List FilterCall) : List FilterCall :=
  filters.map fun (name, arguments) => (name, Expr.foldPassed arguments)

/-- Parameters with constants for what can be worked out without names. -/
def foldParameters (parameters : List Parameter) : List Parameter :=
  parameters.map fun (name, default) => (name, Expr.foldOption default)

mutual

/-- The target with constants for what can be worked out without names. -/
def Target.fold : Target → Target
  | .variable x => .variable x
  | .tuple targets line => .tuple (Target.foldAll targets) line
  | .field parent name => .field parent.fold name

/-- Some targets with constants for what can be worked out without names. -/
def Target.foldAll : List Target → List Target
  | [] => []
  | first :: rest => first.fold :: Target.foldAll rest

end

mutual

/-- The statement with constants for what can be worked out without names. -/
def Stmt.fold : Stmt → Stmt
  | .data text => .data text
  | .emit value => .emit value.fold
  | .assign target value => .assign target.fold value.fold
  | .capture target filters line body =>
    .capture target.fold (foldFilters filters) line (Stmt.foldAll body)
  | .branch condition yes no => .branch condition.fold (Stmt.foldAll yes) (Stmt.foldAll no)
  | .loop target source condition recursive body otherwise =>
    .loop target.fold source.fold (Expr.foldOption condition) recursive (Stmt.foldAll body)
      (Stmt.foldAll otherwise)
  | .bind bindings line body =>
    .bind (bindings.map fun (target, value) => (target.fold, value.fold)) line (Stmt.foldAll body)
  | .filtered filters line body => .filtered (foldFilters filters) line (Stmt.foldAll body)
  | .escape mode body => .escape mode.fold (Stmt.foldAll body)
  | .declare name parameters body =>
    .declare name (foldParameters parameters) (Stmt.foldAll body)
  | .callWith call parameters line body =>
    .callWith call.fold (foldParameters parameters) line (Stmt.foldAll body)
  | .perform call => .perform call.fold
  | .block name line body => .block name line (Stmt.foldAll body)
  | .extend name => .extend name.fold
  | .embed name mayBeMissing => .embed name.fold mayBeMissing

/-- Some statements with constants for what can be worked out without names. -/
def Stmt.foldAll : List Stmt → List Stmt
  | [] => []
  | first :: rest => first.fold :: Stmt.foldAll rest

end

end Codebook.Template
