import Codebook.Template.Value

/-!
# Expressions and statements of a template

What a template says once it has been read. An expression keeps the line that it starts on wherever
a failure may be reported there: `Expr.endLine` finds the line that evaluation has come to behind an
expression, which is where a failure of whatever uses its value is reported.

`Stmt.free` are the names that a statement takes from outside. A macro encloses the values that
such names of its body have where it is declared.
-/

namespace Codebook.Template

/-- The operations on two numbers, texts or lists. -/
inductive Arithmetic where
  | add
  | subtract
  | multiply
  | divide
  | floorDivide
  | remainder
  | power
  deriving DecidableEq, Repr

/-- An operation that takes the values of both its sides and gives a new one. -/
inductive Operation where
  | arithmetic (op : Arithmetic)
  /-- The texts of both sides, one behind the other. -/
  | concat
  deriving DecidableEq, Repr

/-- The comparisons of two values. -/
inductive Comparison where
  | equal
  | notEqual
  | less
  | lessEqual
  | greater
  | greaterEqual
  /-- The right side holds the left. -/
  | contained
  | notContained
  deriving DecidableEq, Repr

/-- How an argument is passed. -/
inductive Passing where
  | positional
  /-- The items of a list, each as an argument. -/
  | spread
  | named (name : Text)
  /-- The entries of a map, each as an argument with a name. -/
  | spreadNamed
  deriving DecidableEq, Repr

/-- Whether an argument comes with a name. These are evaluated behind the others. -/
def Passing.isNamed : Passing → Bool
  | .positional | .spread => false
  | .named _ | .spreadNamed => true

/-- An expression. -/
inductive Expr where
  | constant (value : Value) (line : Nat)
  | variable (name : Text) (line : Nat)
  | list (items : List Expr) (line : Nat)
  | map (entries : List (Expr × Expr)) (line : Nat)
  | operation (op : Operation) (left right : Expr) (line : Nat)
  /-- Each link holds between the value before it and its own. -/
  | comparison (first : Expr) (links : List (Comparison × Expr)) (line : Nat)
  | conjunction (left right : Expr) (line : Nat)
  | disjunction (left right : Expr) (line : Nat)
  | complement (operand : Expr) (line : Nat)
  | negation (operand : Expr) (line : Nat)
  /-- `yes` if `condition` holds, else `no`. -/
  | choice (condition yes no : Expr)
  /-- `yes` if `condition` holds, else nothing. -/
  | option (condition yes : Expr)
  | attribute (parent : Expr) (name : Text)
  | item (parent index : Expr)
  /-- Some of the items, each so many places behind the one before it. -/
  | slice (parent : Expr) (start stop step : Option Expr)
  /-- A call of what has a name. -/
  | callName (name : Text) (arguments : List (Passing × Expr)) (line : Nat)
  /-- A call of what an attribute stands for. -/
  | callMethod (parent : Expr) (name : Text) (arguments : List (Passing × Expr))
  /-- What the block with a name shows. -/
  | callBlock (name : Text) (line : Nat)
  /-- Any other call. -/
  | call (callee : Expr) (arguments : List (Passing × Expr))
  | filter (operand : Expr) (name : Text) (arguments : List (Passing × Expr))
  | test (operand : Expr) (name : Text) (arguments : List (Passing × Expr))

/-- A filter with its arguments. -/
abbrev FilterCall := Text × List (Passing × Expr)

/-- A parameter of a macro, with what it is where no argument is given for it. -/
abbrev Parameter := Text × Option Expr

/-- What a value is assigned to. -/
inductive Target where
  | variable (name : Text)
  /-- The items of a list, each to a target of its own. -/
  | tuple (targets : List Target) (line : Nat)
  /-- A name in a namespace. -/
  | field (parent : Expr) (name : Text)

/-- A statement: a piece of a template. -/
inductive Stmt where
  /-- Text that is shown as it stands. -/
  | data (text : Text)
  /-- The text of a value. -/
  | emit (value : Expr)
  | assign (target : Target) (value : Expr)
  /-- What `body` shows, after the filters, is assigned. -/
  | capture (target : Target) (filters : List FilterCall) (line : Nat) (body : List Stmt)
  | branch (condition : Expr) (yes no : List Stmt)
  /-- `body` for each item of `source` that `condition` holds of, or `otherwise` if there is
  none. -/
  | loop (target : Target) (source : Expr) (condition : Option Expr) (recursive : Bool)
      (body otherwise : List Stmt)
  /-- `body`, in which the targets have the values. -/
  | bind (bindings : List (Target × Expr)) (line : Nat) (body : List Stmt)
  /-- What `body` shows, after the filters. -/
  | filtered (filters : List FilterCall) (line : Nat) (body : List Stmt)
  /-- `body`, in which texts are escaped as `mode` says. -/
  | escape (mode : Expr) (body : List Stmt)
  /-- The declaration of a macro. -/
  | declare (name : Text) (parameters : List Parameter) (body : List Stmt)
  /-- A call to which `body` is given as a macro with the name `caller`. -/
  | callWith (call : Expr) (parameters : List Parameter) (line : Nat) (body : List Stmt)
  /-- A call that shows nothing. -/
  | perform (call : Expr)
  /-- A part of the template with a name. -/
  | block (name : Text) (line : Nat) (body : List Stmt)
  /-- The template that this one goes on from. -/
  | extend (name : Expr)
  /-- Another template in this place, or what another template declares. -/
  | embed (name : Expr) (mayBeMissing : Bool)

/-! ## Lines -/

mutual

/-- The line that evaluation has come to behind an expression: that of the part that is evaluated
last. -/
def Expr.endLine : Expr → Nat
  | .constant _ line => line
  | .variable _ line => line
  | .list items line => Expr.endLineOfAll line items
  | .map entries line => Expr.endLineOfEntries line entries
  | .operation _ _ right _ => right.endLine
  | .comparison first links _ => Expr.endLineOfLinks first.endLine links
  | .conjunction _ right _ => right.endLine
  | .disjunction _ right _ => right.endLine
  | .complement operand _ => operand.endLine
  | .negation operand _ => operand.endLine
  | .choice _ _ no => no.endLine
  | .option _ yes => yes.endLine
  | .attribute parent _ => parent.endLine
  | .item _ index => index.endLine
  | .slice parent start stop step =>
    Expr.endLineOf (Expr.endLineOf (Expr.endLineOf parent.endLine start) stop) step
  | .callName _ arguments line => Expr.endLineOfPassed line arguments
  | .callMethod parent _ arguments => Expr.endLineOfPassed parent.endLine arguments
  | .callBlock _ line => line
  | .call callee arguments => Expr.endLineOfPassed callee.endLine arguments
  | .filter operand _ arguments => Expr.endLineOfPassed operand.endLine arguments
  | .test operand _ arguments => Expr.endLineOfPassed operand.endLine arguments

/-- The line behind an expression that may not be there, from `line` on. -/
def Expr.endLineOf (line : Nat) : Option Expr → Nat
  | none => line
  | some e => e.endLine

/-- The line behind expressions that are evaluated one after another, from `line` on. -/
def Expr.endLineOfAll (line : Nat) : List Expr → Nat
  | [] => line
  | first :: rest => Expr.endLineOfAll first.endLine rest

/-- The line behind the entries of a map, from `line` on. -/
def Expr.endLineOfEntries (line : Nat) : List (Expr × Expr) → Nat
  | [] => line
  | (_, value) :: rest => Expr.endLineOfEntries value.endLine rest

/-- The line behind the links of a comparison, from `line` on. -/
def Expr.endLineOfLinks (line : Nat) : List (Comparison × Expr) → Nat
  | [] => line
  | (_, operand) :: rest => Expr.endLineOfLinks operand.endLine rest

/-- The line behind arguments, from `line` on. -/
def Expr.endLineOfPassed (line : Nat) : List (Passing × Expr) → Nat
  | [] => line
  | (_, argument) :: rest => Expr.endLineOfPassed argument.endLine rest

end

/-! ## Names -/

mutual

/-- The names in an expression. -/
def Expr.names : Expr → List Text
  | .constant _ _ => []
  | .variable x _ => [x]
  | .list items _ => Expr.namesOfAll items
  | .map entries _ => Expr.namesOfEntries entries
  | .operation _ left right _ => left.names ++ right.names
  | .comparison first links _ => first.names ++ Expr.namesOfLinks links
  | .conjunction left right _ => left.names ++ right.names
  | .disjunction left right _ => left.names ++ right.names
  | .complement operand _ => operand.names
  | .negation operand _ => operand.names
  | .choice condition yes no => condition.names ++ yes.names ++ no.names
  | .option condition yes => condition.names ++ yes.names
  | .attribute parent _ => parent.names
  | .item parent index => parent.names ++ index.names
  | .slice parent start stop step =>
    parent.names ++ Expr.namesOf start ++ Expr.namesOf stop ++ Expr.namesOf step
  | .callName x arguments _ => x :: Expr.namesOfPassed arguments
  | .callMethod parent _ arguments => parent.names ++ Expr.namesOfPassed arguments
  | .callBlock _ _ => []
  | .call callee arguments => callee.names ++ Expr.namesOfPassed arguments
  | .filter operand _ arguments => operand.names ++ Expr.namesOfPassed arguments
  | .test operand _ arguments => operand.names ++ Expr.namesOfPassed arguments

/-- The names in an expression that may not be there. -/
def Expr.namesOf : Option Expr → List Text
  | none => []
  | some e => e.names

/-- The names in some expressions. -/
def Expr.namesOfAll : List Expr → List Text
  | [] => []
  | first :: rest => first.names ++ Expr.namesOfAll rest

/-- The names in the entries of a map. -/
def Expr.namesOfEntries : List (Expr × Expr) → List Text
  | [] => []
  | (key, value) :: rest => key.names ++ value.names ++ Expr.namesOfEntries rest

/-- The names in the links of a comparison. -/
def Expr.namesOfLinks : List (Comparison × Expr) → List Text
  | [] => []
  | (_, operand) :: rest => operand.names ++ Expr.namesOfLinks rest

/-- The names in arguments. -/
def Expr.namesOfPassed : List (Passing × Expr) → List Text
  | [] => []
  | (_, argument) :: rest => argument.names ++ Expr.namesOfPassed rest

end

/-- The names in the arguments of filters. -/
def namesOfFilters (filters : List FilterCall) : List Text :=
  filters.flatMap fun filter => Expr.namesOfPassed filter.2

mutual

/-- The names that get a value. -/
def Target.assigned : Target → List Text
  | .variable x => [x]
  | .tuple targets _ => Target.assignedByAll targets
  | .field _ _ => []

/-- The names that get a value by some targets. -/
def Target.assignedByAll : List Target → List Text
  | [] => []
  | first :: rest => first.assigned ++ Target.assignedByAll rest

end

mutual

/-- The names that are needed to assign to a target. -/
def Target.names : Target → List Text
  | .variable _ => []
  | .tuple targets _ => Target.namesOfAll targets
  | .field parent _ => parent.names

/-- The names that are needed to assign to some targets. -/
def Target.namesOfAll : List Target → List Text
  | [] => []
  | first :: rest => first.names ++ Target.namesOfAll rest

end

/-- The names that are not among those that have a value. -/
def notIn (known names : List Text) : List Text := names.filter (· ∉ known)

/-- The names that bindings take from outside, and those that have a value behind them. Each target
has its value before the expression for it is looked at. -/
def freeOfBindings (known : List Text) : List (Target × Expr) → List Text × List Text
  | [] => ([], known)
  | (target, value) :: rest =>
    let known := target.assigned ++ known
    let (free, last) := freeOfBindings known rest
    (notIn known (target.names ++ value.names) ++ free, last)

/-- The names that the defaults of parameters take from outside. -/
def freeOfParameters (known : List Text) (parameters : List Parameter) : List Text :=
  notIn known (parameters.flatMap fun parameter => Expr.namesOf parameter.2)

mutual

/-- The names that a statement takes from outside, where `known` have a value, and the names that
have one behind it. -/
def Stmt.free (known : List Text) : Stmt → List Text × List Text
  | .data _ => ([], known)
  | .emit value => (notIn known value.names, known)
  | .assign target value =>
    let known := target.assigned ++ known
    (notIn known (target.names ++ value.names), known)
  | .capture target filters _ body =>
    let known := target.assigned ++ known
    (notIn known (target.names ++ namesOfFilters filters) ++ (Stmt.freeOfAll known body).1, known)
  | .branch condition yes no =>
    (notIn known condition.names ++ (Stmt.freeOfAll known yes).1 ++ (Stmt.freeOfAll known no).1,
      known)
  | .loop target source condition _ body otherwise =>
    let inner := target.assigned ++ "loop".toList :: known
    (notIn ("loop".toList :: known) source.names ++
      notIn inner (target.names ++ Expr.namesOf condition) ++ (Stmt.freeOfAll inner body).1 ++
      (Stmt.freeOfAll known otherwise).1, known)
  | .bind bindings _ body =>
    let (free, inner) := freeOfBindings known bindings
    (free ++ (Stmt.freeOfAll inner body).1, known)
  | .filtered filters _ body =>
    (notIn known (namesOfFilters filters) ++ (Stmt.freeOfAll known body).1, known)
  | .escape mode body => (notIn known mode.names ++ (Stmt.freeOfAll known body).1, known)
  | .declare name parameters body =>
    let known := name :: known
    let inner := parameters.map Prod.fst ++ "caller".toList :: known
    (freeOfParameters inner parameters ++ (Stmt.freeOfAll inner body).1, known)
  | .callWith call parameters _ body =>
    let inner := parameters.map Prod.fst ++ "caller".toList :: known
    (notIn known call.names ++ freeOfParameters inner parameters ++
      (Stmt.freeOfAll inner body).1, known)
  | .perform call => (notIn known call.names, known)
  | .block _ _ body => ((Stmt.freeOfAll ("super".toList :: known) body).1, known)
  | .extend name => (notIn known name.names, known)
  | .embed name _ => (notIn known name.names, known)

/-- The names that some statements take from outside, and the names that have a value behind
them. -/
def Stmt.freeOfAll (known : List Text) : List Stmt → List Text × List Text
  | [] => ([], known)
  | first :: rest =>
    let (free, known) := first.free known
    let (more, known) := Stmt.freeOfAll known rest
    (free ++ more, known)

end

/-- The names that a macro takes from outside. -/
def freeOfRoutine (parameters : List Parameter) (body : List Stmt) : List Text :=
  let known := parameters.map Prod.fst
  freeOfParameters known parameters ++ (Stmt.freeOfAll known body).1

/-! ## Blocks -/

mutual

/-- The blocks in a statement, with their names. -/
def Stmt.blocks : Stmt → List (Text × List Stmt)
  | .block name _ body => (name, body) :: Stmt.blocksOfAll body
  | .capture _ _ _ body | .bind _ _ body | .filtered _ _ body | .escape _ body =>
    Stmt.blocksOfAll body
  | .branch _ yes no => Stmt.blocksOfAll yes ++ Stmt.blocksOfAll no
  | .loop _ _ _ _ body otherwise => Stmt.blocksOfAll body ++ Stmt.blocksOfAll otherwise
  | _ => []

/-- The blocks in some statements, with their names. -/
def Stmt.blocksOfAll : List Stmt → List (Text × List Stmt)
  | [] => []
  | first :: rest => first.blocks ++ Stmt.blocksOfAll rest

end

end Codebook.Template
