import Codebook.Template.Filter
import Codebook.Template.Folding
import Codebook.Template.Overview
import Codebook.Template.Problem

/-!
# Values of expressions

The value of an expression, by recursion on what was written. What an expression may run besides,
the bodies of macros, blocks and loops that are called, is run by an `Executor`, which evaluation
takes as an argument.

Arguments with names are evaluated behind all others and are passed as one map.
-/

namespace Codebook.Template

/-- Runs statements at a place, and gives the text that they show. -/
abbrev Executor := Env → Scope → List Stmt → Eval Text

/-! ## Operations -/

/-- The items that an argument stands for whose items are arguments. -/
def Value.spreadItems (value : Value) : Except Problem (List Value) :=
  match value.items? with
  | some items => .ok items
  | none => .error (.notIterable value.kind)

/-- The entries that an argument stands for whose entries are arguments. -/
def Value.spreadEntries? (value : Value) : Except Problem (List (Value × Value)) :=
  match value.entries? with
  | some entries => .ok entries
  | none =>
    .error (.refused ("attempted to apply keyword arguments from non map (got ".toList ++
      value.kind.name ++ [')']))

/-- The values of arguments: those without names, and behind them a map of those with names, if
there are any. -/
def passed (arguments : List (Passing × Expr)) (positional : Eval (List Value))
    (named : Eval (List (Value × Value))) : Eval (List Value) := do
  let values ← positional
  if arguments.any (·.1.isNamed) then do
    let entries ← named
    return values ++ [.map .keywords (entriesOf entries)]
  else return values

/-! ## Calls -/

/-- The values that the parameters of a macro get, which may be undefined. -/
def parameterValues (given : Given) : Nat → List Text → Except Problem (List (Text × Value))
  | _, [] => .ok []
  | place, name :: rest => do
    let value ←
      match given.positional[place]?, given.keyword? name with
      | some _, some _ => throw (.argumentTwice name)
      | some value, none => pure value
      | none, some value => pure value
      | none, none => pure .undefined
    return (name, value) :: (← parameterValues given (place + 1) rest)

/-- The arguments of a macro by the names of its parameters. -/
def RoutineHead.take (head : RoutineHead) (arguments : List Value) :
    Except Problem (List (Text × Value)) := do
  let given := Given.of arguments
  noMoreThan head.parameters.length given.positional
  let values ← parameterValues given 0 head.parameters
  given.onlyNamed (head.parameters ++ if head.asksCaller then [callerName] else [])
  return if head.asksCaller then
      values ++ [(callerName, (given.keyword? callerName).getD .undefined)]
    else values

/-- What a macro does before its body: its parameters get their values, the last one first. -/
def parameterBindings (line : Nat) (values : List (Text × Value)) (parameters : List Parameter) :
    List Stmt :=
  parameters.reverse.map fun (name, default?) =>
    let value := (values.lookup name).getD .undefined
    .assign (.variable name)
      (match default? with
      | some default => if value.isUndefined then default else .constant value line
      | none => .constant value line)

/-- How many frames the call of a macro takes. -/
def routineFrames : Nat := 4

/-- The value of a call of a macro. -/
def callRoutine (exec : Executor) (env : Env) (scope : Scope) (line : Nat) (head : RoutineHead)
    (arguments : List Value) : Eval Value := do
  let values ← onLine line (head.take arguments)
  match (← get).routines[head.place]? with
  | none => failOn line (.notCallable .object)
  | some routine => do
    let inner : Env := { env with
      blocks := [], block := none, outer := env.depth scope + routineFrames, templates := [] }
    let frame : Frame := { Frame.empty with
      locals := values.filter (·.1 == callerName), backing := .cell routine.closure }
    inner.roomFor [frame, .outermost] line
    let text ← exec inner [frame, .outermost]
      (parameterBindings line values routine.parameters ++ routine.body)
    return captured env.escape text

/-- The value of a call of a built-in function. -/
def callBuiltin (env : Env) (scope : Scope) (line : Nat) (b : Builtin) (arguments : List Value) :
    Eval Value :=
  match b with
  | .range => onLine line (callRange arguments)
  | .dict => onLine line (callDict arguments)
  | .newNamespace => do
    let entries ← onLine line (namespaceEntries arguments)
    let cell ← newCell entries
    return .map (.shared cell) (namedEntries entries)
  | .debug => do
    let store ← get
    return .text (match arguments with
      | [] => env.overview store scope
      | [value] => value.spreadText 0
      | values => (Value.list values).spreadText 0)

/-- The value of a call. -/
def callValue (exec : Executor) (env : Env) (scope : Scope) (line : Nat) (arguments : List Value) :
    Value → Eval Value
  | .function f => onLine line (f.apply env.context arguments)
  | .builtin b => callBuiltin env scope line b arguments
  | .routine head => callRoutine exec env scope line head arguments
  | .loop _ _ _ => failOn line .loopCalled
  | value => failOn line (.notCallable value.kind)

/-- The value of a call of the loop around a place: what it shows for other items. -/
def callLoop (exec : Executor) (env : Env) (scope : Scope) (line : Nat) (arguments : List Value) :
    Eval Value :=
  match arguments with
  | [items] =>
    match scope.turn? with
    | none => failOn line .loopOutsideLoop
    | some turn =>
      match turn.recursion with
      | none => failOn line .loopInsideLoop
      | some ⟨target, body⟩ => do
        let text ← exec env scope [.loop target (.constant items line) none true body []]
        return captured env.escape text
  | _ => failOn line .loopArguments

/-- The name of the block that the one around a place stands in for. -/
def superName : Text := "super".toList

/-- A call of the block that the one around a place stands in for: there is none. -/
def callSuper (env : Env) (line : Nat) (arguments : List Value) : Eval Value :=
  failOn line (.refused
    (if !arguments.isEmpty then "super() takes no arguments".toList
    else if env.block.isNone then "cannot super outside of block".toList
    else "no parent block exists".toList))

/-- The value of a call by name. -/
def callNamed (exec : Executor) (env : Env) (scope : Scope) (line : Nat) (name : Text)
    (arguments : List Value) : Eval Value := do
  if name = superName then callSuper env line arguments
  else if name = loopName then callLoop exec env scope line arguments
  else
    match scope.value? env.context (← get) name with
    | some value => callValue exec env scope line arguments value
    | none => failOn line (.unknownFunction name)

/-- Whether the arguments differ from those that the loop was asked about the last time. -/
def askLoop (state : LoopState) (arguments : List Value) : Eval Value := do
  let before := (← get).memories.lookup state.memory
  if before.any (Value.allEqual arguments) then return .boolean false
  modify (·.withMemory state.memory arguments)
  return .boolean true

/-- The value of a call of a method of a loop. -/
def callLoopMethod (line : Nat) (state : LoopState) (name : Text) (arguments : List Value) :
    Eval Value :=
  if name = "changed".toList then askLoop state arguments
  else if name = "cycle".toList then
    pure ((arguments[state.index % arguments.length]?).getD .undefined)
  else failOn line (.unknownMethod "loop object".toList name)

/-- The value of a call of what an attribute stands for. -/
def callMethodOf (exec : Executor) (env : Env) (scope : Scope) (line : Nat) (owner : Value)
    (name : Text) (arguments : List Value) : Eval Value :=
  match owner with
  | .loop state _ _ => callLoopMethod line state name arguments
  | .map _ _ | .routine _ =>
    match owner.lookup? (.text name) with
    | some value => callValue exec env scope line arguments value
    | none => failOn line (.unknownMethod owner.kind.name name)
  | _ => failOn line (.unknownMethod owner.kind.name name)

/-- What a block shows. -/
def callBlockNamed (exec : Executor) (env : Env) (scope : Scope) (line : Nat) (name : Text) :
    Eval Value :=
  match env.blocks.lookup name with
  | none => failOn line (.unknownBlock name)
  | some body => do
    env.roomFor scope line
    let text ← exec { env with block := name } (.empty :: scope) body
    return captured env.escape text

/-! ## Expressions -/

section Expressions

variable (exec : Executor) (env : Env) (scope : Scope)

mutual

/-- The value of an expression. -/
def Expr.eval : Expr → Eval Value
  | .constant value _ => pure value
  | .variable name _ => env.lookup scope name
  | .list items _ => do
    let values ← Expr.evalAll items
    return .list values
  | .map entries _ => do
    let values ← Expr.evalEntries entries
    return .map .plain (entriesOf values)
  | .operation op left right _ => do
    let a ← left.eval
    let b ← right.eval
    onLine right.endLine (op.apply a b)
  | .comparison first links _ => do
    let a ← first.eval
    let holds ← Expr.evalLinks a links
    return .boolean holds
  | .conjunction left right _ => do
    let a ← left.eval
    if ← onLine left.endLine a.test then right.eval else return a
  | .disjunction left right _ => do
    let a ← left.eval
    if ← onLine left.endLine a.test then return a else right.eval
  | .complement operand _ => do
    let a ← operand.eval
    let holds ← onLine operand.endLine a.test
    return .boolean !holds
  | .negation operand line => do
    let a ← operand.eval
    onLine line a.negate
  | .choice condition yes no => do
    let a ← condition.eval
    if ← onLine condition.endLine a.test then yes.eval else no.eval
  | .option condition yes => do
    let a ← condition.eval
    if ← onLine condition.endLine a.test then yes.eval else return .nothing
  | .attribute parent name => do
    let a ← parent.eval
    onLine parent.endLine (a.attribute name)
  | .item parent index => do
    let a ← parent.eval
    let i ← index.eval
    onLine index.endLine (a.item i)
  | .slice parent start stop step => do
    let a ← parent.eval
    let first ← Expr.evalOption start
    let last ← Expr.evalOption stop
    let distance ← Expr.evalOption step
    onLine (Expr.slice parent start stop step).endLine (a.slice first last distance)
  | .callName name arguments line => do
    let values ← passed arguments (Expr.evalPositional arguments) (Expr.evalNamed arguments)
    callNamed exec env scope (Expr.endLineOfPassed line arguments) name values
  | .callMethod parent name arguments => do
    let owner ← parent.eval
    let values ← passed arguments (Expr.evalPositional arguments) (Expr.evalNamed arguments)
    let line := Expr.endLineOfPassed parent.endLine arguments
    callMethodOf exec env scope line owner name values
  | .callBlock name line => callBlockNamed exec env scope line name
  | .call callee arguments => do
    let f ← callee.eval
    let values ← passed arguments (Expr.evalPositional arguments) (Expr.evalNamed arguments)
    callValue exec env scope (Expr.endLineOfPassed callee.endLine arguments) values f
  | .filter operand name arguments => do
    let a ← operand.eval
    let values ← passed arguments (Expr.evalPositional arguments) (Expr.evalNamed arguments)
    onLine (Expr.endLineOfPassed operand.endLine arguments) (applyFilter values name a)
  | .test operand name arguments => do
    let a ← operand.eval
    let values ← passed arguments (Expr.evalPositional arguments) (Expr.evalNamed arguments)
    let holds ← onLine (Expr.endLineOfPassed operand.endLine arguments) (applyTest name a values)
    return .boolean holds

/-- The value of an expression; nothing if there is none. -/
def Expr.evalOption : Option Expr → Eval Value
  | none => pure .null
  | some e => e.eval

/-- The values of some expressions, from the left. -/
def Expr.evalAll : List Expr → Eval (List Value)
  | [] => pure []
  | first :: rest => do
    let value ← first.eval
    let values ← Expr.evalAll rest
    return value :: values

/-- The keys and the values of some entries, from the left. -/
def Expr.evalEntries : List (Expr × Expr) → Eval (List (Value × Value))
  | [] => pure []
  | (key, value) :: rest => do
    let k ← key.eval
    let v ← value.eval
    let entries ← Expr.evalEntries rest
    return (k, v) :: entries

/-- Whether the links of a comparison hold behind a value, up to the first that does not. -/
def Expr.evalLinks (a : Value) : List (Comparison × Expr) → Eval Bool
  | [] => pure true
  | (op, operand) :: rest => do
    let b ← operand.eval
    if ← onLine operand.endLine (op.apply a b) then Expr.evalLinks b rest else return false

/-- The values of the arguments without names, from the left. -/
def Expr.evalPositional : List (Passing × Expr) → Eval (List Value)
  | [] => pure []
  | (.positional, argument) :: rest => do
    let value ← argument.eval
    let values ← Expr.evalPositional rest
    return value :: values
  | (.spread, argument) :: rest => do
    let value ← argument.eval
    let items ← onLine argument.endLine value.spreadItems
    let values ← Expr.evalPositional rest
    return items ++ values
  | _ :: rest => Expr.evalPositional rest

/-- The values of the arguments with names, from the left. -/
def Expr.evalNamed : List (Passing × Expr) → Eval (List (Value × Value))
  | [] => pure []
  | (.named name, argument) :: rest => do
    let value ← argument.eval
    let entries ← Expr.evalNamed rest
    return (.text name, value) :: entries
  | (.spreadNamed, argument) :: rest => do
    let value ← argument.eval
    let entries ← onLine argument.endLine value.spreadEntries?
    let more ← Expr.evalNamed rest
    return entries ++ more
  | _ :: rest => Expr.evalNamed rest

end

end Expressions

end Codebook.Template
