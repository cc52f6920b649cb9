import Codebook.Template.Evaluation
import Codebook.Template.Parser

/-!
# Rendering

The text of a statement, by recursion on what was written. Rendering either gives the whole text or
the first problem with its line; nothing is shown of a template that fails.

A statement changes the innermost frame at most: what it hands on is that frame.

The bodies of macros, blocks and loops that are called are run by an executor, which is built level
by level: on each, what is called is run by the level below. Every call is inside a frame more than
the place that it is called from, so the limit on frames is met before the levels are used up.

There is only the one template. `include`, `import` and `extends` are evaluated up to the search for
another one, which finds nothing.
-/

namespace Codebook.Template

/-! ## Assignments -/

/-- The items of a value for so many targets. -/
def Value.unpacked (value : Value) (count : Nat) : Except Problem (List Value) :=
  match value.members? with
  | none => .error .notUnpackable
  | some items =>
    if items.length = count then .ok items else .error (.unpackLength count items.length)

/-- The cell of a namespace. -/
def Value.cell? : Value → Option Nat
  | .map (.shared cell) _ => some cell
  | _ => none

section Assignments

variable (exec : Executor) (env : Env) (outer : Scope)

mutual

/-- The innermost frame behind the assignment of a value to a target. -/
def Target.assign (frame : Frame) : Target → Value → Eval Frame
  | .variable name, value => frame.assign name value
  | .tuple targets line, value => do
    let items ← onLine line (value.unpacked targets.length)
    Target.assignAll frame targets items
  | .field parent name, value => do
    let owner ← parent.eval exec env (frame :: outer)
    match owner.cell? with
    | some cell => do
      modify (·.withEntry cell name value)
      return frame
    | none =>
      failOn parent.endLine
        (.refused ("can only assign to namespaces, not ".toList ++ owner.kind.name))

/-- The innermost frame behind the assignment of some values, each to its target. -/
def Target.assignAll (frame : Frame) : List Target → List Value → Eval Frame
  | target :: rest, value :: values => do
    let frame ← target.assign frame value
    Target.assignAll frame rest values
  | _, _ => pure frame

end

/-- The innermost frame behind assignments one after another. -/
def assignAll (frame : Frame) : List (Target × Expr) → Eval Frame
  | [] => pure frame
  | (target, value) :: rest => do
    let a ← value.eval exec env (frame :: outer)
    let frame ← target.assign exec env outer frame a
    assignAll frame rest

end Assignments

/-! ## Filters, modes and other templates -/

/-- The value of filters one behind the other; the first one starts on a line. -/
def applyFilters (exec : Executor) (env : Env) (scope : Scope) :
    Nat → List FilterCall → Value → Eval Value
  | _, [], value => pure value
  | line, (name, arguments) :: rest, value => do
    let values ← passed arguments (Expr.evalPositional exec env scope arguments)
      (Expr.evalNamed exec env scope arguments)
    let behind := Expr.endLineOfPassed line arguments
    let value ← onLine behind (applyFilter values name value)
    applyFilters exec env scope behind rest value

/-- Whether a mode escapes texts. -/
def Value.escapes (mode : Value) : Except Problem Bool :=
  let unknown := .error (.refused "invalid value to autoescape tag".toList)
  match mode.text? with
  | some name =>
    if name = "html".toList then .ok true
    else if name = "none".toList then .ok false
    else unknown
  | none => .ok (mode.equals (.boolean true))

/-- Why a template cannot go on from another one: there is no other. -/
def extensionProblem (env : Env) (name : Value) : Problem :=
  match name.text? with
  | none => .refused "template name was not a string".toList
  | some name =>
    if name ∈ env.templates then
      .refused ("cycle in template inheritance. ".toList ++ name.quoted ++
        " was referenced more than once".toList)
    else .noTemplate ("template ".toList ++ name.quoted ++ " does not exist".toList)

/-- Why there is no template to put in. -/
def embeddingProblem (name : Value) : Problem :=
  match name.text?, name.elements? with
  | some name, _ =>
    .noTemplate ("tried to include non-existing template ".toList ++ name.quoted)
  | none, some names =>
    .noTemplate ("tried to include one of multiple templates, none of which existed ".toList ++
      (Value.list names).toText)
  | none, none => .refused "template name was not a string".toList

/-! ## Loops -/

section Loops

variable (exec : Executor) (env : Env) (scope : Scope)

/-- The items that a condition holds of, each assigned to the target of the loop. -/
def keptItems (target : Target) (condition : Expr) : List Value → Eval (List Value)
  | [] => pure []
  | item :: rest => do
    let frame ← target.assign exec env scope .empty item
    let value ← condition.eval exec env (frame :: scope)
    let holds ← onLine condition.endLine value.test
    let kept ← keptItems target condition rest
    return if holds then item :: kept else kept

/-- The items that a loop goes through, and their number where it is known. -/
def loopItems (target : Target) (source : Expr) (condition : Option Expr) :
    Eval (List Value × Option Nat) := do
  let value ← source.eval exec env scope
  let items ← onLine source.endLine value.iterate
  env.roomFor scope source.endLine
  match condition with
  | none => return (items, value.itemCount?)
  | some condition => do
    let kept ← keptItems exec env scope target condition items
    return (kept, some kept.length)

/-- How many loops a new one is called through, each from the one around it. -/
def Scope.loopDepth (scope : Scope) : Nat :=
  match scope.turn? with
  | none => 0
  | some turn => if turn.recursion.isSome then turn.state.depth + 1 else 0

end Loops

/-- The texts of the turns of a loop, one for each item; `body` renders one turn for an item. -/
def runTurns (body : Turn → Value → Eval Text) (state : LoopState) (recursion : Option Recursion)
    (previous : Value) : List Value → Eval Text
  | [] => pure []
  | item :: rest => do
    let next := rest.head?.getD .undefined
    let text ← body ⟨state, previous, next, recursion⟩ item
    let more ← runTurns body { state with index := state.index + 1 } recursion item rest
    return text ++ more

/-! ## Statements -/

/-- The argument that a call is given besides its own. -/
def Expr.withArgument (argument : Passing × Expr) : Expr → Expr
  | .callName name arguments line => .callName name (arguments ++ [argument]) line
  | .callMethod parent name arguments => .callMethod parent name (arguments ++ [argument])
  | .call callee arguments => .call callee (arguments ++ [argument])
  | e => e

section Statements

variable (exec : Executor)

mutual

/-- The text of a statement, and the innermost frame behind it. -/
def Stmt.render (env : Env) (outer : Scope) (frame : Frame) : Stmt → Eval (Text × Frame)
  | .data text => pure (text, frame)
  | .emit value => do
    let a ← value.eval exec env (frame :: outer)
    let text ← onLine value.endLine (a.shownAs env.escape)
    return (text, frame)
  | .assign target value => do
    let a ← value.eval exec env (frame :: outer)
    let frame ← target.assign exec env outer frame a
    return ([], frame)
  | .capture target filters line body => do
    let (text, frame) ← Stmt.renderAll env outer frame body
    let a ← applyFilters exec env (frame :: outer) line filters (captured env.escape text)
    let frame ← target.assign exec env outer frame a
    return ([], frame)
  | .branch condition yes no => do
    let a ← condition.eval exec env (frame :: outer)
    if ← onLine condition.endLine a.test then Stmt.renderAll env outer frame yes
    else Stmt.renderAll env outer frame no
  | .loop target source condition recursive body otherwise => do
    let scope := frame :: outer
    let (items, length?) ← loopItems exec env scope target source condition
    if items.isEmpty then Stmt.renderAll env outer frame otherwise
    else do
      let memory := env.depth scope
      modify (·.forgetting memory)
      let turn := fun (turn : Turn) (item : Value) => do
        let inner ← target.assign exec env scope (.ofTurn turn) item
        let (text, _) ← Stmt.renderAll env scope inner body
        return text
      let recursion := if recursive then some ⟨target, body⟩ else none
      let state := ⟨0, length?, Scope.loopDepth scope, memory⟩
      let text ← runTurns turn state recursion .undefined items
      return (text, frame)
  | .bind bindings line body => do
    let scope := frame :: outer
    env.roomFor scope line
    let inner ← assignAll exec env scope .empty bindings
    let (text, _) ← Stmt.renderAll env scope inner body
    return (text, frame)
  | .filtered filters line body => do
    let (text, frame) ← Stmt.renderAll env outer frame body
    let a ← applyFilters exec env (frame :: outer) line filters (captured env.escape text)
    let text ← onLine line (a.shownAs env.escape)
    return (text, frame)
  | .escape mode body => do
    let a ← mode.eval exec env (frame :: outer)
    let escape ← onLine mode.endLine a.escapes
    Stmt.renderAll { env with escape } outer frame body
  | .declare name parameters body => do
    let (routine, frame) ← env.declare outer frame name parameters body
    let frame ← frame.assign name routine
    return ([], frame)
  | .callWith call parameters line body => do
    let (routine, frame) ← env.declare outer frame callerName parameters body
    let call := call.withArgument (.named callerName, .constant routine line)
    let a ← call.eval exec env (frame :: outer)
    let text ← onLine line (a.shownAs env.escape)
    return (text, frame)
  | .perform call => do
    let _ ← call.eval exec env (frame :: outer)
    return ([], frame)
  | .block name line body => do
    let scope := frame :: outer
    env.roomFor scope line
    let (text, _) ← Stmt.renderAll { env with block := name } scope .empty body
    return (text, frame)
  | .extend name => do
    let a ← name.eval exec env (frame :: outer)
    failOn name.endLine (extensionProblem env a)
  | .embed name mayBeMissing => do
    let a ← name.eval exec env (frame :: outer)
    if mayBeMissing then return ([], frame) else failOn name.endLine (embeddingProblem a)

/-- The texts of some statements one behind the other, and the innermost frame behind them. -/
def Stmt.renderAll (env : Env) (outer : Scope) (frame : Frame) : List Stmt → Eval (Text × Frame)
  | [] => pure ([], frame)
  | first :: rest => do
    let (text, frame) ← first.render env outer frame
    let (more, frame) ← Stmt.renderAll env outer frame rest
    return (text ++ more, frame)

end

end Statements

/-! ## Templates -/

/-- Runs statements at a place; so many calls may be inside each other. -/
def execute : Nat → Executor
  | 0, _, _, _ => failOn 0 .tooDeep
  | levels + 1, env, scope, statements => do
    let frame := scope.head?.getD .empty
    let (text, _) ← Stmt.renderAll (execute levels) env scope.tail frame statements
    return text

/-- More levels than there can be calls inside each other. -/
def maxLevels : Nat := maxFrames + 2

/-- What the outermost place of a template depends on. -/
def Env.of (context : Context) (statements : List Stmt) : Env where
  context
  blocks := Stmt.blocksOfAll statements
  block := none
  outer := 0
  templates := [TemplateError.templateName]
  escape := false

/-- The text of statements that have been read. -/
def run (context : Context) (statements : List Stmt) : Except TemplateError Text :=
  let statements := Stmt.foldAll statements
  (execute maxLevels (Env.of context statements) [.outermost] statements .empty).map (·.1)

/-- The text of a template. It is read to its end before anything is rendered. -/
def render (context : Context) (template : Text) : Except TemplateError Text :=
  match parse template with
  | .ok statements => run context statements
  | .error fault => .error (.unreadable fault.line)

end Codebook.Template
