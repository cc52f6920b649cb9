import Codebook.Template.Store

/-!
# Names

A name is looked up in the frames from the inside out, then among the functions. Each turn of a loop
has a frame of its own, in which the loop's variable and what its body assigns live until the turn
is over; the outermost frame belongs to the template and has the two values that every template is
given.

A macro that is declared in a frame encloses the values of the names that its body takes from
outside. All macros of a frame share one cell for them, and what is assigned in the frame later on
is put into the cell as well. The body of a macro runs in a frame of its own that has the names of
the cell behind it.

`Function.all` and `Builtin.all` are all the functions there are: nothing else has a value before a
template assigns one.
-/

namespace Codebook.Template

/-! ## Frames -/

/-- The version of the generator. -/
def version : Text := "0.1.0".toList

/-- The codes of the catalog as a value. -/
def Context.codes (context : Context) : Value :=
  .list (context.catalog.codes.map fun code => .integer code.value)

/-- A value that every template is given. -/
def Context.value? (context : Context) (name : Text) : Option Value :=
  if name = "codes".toList then some context.codes
  else if name = "version".toList then some (.text version)
  else none

/-- Where a loop starts over when it is called from inside. -/
structure Recursion where
  target : Target
  body : List Stmt

/-- A turn of a loop: how far it has come, and how it is called from inside, if it can be. -/
structure Turn where
  state : LoopState
  previous : Value
  next : Value
  recursion : Option Recursion

/-- The names behind those that are assigned in a frame. -/
inductive Backing where
  | none
  /-- What every template is given. -/
  | context
  /-- What a macro encloses. -/
  | cell (place : Nat)

/-- What has been assigned in one place, latest first; the turn of a loop that it belongs to, the
cell for the macros declared in it, and the names behind. -/
structure Frame where
  locals : List (Text × Value)
  turn : Option Turn
  closure : Option Nat
  backing : Backing

/-- The name of the state of a loop. -/
def loopName : Text := "loop".toList

namespace Frame

/-- A frame in which nothing has been assigned. -/
def empty : Frame := ⟨[], .none, .none, .none⟩

/-- The frame of a template. -/
def outermost : Frame := { empty with backing := .context }

/-- The frame of a turn of a loop. -/
def ofTurn (turn : Turn) : Frame := { empty with turn }

/-- The frame with a value for a name. -/
def withLocal (frame : Frame) (name : Text) (value : Value) : Frame :=
  { frame with locals := (name, value) :: frame.locals }

/-- The value of a name behind the frame. -/
def behind? (context : Context) (store : Store) (frame : Frame) (name : Text) : Option Value :=
  match frame.backing with
  | .none => none
  | .context => context.value? name
  | .cell place => (store.cell place).lookup name

/-- The value of a name in the frame. -/
def value? (context : Context) (store : Store) (frame : Frame) (name : Text) : Option Value :=
  match frame.locals.lookup name with
  | some value => some value
  | none =>
    match if name = loopName then frame.turn else none with
    | some turn => some (.loop turn.state turn.previous turn.next)
    | none => frame.behind? context store name

end Frame

/-! ## Scopes -/

/-- The frames around a place in a template, the innermost first. -/
abbrev Scope := List Frame

/-- The function with a name, as a value. -/
def functionOf? (name : Text) : Option Value :=
  match Function.ofName? name with
  | some f => some (.function f)
  | none => (Builtin.ofName? name).map .builtin

/-- The value of a name, if it has one. -/
def Scope.value? (context : Context) (store : Store) (scope : Scope) (name : Text) :
    Option Value :=
  match scope.findSome? (·.value? context store name) with
  | some value => some (store.update value)
  | none => functionOf? name

/-- The turn of the innermost loop around a place. -/
def Scope.turn? (scope : Scope) : Option Turn := scope.findSome? (·.turn)

/-! ## What a place depends on -/

/-- What rendering depends on at a place besides the names in scope: the blocks of the template and
the one that is being rendered, how many frames there are around the outermost one in scope, the
templates that have been met, and whether texts are escaped. -/
structure Env where
  context : Context
  blocks : List (Text × List Stmt)
  block : Option Text
  outer : Nat
  templates : List Text
  escape : Bool

/-- How many frames there can be around a place. -/
def maxFrames : Nat := 500

/-- How many frames there are around a place. -/
def Env.depth (env : Env) (scope : Scope) : Nat := env.outer + scope.length

/-- There is room for a frame around the next place. -/
def Env.roomFor (env : Env) (scope : Scope) (line : Nat) : Eval Unit :=
  if maxFrames < env.depth scope then failOn line .tooDeep else pure ()

/-- The value of a name, which may be undefined. -/
def Env.lookup (env : Env) (scope : Scope) (name : Text) : Eval Value := do
  return ((scope.value? env.context (← get) name).getD .undefined)

/-! ## Changing frames and cells -/

/-- A value for a name in the innermost frame. -/
def Frame.assign (frame : Frame) (name : Text) (value : Value) : Eval Frame := do
  match frame.closure with
  | some cell => modify (·.withEntry cell name value)
  | none => pure ()
  return frame.withLocal name value

/-- A new cell with some entries. -/
def newCell (entries : List (Text × Value)) : Eval Nat := do
  let place := (← get).cells.length
  modify (·.withCell entries)
  return place

/-- The cell of the innermost frame, and the frame with it. -/
def Frame.closed (frame : Frame) : Eval (Nat × Frame) := do
  match frame.closure with
  | some cell => return (cell, frame)
  | none => do
    let cell ← newCell []
    return (cell, { frame with closure := cell })

/-- The values of some names, as far as a cell has none for them yet, are put into the cell. -/
def Env.enclose (env : Env) (scope : Scope) (cell : Nat) : List Text → Eval Unit
  | [] => pure ()
  | name :: rest => do
    if (((← get).cell cell).lookup name).isNone then
      let value ← env.lookup scope name
      modify (·.withEntry cell name value)
    env.enclose scope cell rest

/-- The name of what a macro is called with behind its arguments. -/
def callerName : Text := "caller".toList

/-- A macro as a value, and the innermost frame with its cell. -/
def Env.declare (env : Env) (outer : Scope) (frame : Frame) (name : Text)
    (parameters : List Parameter) (body : List Stmt) : Eval (Value × Frame) := do
  let free := freeOfRoutine parameters body
  let (cell, frame) ← frame.closed
  env.enclose (frame :: outer) cell (free.filter (· != callerName))
  let place := (← get).routines.length
  modify (·.withRoutine ⟨parameters, body, cell⟩)
  return (.routine ⟨place, name, parameters.map Prod.fst, free.contains callerName⟩, frame)

end Codebook.Template
