import Codebook.Template.Parser.Expression

/-!
# From lexemes to statements

A template is text, values and tags. Each tag starts with a word that says what kind of statement it
is; the statements inside are read by the parser for one level of nesting less, up to the tag that
ends it.

A loop has no `break` and no `continue`: these words start no statement, unless they are asked for.
-/

namespace Codebook.Template

namespace Parser

/-- Reads the statements up to a block tag that starts with one of some words. The start of that tag
is taken, its word is not. -/
abbrev Body := List Text → Parser (List Stmt)

/-! ## Targets -/

/-- The names that nothing can be assigned to. -/
def reservedNames : List Text :=
  ["true".toList, "True".toList, "false".toList, "False".toList, "none".toList, "None".toList,
    "loop".toList, "self".toList]

/-- A name that something can be assigned to. -/
def freeName : Parser Text := do
  let name ← expectName
  if name ∈ reservedNames then fail else return name

/-- Whether a target cannot start here. -/
def targetEnds : Parser Bool := do
  match ← peek with
  | some (.sign .closeParen) | some .variableEnd | some .blockEnd => return true
  | some (.word word) => return word = "in".toList
  | _ => return false

/-- Targets with commas between them; `first` tells that there has been none. With a comma behind
it, a single target is a list of one. -/
def targets (target : Parser Target) : Nat → Parser (List Target × Bool)
  | 0 => fail
  | steps + 1 => do
    if ← targetEnds then return ([], true)
    let first ← target
    if ← skipSign .comma then
      let (rest, _) ← targets target steps
      return (first :: rest, true)
    else return ([first], false)

/-- What is assigned to: a name, or a list of targets; those in parentheses are nested less deep. -/
def assignment : Nat → Parser Target
  | 0 => fail
  | depth + 1 => do
    let line ← nextLine
    let single : Parser Target := do
      if ← skipSign .openParen then
        let target ← assignment depth
        expectSign .closeParen
        return target
      else return .variable (← freeName)
    match ← targets single (← enough) with
    | ([target], false) => return target
    | (targets, _) => return .tuple targets line

/-- The names behind a name, with dots in front of them. -/
def dotted (owner : Expr) : Nat → Text → Parser Target
  | 0, _ => fail
  | steps + 1, name => do
    if ← skipSign .dot then
      let next ← expectName
      dotted (.attribute owner name) steps next
    else return .field owner name

/-- A name that something can be assigned to, or a name in a namespace. -/
def dottedName : Parser Target := do
  let line ← nextLine
  let name ← freeName
  if ← skipSign .dot then
    let field ← expectName
    dotted (.variable name line) (← enough) field
  else return .variable name

/-- A target in parentheses. -/
def parenthesizedTarget (depth : Nat) : Parser Target := do
  let target ← assignment depth
  expectSign .closeParen
  return target

/-! ## Assignments -/

/-- Filters with bars between them, up to the end of the tag. -/
def filterChain (inner : Inner) : Nat → Bool → Parser (List FilterCall)
  | 0, _ => fail
  | steps + 1, first => do
    if !first then
      if ← atBlockEnd then return []
      expectSign .bar
    let next ← filterCall inner
    let rest ← filterChain inner steps false
    return next :: rest

/-- What an assignment of a value is made of, behind its target. -/
def valueAssignment (value : Parser Expr) (target : Target) : Parser Stmt := do
  expectSign .assign
  return .assign target (← value)

/-- What an assignment is made of, behind its word: a value, or what stands up to its end. -/
def assigning (inner : Inner) (body : Body) (depth : Nat) : Parser Stmt := do
  if ← skipSign .openParen then
    let target ← parenthesizedTarget depth
    valueAssignment inner.expression target
  else
    let line ← nextLine
    let target ← dottedName
    match ← peek with
    | some .blockEnd =>
      expectBlockEnd
      let inside ← body ["endset".toList]
      expectWord "endset".toList
      return .capture target [] line inside
    | some (.sign .bar) =>
      expectSign .bar
      let filters ← filterChain inner (← enough) true
      expectBlockEnd
      let inside ← body ["endset".toList]
      expectWord "endset".toList
      return .capture target filters line inside
    | _ => valueAssignment inner.expression target

/-- What a value is bound to: a name, or a target in parentheses. -/
def boundTarget (depth : Nat) : Parser Target := do
  if ← skipSign .openParen then parenthesizedTarget depth else return .variable (← freeName)

/-- Targets with their values and commas between them, up to the end of the tag. -/
def bindings (value : Parser Expr) (depth : Nat) : Nat → Bool → Parser (List (Target × Expr))
  | 0, _ => fail
  | steps + 1, first => do
    if ← atBlockEnd then return []
    if !first then expectSign .comma
    let target ← boundTarget depth
    expectSign .assign
    let bound ← value
    let rest ← bindings value depth steps false
    return (target, bound) :: rest

/-! ## Loops and branches -/

/-- What a loop is made of, behind its word. -/
def loop (source condition : Parser Expr) (body : Body) (depth : Nat) : Parser Stmt := do
  let target ← assignment depth
  expectWord "in".toList
  let source ← source
  let condition ← if ← skipWord "if".toList then pure (some (← condition)) else pure none
  let recursive ← skipWord "recursive".toList
  expectBlockEnd
  let inside ← body ["endfor".toList, "else".toList]
  let otherwise ←
    if ← skipWord "else".toList then do
      expectBlockEnd
      body ["endfor".toList]
    else pure []
  expectWord "endfor".toList
  return .loop target source condition recursive inside otherwise

/-- What a branch is made of, behind its word, with the branches that follow it. -/
def branch (test : Parser Expr) (body : Body) : Nat → Parser Stmt
  | 0 => fail
  | steps + 1 => do
    let test' ← test
    expectBlockEnd
    let yes ← body ["endif".toList, "else".toList, "elif".toList]
    let word ← expectName
    if word = "else".toList then
      expectBlockEnd
      let no ← body ["endif".toList]
      expectWord "endif".toList
      return .branch test' yes no
    else if word = "elif".toList then
      let no ← branch test body steps
      return .branch test' yes [no]
    else return .branch test' yes []

/-! ## Macros and calls -/

/-- The parameters of a macro behind the opening parenthesis. Behind one with a default all have
one. -/
def parameters (value : Parser Expr) : Nat → Bool → Bool → Parser (List Parameter)
  | 0, _, _ => fail
  | steps + 1, first, hasDefault => do
    if ← skipSign .closeParen then return []
    if !first then
      expectSign .comma
      if ← skipSign .closeParen then return []
    let name ← freeName
    if hasDefault then
      expectSign .assign
      let default ← value
      let rest ← parameters value steps false true
      return (name, some default) :: rest
    else if ← skipSign .assign then
      let default ← value
      let rest ← parameters value steps false true
      return (name, some default) :: rest
    else
      let rest ← parameters value steps false false
      return (name, none) :: rest

/-- The body of a macro, up to the tag with a word, which is taken. There are no blocks in it. -/
def routineBody (body : Body) (last : Text) : Parser (List Stmt) := do
  expectBlockEnd
  let outside := (← get).inRoutine
  modify fun cursor => { cursor with inRoutine := true }
  let inside ← body [last]
  modify fun cursor => { cursor with inRoutine := outside }
  expectWord last
  return inside

/-- What the declaration of a macro is made of, behind its word. -/
def declaration (value : Parser Expr) (body : Body) : Parser Stmt := do
  let name ← expectName
  expectSign .openParen
  let parameters ← parameters value (← enough) true false
  let inside ← routineBody body "endmacro".toList
  return .declare name parameters inside

/-- Whether an expression is a call. -/
def isCall : Expr → Bool
  | .callName _ _ _ | .callMethod _ _ _ | .callBlock _ _ | .call _ _ => true
  | _ => false

/-- An expression that has to be a call. -/
def callExpression (value : Parser Expr) : Parser Expr := do
  let call ← value
  if isCall call then return call else fail

/-- What a call with a body is made of, behind its word. -/
def callWith (value : Parser Expr) (body : Body) : Parser Stmt := do
  let parameters ← if ← skipSign .openParen then parameters value (← enough) true false else pure []
  let call ← callExpression value
  let line ← lastLine
  let inside ← routineBody body "endcall".toList
  return .callWith call parameters line inside

/-! ## Blocks and other templates -/

/-- The name of a block, which may stand behind its end. -/
def sameName (name : Text) : Parser Unit := do
  match ← peek with
  | some (.word _) => expectWord name
  | _ => return ()

/-- What a block is made of, behind its word. Blocks have different names. -/
def namedBlock (body : Body) : Parser Stmt := do
  if (← get).inRoutine then fail
  let line ← lastLine
  let name ← expectName
  if name ∈ (← get).blocks then fail
  modify fun cursor => { cursor with blocks := name :: cursor.blocks }
  expectBlockEnd
  let inside ← body ["endblock".toList]
  expectWord "endblock".toList
  sameName name
  return .block name line inside

/-- Whether the names in scope are given to another template, which says nothing here. -/
def contextWords : Parser Unit := do
  if ← skipWords ["with".toList, "without".toList] then expectWord "context".toList

/-- What the place of another template is made of, behind its word. -/
def inclusion (value : Parser Expr) : Parser Stmt := do
  let name ← value
  contextWords
  if ← skipWord "ignore".toList then
    expectWord "missing".toList
    contextWords
    return .embed name true
  else return .embed name false

/-- A name for what another template declares. -/
def importedAs : Parser Unit := do
  if ← skipWord "as".toList then
    let _ ← freeName

/-- Names of what another template declares, with commas between them, up to the end of the tag. -/
def imports : Nat → Bool → Parser Unit
  | 0, _ => fail
  | steps + 1, first => do
    if ← atBlockEnd then return ()
    if !first then
      expectSign .comma
      if ← atBlockEnd then return ()
    let _ ← freeName
    importedAs
    imports steps false

/-! ## All statements -/

/-- Whether a block tag starts with one of the words. -/
def stopsAt (stops : List Text) : Parser Bool := do
  match ← peek with
  | some (.word word) => return word ∈ stops
  | none => fail
  | _ => return false

/-- Statements up to a block tag that starts with one of the words, or to the end. The start of
that tag is taken, its word is not. -/
def block (expression : Parser Expr) (statement : Parser Stmt) (stops : List Text) :
    Nat → Parser (List Stmt)
  | 0 => fail
  | steps + 1 => do
    match ← peek with
    | none => return []
    | some (.data text) =>
      let _ ← take
      let rest ← block expression statement stops steps
      return .data text :: rest
    | some .variableStart =>
      let _ ← take
      let value ← expression
      expectVariableEnd
      let rest ← block expression statement stops steps
      return .emit value :: rest
    | some .blockStart =>
      let _ ← take
      if ← stopsAt stops then return []
      let first ← statement
      expectBlockEnd
      let rest ← block expression statement stops steps
      return first :: rest
    | some _ => fail

/-- What a statement is made of that is no loop, branch or assignment, behind its word. -/
def otherStatement (inner : Inner) (body : Body) (depth : Nat) (word : Text) : Parser Stmt := do
  if word = "with".toList then
    let line ← lastLine
    let bindings ← bindings inner.expression depth (← enough) true
    expectBlockEnd
    let inside ← body ["endwith".toList]
    expectWord "endwith".toList
    return .bind bindings line inside
  else if word = "filter".toList then
    let line ← lastLine
    let filters ← filterChain inner (← enough) true
    expectBlockEnd
    let inside ← body ["endfilter".toList]
    expectWord "endfilter".toList
    return .filtered filters line inside
  else if word = "autoescape".toList then
    let mode ← inner.expression
    expectBlockEnd
    let inside ← body ["endautoescape".toList]
    expectWord "endautoescape".toList
    return .escape mode inside
  else if word = "macro".toList then declaration inner.expression body
  else if word = "call".toList then callWith inner.expression body
  else if word = "do".toList then return .perform (← callExpression inner.expression)
  else if word = "block".toList then namedBlock body
  else if word = "extends".toList then return .extend (← inner.expression)
  else if word = "include".toList then inclusion inner.expression
  else if word = "import".toList then
    let name ← inner.expression
    expectWord "as".toList
    let _ ← freeName
    return .embed name false
  else if word = "from".toList then
    let name ← inner.expression
    expectWord "import".toList
    imports (← enough) true
    return .embed name false
  else fail

/-- A statement of at most so many levels. Its tag has been opened, and is not closed here. -/
def statement : Nat → Parser Stmt
  | 0 => fail
  | depth + 1 => do
    let body := fun stops => do
      block (expression depth) (statement depth) stops (← enough)
    let unconditional := disjunction (inner depth)
    let word ← expectName
    if word = "for".toList then loop unconditional (expression depth) body depth
    else if word = "if".toList then branch unconditional body (← enough)
    else if word = "set".toList then assigning (inner depth) body depth
    else otherStatement (inner depth) body depth word

/-- All statements of a template. -/
def template : Parser (List Stmt) := do
  block (expression maxDepth) (statement maxDepth) [] (← enough)

end Parser

end Codebook.Template
