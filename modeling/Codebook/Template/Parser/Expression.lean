import Codebook.Template.Parser.Basic

/-!
# From lexemes to expressions

Expressions have levels, from the conditional that binds loosest down to single constants. Each
level is written in terms of the next one and of the parsers for what may stand inside brackets,
which the levels take as an argument: so only whole expressions and single values call each other,
and they do so with one less level of nesting allowed each time.
-/

namespace Codebook.Template

namespace Parser

/-- The parsers for what stands inside another expression. -/
structure Inner where
  expression : Parser Expr
  /-- An expression without a condition behind it. -/
  unconditional : Parser Expr
  primary : Parser Expr

/-! ## Operations that group from the left -/

/-- How an operator makes one expression out of two, from a line on. -/
abbrev Combine := Expr → Expr → Nat → Expr

/-- Operands with operations between them, which group from the left. -/
def leftAssoc (operand : Parser Expr) (next? : Token → Option Combine) (line : Nat) :
    Nat → Expr → Parser Expr
  | 0, _ => fail
  | steps + 1, left => do
    match (← peek).bind next? with
    | none => return left
    | some combine =>
      let _ ← take
      let right ← operand
      leftAssoc operand next? line steps (combine left right line)

/-- A level of operations that group from the left. -/
def leftLevel (operand : Parser Expr) (next? : Token → Option Combine) : Parser Expr := do
  let line ← nextLine
  let left ← operand
  leftAssoc operand next? line (← enough) left

/-! ## Lists and arguments -/

/-- What stands between commas, up to a closing sign. A comma may stand behind the last. -/
def items {α : Type} (item : Parser α) (close : Sign) : Nat → Bool → Parser (List α)
  | 0, _ => fail
  | steps + 1, first => do
    if ← skipSign close then return []
    if !first then
      expectSign .comma
      if ← skipSign close then return []
    let next ← item
    let rest ← items item close steps false
    return next :: rest

/-- An entry of a map. -/
def entry (inner : Inner) : Parser (Expr × Expr) := do
  let key ← inner.expression
  expectSign .colon
  let value ← inner.expression
  return (key, value)

/-- How an argument is passed that is no name with a value: not behind arguments with names. -/
def unnamed (named : Bool) (value : Expr) : Parser (Passing × Expr) :=
  if named then fail else pure (.positional, value)

/-- An argument; `named` tells whether one with a name has been before it. -/
def argument (inner : Inner) (named : Bool) : Parser (Passing × Expr) := do
  if ← skipSign .doubleStar then return (.spreadNamed, ← inner.expression)
  if ← skipSign .star then return (.spread, ← inner.expression)
  let value ← inner.expression
  match value with
  | .variable name _ =>
    if ← skipSign .assign then return (.named name, ← inner.unconditional)
    else unnamed named value
  | _ => unnamed named value

/-- Arguments up to the closing parenthesis. A comma may stand behind the last. -/
def argumentsFrom (inner : Inner) : Nat → Bool → Bool → Parser (List (Passing × Expr))
  | 0, _, _ => fail
  | steps + 1, first, named => do
    if ← skipSign .closeParen then return []
    if !first then
      expectSign .comma
      if ← skipSign .closeParen then return []
    let next ← argument inner named
    let rest ← argumentsFrom inner steps false (named || next.1.isNamed)
    return next :: rest

/-- How many arguments a call may have. -/
def maxArguments : Nat := 2000

/-- The arguments of a call behind its opening parenthesis. -/
def arguments (inner : Inner) : Parser (List (Passing × Expr)) := do
  let args ← argumentsFrom inner (← enough) true false
  if maxArguments < args.length then fail else return args

/-! ## Attributes, items and calls -/

/-- The name that the template has for itself. -/
def selfName : Text := "self".toList

/-- The call of an expression, which starts on a line. -/
def calling (callee : Expr) (arguments : List (Passing × Expr)) (line : Nat) : Expr :=
  match callee with
  | .variable name _ => .callName name arguments line
  | .attribute parent name =>
    match parent with
    | .variable owner _ =>
      if owner = selfName then .callBlock name line else .callMethod parent name arguments
    | _ => .callMethod parent name arguments
  | _ => .call callee arguments

/-- A part of a slice, which is left out in front of a colon or the closing bracket. -/
def slicePart (inner : Inner) : Parser (Option Expr) := do
  match ← peek with
  | some (.sign .colon) | some (.sign .closeBracket) => return none
  | _ => return some (← inner.expression)

/-- An item or a slice of an operand, behind the opening bracket. -/
def subscript (inner : Inner) (operand : Expr) : Parser Expr := do
  let start ← slicePart inner
  if ← skipSign .colon then
    let stop ← slicePart inner
    let step ← if ← skipSign .colon then slicePart inner else pure none
    expectSign .closeBracket
    return .slice operand start stop step
  else
    expectSign .closeBracket
    match start with
    | some index => return .item operand index
    | none => fail

/-- An attribute of an operand, behind the dot, or the item at a place that is written down. -/
def member (operand : Expr) : Parser Expr := do
  match ← peek with
  | some (.integer place) =>
    let lexeme ← take
    return .item operand (.constant (.natural place) lexeme.line)
  | _ => return .attribute operand (← expectName)

/-- Attributes, items and calls behind an operand that starts on a line. -/
def postfixes (inner : Inner) (line : Nat) : Nat → Expr → Parser Expr
  | 0, _ => fail
  | steps + 1, operand => do
    match ← peek with
    | some (.sign .dot) =>
      let _ ← take
      postfixes inner line steps (← member operand)
    | some (.sign .openBracket) =>
      let _ ← take
      postfixes inner line steps (← subscript inner operand)
    | some (.sign .openParen) =>
      let _ ← take
      let args ← arguments inner
      postfixes inner line steps (calling operand args line)
    | _ => return operand

/-- Signs of negation in front of an operand. -/
def negations (primary : Parser Expr) : Nat → Parser Expr
  | 0 => fail
  | steps + 1 => do
    match ← peek with
    | some (.sign .minus) =>
      let sign ← take
      let operand ← negations primary steps
      return .negation operand sign.line
    | _ => primary

/-- An operand with its signs in front, and the attributes, items and calls behind it. -/
def signedOperand (inner : Inner) : Parser Expr := do
  let line ← nextLine
  let operand ← negations inner.primary (← enough)
  postfixes inner line (← enough) operand

/-! ## Filters and tests -/

/-- The rest of the name of a filter or a test, which may have dots in it. -/
def moreName : Nat → Parser Text
  | 0 => fail
  | steps + 1 => do
    if ← skipSign .dot then
      let name ← expectName
      return '.' :: name ++ (← moreName steps)
    else return []

/-- The words that end a test, so that no argument starts with them. -/
def testEnds : List Text := ["and".toList, "or".toList, "else".toList, "is".toList]

/-- Whether an argument of a test without parentheses starts with a token. -/
def startsArgument : Token → Bool
  | .word word => word ∉ testEnds
  | .text _ | .integer _ | .float _ => true
  | .sign sign => sign ∈ [.plus, .minus, .openBracket, .openBrace]
  | _ => false

/-- The arguments of a test: some in parentheses, or a single one without them. -/
def testArguments (inner : Inner) : Parser (List (Passing × Expr)) := do
  if ← skipSign .openParen then arguments inner
  else
    match ← peek with
    | some token =>
      if startsArgument token then return [(.positional, ← signedOperand inner)] else return []
    | none => return []

/-- A test behind `is`, of an expression that starts on a line. -/
def tested (inner : Inner) (line : Nat) (operand : Expr) : Parser Expr := do
  let negated ← skipWord "not".toList
  let name := (← expectName) ++ (← moreName (← enough))
  let args ← testArguments inner
  let test := Expr.test operand name args
  return if negated then .complement test line else test

/-- A filter with its arguments. -/
def filterCall (inner : Inner) : Parser FilterCall := do
  let name := (← expectName) ++ (← moreName (← enough))
  let args ← if ← skipSign .openParen then arguments inner else pure []
  return (name, args)

/-- Filters and tests behind an operand that starts on a line. -/
def filters (inner : Inner) (line : Nat) : Nat → Expr → Parser Expr
  | 0, _ => fail
  | steps + 1, operand => do
    match ← peek with
    | some (.sign .bar) =>
      let _ ← take
      let (name, args) ← filterCall inner
      filters inner line steps (.filter operand name args)
    | some (.word word) =>
      if word = "is".toList then do
        let _ ← take
        let test ← tested inner line operand
        filters inner line steps test
      else return operand
    | _ => return operand

/-- An operand with its filters and tests. -/
def filtered (inner : Inner) : Parser Expr := do
  let line ← nextLine
  let operand ← signedOperand inner
  filters inner line (← enough) operand

/-! ## Levels of operations -/

/-- The sign of a power. -/
def powerSign? : Token → Option Combine
  | .sign .doubleStar => some (.operation (.arithmetic .power))
  | _ => none

/-- The signs of a product. -/
def productSign? : Token → Option Combine
  | .sign .star => some (.operation (.arithmetic .multiply))
  | .sign .slash => some (.operation (.arithmetic .divide))
  | .sign .doubleSlash => some (.operation (.arithmetic .floorDivide))
  | .sign .percent => some (.operation (.arithmetic .remainder))
  | _ => none

/-- The sign between texts. -/
def concatSign? : Token → Option Combine
  | .sign .tilde => some (.operation .concat)
  | _ => none

/-- The signs of a sum. -/
def sumSign? : Token → Option Combine
  | .sign .plus => some (.operation (.arithmetic .add))
  | .sign .minus => some (.operation (.arithmetic .subtract))
  | _ => none

/-- Sums. -/
def sum (inner : Inner) : Parser Expr :=
  leftLevel
    (leftLevel (leftLevel (leftLevel (filtered inner) powerSign?) productSign?) concatSign?)
    sumSign?

/-- The comparison that a token writes, or starts to write if it is the word `not`. -/
def comparison? : Token → Option Comparison
  | .sign .equal => some .equal
  | .sign .notEqual => some .notEqual
  | .sign .less => some .less
  | .sign .lessEqual => some .lessEqual
  | .sign .greater => some .greater
  | .sign .greaterEqual => some .greaterEqual
  | .word word =>
    if word = "in".toList then some .contained
    else if word = "not".toList then some .notContained
    else none
  | _ => none

/-- Comparisons with the operands behind them. -/
def links (operand : Parser Expr) : Nat → Parser (List (Comparison × Expr))
  | 0 => fail
  | steps + 1 => do
    match (← peek).bind comparison? with
    | none => return []
    | some op =>
      let _ ← take
      if op = .notContained then expectWord "in".toList
      let right ← operand
      return (op, right) :: (← links operand steps)

/-- A comparison, or a sum by itself. A comparison starts on the line of the lexeme in front of
it. -/
def comparison (inner : Inner) : Parser Expr := do
  let line ← lastLine
  let first ← sum inner
  let links ← links (sum inner) (← enough)
  return if links.isEmpty then first else .comparison first links line

/-- Words `not` in front of an operand. -/
def complements (operand : Parser Expr) : Nat → Parser Expr
  | 0 => fail
  | steps + 1 => do
    let line ← nextLine
    if ← skipWord "not".toList then return .complement (← complements operand steps) line
    else operand

/-- The word between operands that all have to hold. -/
def andWord? : Token → Option Combine
  | .word word => if word = "and".toList then some .conjunction else none
  | _ => none

/-- The word between operands of which one has to hold. -/
def orWord? : Token → Option Combine
  | .word word => if word = "or".toList then some .disjunction else none
  | _ => none

/-- A comparison with words `not` in front. -/
def negatable (inner : Inner) : Parser Expr := do
  complements (comparison inner) (← enough)

/-- An expression without a condition behind it. -/
def disjunction (inner : Inner) : Parser Expr :=
  leftLevel (leftLevel (negatable inner) andWord?) orWord?

/-- The conditions behind an expression; what stands behind `else` may have conditions too. -/
def conditions (operand : Parser Expr) : Nat → Expr → Parser Expr
  | 0, _ => fail
  | steps + 1, yes => do
    if ← skipWord "if".toList then
      let test ← operand
      if ← skipWord "else".toList then
        let no ← operand
        let no ← conditions operand steps no
        conditions operand steps (.choice test yes no)
      else conditions operand steps (.option test yes)
    else return yes

/-- An expression with its conditions. -/
def conditional (inner : Inner) : Parser Expr := do
  let yes ← disjunction inner
  conditions (disjunction inner) (← enough) yes

/-! ## Single values -/

/-- The words that are constants. -/
def constantWord? (word : Text) : Option Value :=
  [("true".toList, Value.boolean true), ("True".toList, .boolean true),
    ("false".toList, .boolean false), ("False".toList, .boolean false),
    ("none".toList, .null), ("None".toList, .null)].lookup word

/-- The string that stands next, which is then taken. What cannot be read ends the template. -/
def nextText? : Parser (Option Text) := fun cursor =>
  match cursor.rest with
  | [] => .ok (none, cursor)
  | lexeme :: rest =>
    match lexeme.token with
    | .text value => .ok (some value, { cursor with rest, line := lexeme.line })
    | .fault => .ok (none, { cursor with rest := [] })
    | _ => .ok (none, cursor)

/-- The strings that follow a string belong to it. -/
def moreText : Nat → Parser Text
  | 0 => fail
  | steps + 1 => do
    match ← nextText? with
    | some value => return value ++ (← moreText steps)
    | none => return []

/-- What stands in parentheses, behind the opening one, which is on a line: an expression, or a list
if there is a comma or nothing. -/
def parenthesized (inner : Inner) (line : Nat) : Parser Expr := do
  if ← skipSign .closeParen then return .list [] line
  let first ← inner.expression
  if ← skipSign .comma then
    let rest ← items inner.expression .closeParen (← enough) true
    return .list (first :: rest) line
  else
    expectSign .closeParen
    return first

/-- A constant, a name, a list, a map, or an expression in parentheses. -/
def single (inner : Inner) : Parser Expr := do
  let lexeme ← take
  match lexeme.token with
  | .word name =>
    match constantWord? name with
    | some value => return .constant value lexeme.line
    | none => return .variable name lexeme.line
  | .text value => return .constant (.text (value ++ (← moreText (← enough)))) lexeme.line
  | .integer value => return .constant (.natural value) lexeme.line
  | .float value => return .constant (.float value) lexeme.line
  | .sign .openParen => parenthesized inner lexeme.line
  | .sign .openBracket =>
    return .list (← items inner.expression .closeBracket (← enough) true) lexeme.line
  | .sign .openBrace =>
    return .map (← items (entry inner) .closeBrace (← enough) true) lexeme.line
  | _ => fail

/-- How deep expressions and statements may be nested. -/
def maxDepth : Nat := 150

mutual

/-- An expression of at most so many levels. -/
def expression : Nat → Parser Expr
  | 0 => fail
  | depth + 1 => conditional ⟨expression depth, unconditional depth, primary depth⟩

/-- An expression of at most so many levels without a condition behind it. -/
def unconditional : Nat → Parser Expr
  | 0 => fail
  | depth + 1 => disjunction ⟨expression depth, unconditional depth, primary depth⟩

/-- A single value of at most so many levels. -/
def primary : Nat → Parser Expr
  | 0 => fail
  | depth + 1 => single ⟨expression depth, unconditional depth, primary depth⟩

end

/-- The parsers for expressions of at most so many levels. -/
def inner (depth : Nat) : Inner := ⟨expression depth, unconditional depth, primary depth⟩

end Parser

end Codebook.Template
