import Codebook.Template.Filter.Numbers
import Codebook.Template.Filter.Texts

/-!
# Filters that choose from a value or make a list of it

What they give is made of what the value holds. Sorting keeps the order of items that are equal; it
does not tell upper from lower case unless it is asked to.
-/

namespace Codebook.Template

/-! ## Order -/

/-- The value in lower case if it is a text. -/
def Value.caseless (value : Value) : Value :=
  match value.text? with
  | some t => .text t.lower
  | none => value

/-- The order of two values, where upper and lower case may be the same. -/
def Value.orderBy (caseful : Bool) (a b : Value) : Ordering :=
  if caseful then a.order b else a.caseless.order b.caseless

/-- Items in the order of their keys, or the other way round. -/
def sortedBy {α : Type} (order : α → α → Ordering) (backwards : Bool) (items : List α) : List α :=
  let sorted := items.mergeSort fun a b => order a b != .gt
  if backwards then sorted.reverse else sorted

/-- The order of two items that an attribute of them decides. -/
def orderByAttribute (caseful : Bool) (path? : Option Text) (a b : Value) : Ordering :=
  match path? with
  | none => a.orderBy caseful b
  | some path =>
    match a.itemAlong path, b.itemAlong path with
    | .ok x, .ok y => x.orderBy caseful y
    | _, _ => .eq

/-! ## Choosing a value -/

/-- The first character or item; there is none in what is empty. -/
def Value.first (value : Value) : Except Problem Value :=
  match value.text?, value.members? with
  | some t, _ => .ok (t.head?.elim .undefined fun c => .text [c])
  | none, some items => .ok (items.head?.getD .undefined)
  | none, none => .error .noFirst

/-- The last character or item; there is none in what is empty. -/
def Value.last (value : Value) : Except Problem Value :=
  match value.text?, value.elements? with
  | some t, _ => .ok (t.getLast?.elim .undefined fun c => .text [c])
  | none, some items => .ok (items.getLast?.getD .undefined)
  | none, none => .error .noLast

/-- The first of the smallest items, or of those that come first in another order. -/
def leastOf (before : Value → Value → Bool) : List Value → Value
  | [] => .undefined
  | item :: rest => rest.foldl (fun least next => if before next least then next else least) item

/-- The value that a filter chooses. -/
def ItemFilter.apply (filter : ItemFilter) (value : Value) (arguments : List Value) :
    Except Problem Value :=
  match filter with
  | .first => do
    noMoreThan 0 arguments
    value.first
  | .last => do
    noMoreThan 0 arguments
    value.last
  | .least => do
    noMoreThan 0 arguments
    return leastOf (fun a b => a.order b == .lt) (← value.listed)
  | .greatest => do
    noMoreThan 0 arguments
    return leastOf (fun a b => a.order b != .lt) (← value.listed)
  | .attribute => do
    let key ← valueArgument arguments[0]?
    noMoreThan 1 arguments
    value.item key

/-- What stands in for a value: another one, or the empty text where none is given. What is false
is replaced too if the second argument is true. -/
def Value.orDefault (value : Value) (arguments : List Value) : Except Problem Value := do
  noMoreThan 2 arguments
  let others ← ((arguments[1]?).getD (Value.boolean false)).test
  return if value.isUndefined || (others && !value.isTrue) then (arguments[0]?).getD (Value.text [])
    else value

/-! ## Making a list -/

/-- The entries of a map as lists of two. -/
def pairsOf (entries : List (Value × Value)) : List Value :=
  entries.map fun (key, value) => .list [key, value]

/-- The entries of a map, of which pairs are to be made. -/
def Value.pairs (value : Value) : Except Problem (List (Value × Value)) :=
  match value.entries? with
  | some entries => .ok entries
  | none => .error (.refused "cannot convert value into pair list".toList)

/-- The characters or the items of a value, the last one first. -/
def Value.reversed (value : Value) : Except Problem Value :=
  match value.text?, value.items? with
  | some t, _ => .ok (.text t.reverse)
  | none, some items =>
    .ok (if value.isUndefined || value.kind = .null then value else .iterator true items.reverse)
  | none, none =>
    .error (.refused ("cannot reverse values of type ".toList ++ value.kind.name))

/-- The parts between white space. -/
def splitAtBlanks : Text → List Text
  | [] => [[]]
  | c :: rest =>
    if Unicode.isWhiteSpace c then [] :: splitAtBlanks rest
    else
      match splitAtBlanks rest with
      | word :: more => (c :: word) :: more
      | [] => [[c]]

/-- The first parts between white space, and the rest as the last of so many parts. -/
def splitAtFirstBlanks : Nat → Text → List Text
  | 0, text => [text]
  | most + 1, text =>
    match text.dropWhile fun c => !Unicode.isWhiteSpace c with
    | [] => [text]
    | _ :: rest =>
      text.takeWhile (fun c => !Unicode.isWhiteSpace c) :: splitAtFirstBlanks most rest

/-- The first parts, and all others together as the last of so many parts. -/
def firstParts (separator : Text) (most : Nat) (parts : List Text) : List Text :=
  if parts.length ≤ most + 1 then parts
  else parts.take most ++ [separator.intercalate (parts.drop most)]

/-- The parts of a text, which is split so often at most. Without a separator they are the words
between white space. -/
def splitText (separator? : Option Text) (most? : Option Nat) (text : Text) : List Text :=
  match separator?, most? with
  | none, none => (splitAtBlanks text).filter (· ≠ [])
  | none, some most => splitAtFirstBlanks most text
  | some separator, none => Text.splitOn separator text
  | some separator, some most => firstParts separator most (Text.splitOn separator text)

/-- Items in groups of so many. -/
def batches (count : Nat) (current : List Value) : List Value → List (List Value)
  | [] => if current.isEmpty then [] else [current]
  | item :: rest =>
    if current.length = count then current :: batches count [item] rest
    else batches count (current ++ [item]) rest

/-- Items in so many groups, the larger ones first. A group that is smaller than others gets the
filler. -/
def slices (count : Nat) (filler? : Option Value) (items : List Value) : List (List Value) :=
  let size := items.length / count
  let larger := items.length % count
  (List.range count).map fun place =>
    let first := place * size + min place larger
    let slice := (items.drop first).take (if place < larger then size + 1 else size)
    if larger ≤ place then slice ++ filler?.toList else slice

/-- The items without those whose key an item before them has; `seen` are the keys so far. -/
def uniqueBy (key : Value → Value) (seen : List Value) : List Value → List Value
  | [] => []
  | item :: rest =>
    if seen.any fun other => other.order (key item) == .eq then uniqueBy key seen rest
    else item :: uniqueBy key (key item :: seen) rest

/-- Items that have been sorted by a key, in groups with the same key. -/
def groupsBy (key : Value → Value) (same : Value → Value → Bool) :
    List Value → List (Value × List Value)
  | [] => []
  | item :: rest =>
    match rest, groupsBy key same rest with
    | next :: _, (common, group) :: more =>
      if same (key item) (key next) then (common, item :: group) :: more
      else (key item, [item]) :: (common, group) :: more
    | _, groups => (key item, [item]) :: groups

/-- The items of several lists that stand at the same place, as far as all lists go. -/
def zipped : List Value → List (List Value) → List (List Value)
  | [], _ => []
  | item :: rest, others =>
    match others.mapM List.head? with
    | some heads => (item :: heads) :: zipped rest (others.map List.tail)
    | none => []

/-- Several values one behind the other: maps as one map, and otherwise all their items. -/
def chained (values : List Value) : Except Problem Value :=
  match if values.all (·.kind = .map) then values.mapM Value.entries? else none with
  | some maps => .ok (.map .plain (entriesOf maps.flatten))
  | none => do
    let lists ← values.mapM Value.iterate
    return if values.all (·.kind = .sequence) then .list lists.flatten
      else .iterator false lists.flatten

/-- The text of an attribute that is given by name. -/
def Given.attribute? (given : Given) : Except Problem (Option Text) :=
  optional nameArgument (given.keyword? "attribute".toList)

/-- The list that a filter makes of a value. -/
def ListFilter.apply (filter : ListFilter) (value : Value) (arguments : List Value) :
    Except Problem Value :=
  let given := Given.of arguments
  match filter with
  | .list => do
    noMoreThan 0 arguments
    return .list (← value.listed)
  | .items => do
    noMoreThan 0 arguments
    return .list (pairsOf (← value.pairs))
  | .sortedItems => do
    noMoreThan 0 given.positional
    let entries ← value.pairs
    let byValue := (given.keyword? "by".toList).bind Value.text? = some "value".toList
    let caseful ← given.flag "case_sensitive".toList
    let backwards ← given.flag "reverse".toList
    given.onlyNamed ["by".toList, "case_sensitive".toList, "reverse".toList]
    let key := fun entry : Value × Value => if byValue then entry.2 else entry.1
    return .list (pairsOf (sortedBy (fun a b => (key a).orderBy caseful (key b)) backwards entries))
  | .reverse => do
    noMoreThan 0 arguments
    value.reversed
  | .split => do
    let separator? ← optional textArgument arguments[0]?
    let most? ← optional codeArgument arguments[1]?
    noMoreThan 2 arguments
    let most? := most?.bind fun most => if 0 ≤ most.value then some most.value.toNat else none
    return .iterator false ((splitText separator? most? value.toText).map .text)
  | .lines => do
    noMoreThan 0 arguments
    return .ofTexts (linesOf value.toText)
  | .batch => do
    let count ← sizeArgument arguments[0]?
    let filler? ← optional valueArgument arguments[1]?
    noMoreThan 2 arguments
    if count = 0 then .error (.refused "count cannot be 0".toList)
    let filled := fun batch : List Value =>
      batch ++ filler?.elim [] (List.replicate (count - batch.length))
    return .list ((batches count [] (← value.iterate)).map fun batch => .list (filled batch))
  | .slice => do
    let count ← sizeArgument arguments[0]?
    let filler? ← optional valueArgument arguments[1]?
    noMoreThan 2 arguments
    if count = 0 then .error (.refused "count cannot be 0".toList)
    return .list ((slices count filler? (← value.iterate)).map .list)
  | .sort => do
    noMoreThan 0 given.positional
    let items ← value.listed
    let caseful ← given.flag "case_sensitive".toList
    let path? ← given.attribute?
    let backwards ← given.flag "reverse".toList
    given.onlyNamed ["case_sensitive".toList, "attribute".toList, "reverse".toList]
    return .list (sortedBy (orderByAttribute caseful path?) backwards items)
  | .unique => do
    noMoreThan 0 given.positional
    let path? ← given.attribute?
    let caseful ← given.flag "case_sensitive".toList
    given.onlyNamed ["case_sensitive".toList, "attribute".toList]
    let items ← value.listed
    let key := fun item : Value =>
      let part := path?.elim item fun path => item.itemAlongOr path .undefined
      if caseful then part else part.caseless
    return .list (uniqueBy key [] items)
  | .group => do
    let path? ← optional nameArgument given.positional[0]?
    noMoreThan 1 given.positional
    let path ← path?.elim (nameArgument (given.keyword? "attribute".toList)) .ok
    let caseful ← given.flag "case_sensitive".toList
    let default := (given.keyword? "default".toList).getD .undefined
    given.onlyNamed ["case_sensitive".toList, "attribute".toList, "default".toList]
    let key := fun item : Value => item.itemAlongOr path default
    let items := sortedBy (fun a b => (key a).orderBy caseful (key b)) false (← value.iterate)
    let same := fun a b : Value => a.orderBy caseful b == .eq
    return .list ((groupsBy key same items).map fun part => .group part.1 part.2)
  | .chain => chained (value :: arguments)
  | .zip => do
    let items ← value.iterate
    let others ← arguments.mapM Value.iterate
    return .list ((zipped items others).map .list)

end Codebook.Template
