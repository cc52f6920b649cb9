import Codebook.Template.Number

/-!
# Comparing values

Numbers are equal when they have the same value, whether they are whole numbers or doubles. The
order goes by kind first, so values of any two kinds can be ordered; among numbers it is the one
of their values, among texts that of their characters, among lists that of their items from the
front, and among maps that of their entries.

The keys of a map are told apart by their order, so `1` and `True` are two keys though they are
equal. Two functions are equal if they show the same.
-/

namespace Codebook.Template

/-! ## Numbers -/

/-- The largest whole number that takes as many bits as a number. -/
def Number.ceiling : Number → Int
  | .natural n => if isWide n then 0xFFFFFFFFFFFFFFFFFFFFFFFFFFFFFFFF else 0xFFFFFFFFFFFFFFFF
  | .integer n => if (Code.ofInt? n).isSome then 0x7FFFFFFFFFFFFFFF else greatestInteger
  | .float _ => 0

/-- The double with the value of a number, if there is one. A ceiling has the double above it. -/
def Number.exactFloat? (number : Number) : Option Float :=
  match number with
  | .float x => some x
  | _ =>
    let x := number.toFloat
    if (Number.float x).toInt?.map (min number.ceiling) = number.toInt? then some x else none

/-- Whether two numbers have the same value. -/
def Number.equals (a b : Number) : Bool :=
  match a.integers? b with
  | some (m, n) => m == n
  | none =>
    match a.exactFloat?, b.exactFloat? with
    | some x, some y => x == y
    | _, _ => false

/-- The place of a double among all doubles, from the smallest up. What is no number comes before
all numbers. -/
def floatRank (x : Float) : Int :=
  let bits := if x.isNaN then 0xFFF8000000000000 else x.toBits.toNat
  if bits < 0x8000000000000000 then bits else 0x7FFFFFFFFFFFFFFF - bits

/-- The order of two doubles. Zero is equal to zero, whatever their signs. -/
def compareFloats (x y : Float) : Ordering :=
  if x == y then .eq else compare (floatRank x) (floatRank y)

/-- The order of two numbers of which one is a double and the other lies between doubles. The
double next to that one decides, and the value itself where the double is the one at hand. -/
def compareMixed (a b : Number) : Ordering :=
  (compareFloats a.toFloat b.toFloat).then
    (match a.toInt?, b.toInt? with
    | some m, some n => compare m n
    | _, _ => .eq)

/-- The order of two numbers. -/
def Number.order (a b : Number) : Ordering :=
  match a.integers? b with
  | some (m, n) => compare m n
  | none =>
    match a.exactFloat?, b.exactFloat? with
    | some x, some y => compareFloats x y
    | _, _ => compareMixed a b

/-! ## The order of values -/

/-- The order of two texts. -/
def compareTexts (s t : Text) : Ordering :=
  if s = t then .eq else if Text.before s t then .lt else .gt

/-- The order of the kinds. -/
def Kind.rank : Kind → Nat
  | .undefined => 0
  | .null => 1
  | .boolean => 2
  | .number => 3
  | .text => 4
  | .sequence => 5
  | .map => 6
  | .iterator => 7
  | .object => 8

/-- The order of two kinds, and that of the values where the kinds are the same. -/
def Kind.order (a b : Kind) (values : Ordering) : Ordering := (compare a.rank b.rank).then values

mutual

/-- The order of two values. -/
def Value.order : Value → Value → Ordering
  | .text s, b | .markup s, b => Kind.text.order b.kind (b.text?.elim .eq (compareTexts s))
  | .list xs, b => Kind.sequence.order b.kind (b.elements?.elim .eq (Value.orderAll xs))
  | .iterator _ xs, b => Kind.iterator.order b.kind (b.elements?.elim .eq (Value.orderAll xs))
  | .group x xs, b =>
    Kind.sequence.order b.kind
      (match b.elements? with
      | some [y, ys] => (x.order y).then (ys.elements?.elim .eq (Value.orderAll xs))
      | _ => .eq)
  | .map _ entries, b => Kind.map.order b.kind (b.entries?.elim .eq (Value.orderEntries entries))
  | a, b =>
    a.kind.order b.kind
      (match a.number?, b.number? with
      | some m, some n => m.order n
      | _, _ => if a.kind = .object then compareTexts a.toText b.toText else .eq)

/-- The order of two lists: that of the first items that differ, else the shorter one is first. -/
def Value.orderAll : List Value → List Value → Ordering
  | [], [] => .eq
  | [], _ :: _ => .lt
  | _ :: _, [] => .gt
  | x :: xs, y :: ys => (x.order y).then (Value.orderAll xs ys)

/-- The order of two maps: that of the first entries that differ, else the shorter one is first. -/
def Value.orderEntries : List (Value × Value) → List (Value × Value) → Ordering
  | [], [] => .eq
  | [], _ :: _ => .lt
  | _ :: _, [] => .gt
  | (key, value) :: rest, (key', value') :: rest' =>
    ((key.order key').then (value.order value')).then (Value.orderEntries rest rest')

end

/-- The value of a key. -/
def entryOf? (entries : List (Value × Value)) (key : Value) : Option Value :=
  (entries.find? fun entry => entry.1.order key == .eq).map Prod.snd

/-- The entries with a value for a key, in the order of the keys. -/
def withEntry (key value : Value) : List (Value × Value) → List (Value × Value)
  | [] => [(key, value)]
  | (first, its) :: rest =>
    match key.order first with
    | .lt => (key, value) :: (first, its) :: rest
    | .eq => (first, value) :: rest
    | .gt => (first, its) :: withEntry key value rest

/-- Entries in the order of their keys. The last one of a key is kept. -/
def entriesOf (entries : List (Value × Value)) : List (Value × Value) :=
  entries.foldl (fun sorted entry => withEntry entry.1 entry.2 sorted) []

/-! ## Equal values -/

mutual

/-- Whether two values are equal. -/
def Value.equals : Value → Value → Bool
  | .text s, b | .markup s, b => b.text? == some s
  | .list xs, b | .iterator _ xs, b => b.elements?.any (Value.allEqual xs)
  | .group x xs, b =>
    match b.elements? with
    | some [y, ys] => x.equals y && ys.elements?.any (Value.allEqual xs)
    | _ => false
  | .map _ entries, b =>
    b.entries?.any fun others => entries.length == others.length && Value.allHeld entries others
  | .loop state previous next, .loop state' previous' next' =>
    state.index == state'.index && state.length? == state'.length? && state.depth == state'.depth &&
      previous.equals previous' && next.equals next'
  | a, b =>
    match a.number?, b.number? with
    | some m, some n => m.equals n
    | _, _ =>
      match a.kind with
      | .object => b.kind == .object && a.toText == b.toText
      | .undefined | .null => b.kind == a.kind
      | _ => false

/-- Whether two lists are equal, item by item. -/
def Value.allEqual : List Value → List Value → Bool
  | [], [] => true
  | x :: xs, y :: ys => x.equals y && Value.allEqual xs ys
  | _, _ => false

/-- Whether all entries are among some others. -/
def Value.allHeld : List (Value × Value) → List (Value × Value) → Bool
  | [], _ => true
  | (key, value) :: rest, others =>
    (others.any fun (key', value') => key.order key' == .eq && value.equals value') &&
      Value.allHeld rest others

end

/-! ## Comparisons -/

/-- There has to be a value. -/
def Value.defined (value : Value) : Except Problem Value :=
  match value with
  | .undefined => .error .undefinedValue
  | _ => .ok value

/-- Whether one value holds another: a text its parts, a list its items, a map its keys. -/
def Value.holds (container value : Value) : Except Problem Bool :=
  match container.text?, container.elements?, container.entries? with
  | some t, _, _ => .ok (Text.contains value.toText t)
  | _, some items, _ => .ok (items.any (·.equals value))
  | _, _, some entries => .ok (entryOf? entries value).isSome
  | _, _, _ =>
    if container.kind = .undefined || container.kind = .object then .ok false
    else .error .noContainment

/-- Whether a comparison holds between two values, which may be undefined. -/
def Comparison.between (op : Comparison) (a b : Value) : Except Problem Bool :=
  match op with
  | .equal => .ok (a.equals b)
  | .notEqual => .ok !a.equals b
  | .less => .ok (a.order b == .lt)
  | .lessEqual => .ok (a.order b != .gt)
  | .greater => .ok (a.order b == .gt)
  | .greaterEqual => .ok (a.order b != .lt)
  | .contained => b.holds a
  | .notContained => (b.holds a).map (!·)

/-- Whether a comparison holds between two values. -/
def Comparison.apply (op : Comparison) (a b : Value) : Except Problem Bool := do
  let a ← a.defined
  let b ← b.defined
  op.between a b

end Codebook.Template
