import Codebook.Text

/-!
# Filters and their names

Filters are told apart by what they make of a value: a text, a number or a truth value, one of its
items, a list, or what another filter or a test makes of each of its items. Some have the name of a
function and do something else.
-/

namespace Codebook.Template

/-- The filters that make a text. -/
inductive TextFilter where
  | upper
  | lower
  | title
  | capitalize
  | trim
  | replace
  | join
  | indent
  /-- Over several lines. -/
  | spread
  deriving DecidableEq, Repr

/-- The filters that make a number or a truth value. -/
inductive NumberFilter where
  | length
  | abs
  | round
  | int
  | float
  | sum
  | bool
  deriving DecidableEq, Repr

/-- The filters that make a text that is shown as it stands, or leave a text alone. -/
inductive MarkupFilter where
  | safe
  | escape
  | string
  deriving DecidableEq, Repr

/-- The filters that choose a value. -/
inductive ItemFilter where
  | first
  | last
  | least
  | greatest
  | attribute
  deriving DecidableEq, Repr

/-- The filters that make a list. -/
inductive ListFilter where
  | list
  | items
  | sortedItems
  | reverse
  | split
  | lines
  | batch
  | slice
  | sort
  | unique
  | group
  | chain
  | zip
  deriving DecidableEq, Repr

/-- The filters that look at each item by itself. -/
inductive EachFilter where
  | map
  /-- The items that a test holds of, or those that it does not hold of. -/
  | choose (holds : Bool)
  /-- The same for an attribute of the items. -/
  | chooseByAttribute (holds : Bool)
  deriving DecidableEq, Repr

/-- The filters that a template can apply. -/
inductive Filter where
  | text (filter : TextFilter)
  | number (filter : NumberFilter)
  | markup (filter : MarkupFilter)
  | item (filter : ItemFilter)
  | list (filter : ListFilter)
  | each (filter : EachFilter)
  /-- Another value where there is none. -/
  | default
  deriving DecidableEq, Repr

/-- All filters with their names, in the order of the names. -/
def Filter.all : List (Text × Filter) := [
  ("abs".toList, .number .abs), ("attr".toList, .item .attribute), ("batch".toList, .list .batch),
  ("bool".toList, .number .bool), ("capitalize".toList, .text .capitalize),
  ("chain".toList, .list .chain), ("count".toList, .number .length), ("d".toList, .default),
  ("default".toList, .default), ("dictsort".toList, .list .sortedItems),
  ("e".toList, .markup .escape), ("escape".toList, .markup .escape),
  ("first".toList, .item .first), ("float".toList, .number .float),
  ("groupby".toList, .list .group), ("indent".toList, .text .indent),
  ("int".toList, .number .int), ("items".toList, .list .items), ("join".toList, .text .join),
  ("last".toList, .item .last), ("length".toList, .number .length),
  ("lines".toList, .list .lines), ("list".toList, .list .list), ("lower".toList, .text .lower),
  ("map".toList, .each .map), ("max".toList, .item .greatest), ("min".toList, .item .least),
  ("pprint".toList, .text .spread), ("reject".toList, .each (.choose false)),
  ("rejectattr".toList, .each (.chooseByAttribute false)),
  ("replace".toList, .text .replace), ("reverse".toList, .list .reverse),
  ("round".toList, .number .round), ("safe".toList, .markup .safe),
  ("select".toList, .each (.choose true)),
  ("selectattr".toList, .each (.chooseByAttribute true)), ("slice".toList, .list .slice),
  ("sort".toList, .list .sort), ("split".toList, .list .split),
  ("string".toList, .markup .string), ("sum".toList, .number .sum),
  ("title".toList, .text .title), ("trim".toList, .text .trim),
  ("unique".toList, .list .unique), ("upper".toList, .text .upper), ("zip".toList, .list .zip)]

/-- The filter with a name. -/
def Filter.ofName? (name : Text) : Option Filter := all.lookup name

end Codebook.Template
