import Codebook.Text.Numeral

/-!
# Log

What a run tells about itself. Each event has a severity, and a threshold says which severities
are shown; nothing else depends on it.
-/

namespace Codebook

/-- How much an event matters, from the most to the least. -/
inductive Severity where
  | error
  | warn
  | info
  | debug
  | trace
  deriving DecidableEq, Repr

namespace Severity

/-- All severities, from the most to the least. -/
def all : List Severity := [error, warn, info, debug, trace]

/-- The place among all severities. -/
def rank : Severity → Nat
  | error => 0
  | warn => 1
  | info => 2
  | debug => 3
  | trace => 4

/-- The severity as it stands in front of an event. -/
def name : Severity → Text
  | error => "ERROR".toList
  | warn => "WARN".toList
  | info => "INFO".toList
  | debug => "DEBUG".toList
  | trace => "TRACE".toList

end Severity

/-- Which events are shown. -/
inductive Threshold where
  /-- None. -/
  | off
  /-- Those that matter as much as this, or more. -/
  | upTo (severity : Severity)
  deriving DecidableEq, Repr

namespace Threshold

/-- Whether events of a severity are shown. -/
def admits : Threshold → Severity → Bool
  | off, _ => false
  | upTo least, severity => severity.rank ≤ least.rank

/-- All thresholds, from the one that shows least. -/
def all : List Threshold := off :: Severity.all.map upTo

/-- The word for the threshold. -/
def word : Threshold → Text
  | off => "off".toList
  | upTo severity => severity.name.map Char.toLower

/-- The threshold that a word names, in letters of either case, or a digit counts up to, from `0`
for `off`. Anything else hides all but errors: so do the directives here that set the threshold of
a part of the program, such as `errors_const=debug`, and lists of directives. Parts of the program
are not told apart, and one threshold is all there is. -/
def ofWord (word : Text) : Threshold :=
  (all.find? fun threshold =>
    word.map Char.toLower = threshold.word ∨ word = Text.ofNat (all.idxOf threshold)).getD
      (upTo .error)

end Threshold

/-- What a run tells about itself. -/
inductive Event where
  /-- Comments of so many bytes were taken out of a catalog. -/
  | stripped (bytes : Nat)
  /-- A catalog is fetched. -/
  | downloading (source : Text)
  /-- A catalog with so many codes is there. -/
  | loaded (codes : Nat)
  /-- A template that could be read is rendered for so many codes. -/
  | rendering (codes : Nat)
  /-- A file of so many bytes was written. -/
  | wrote (path : Text) (bytes : Nat)
  /-- Everything is done. -/
  | complete (codes bytes : Nat)
  deriving DecidableEq, Repr

namespace Event

/-- How much an event matters. -/
def severity : Event → Severity
  | stripped _ | rendering _ => .debug
  | downloading _ | loaded _ | wrote _ _ | complete _ _ => .info

/-- A named value behind the words of an event. -/
def field (name : String) (value : Text) : Text := ' ' :: name.toList ++ '=' :: value

/-- The event in words. -/
def message : Event → Text
  | stripped bytes =>
    "stripped block comments from catalog".toList ++ field "removed" (Text.ofNat bytes)
  | downloading source => "downloading error catalog".toList ++ field "url" source
  | loaded codes => "loaded error catalog".toList ++ field "codes" (Text.ofNat codes)
  | rendering codes => "rendering template".toList ++ field "codes" (Text.ofNat codes)
  | wrote path bytes =>
    "wrote output".toList ++ field "path" path ++ field "bytes" (Text.ofNat bytes)
  | complete codes bytes =>
    "generation complete".toList ++ field "codes" (Text.ofNat codes)
      ++ field "bytes" (Text.ofNat bytes)

/-- The event as a line of the log. -/
def line (event : Event) : Text := event.severity.name ++ ' ' :: event.message

end Event

end Codebook
