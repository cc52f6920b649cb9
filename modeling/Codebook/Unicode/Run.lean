/-!
# Runs of characters

Tables of characters are lists of ranges, and tables of case mappings lists of runs: characters at
a fixed step from one another that all move by the same distance.
-/

namespace Codebook.Unicode

/-- Whether a character lies in one of the ranges, both ends included. -/
def inRanges (ranges : List (Nat × Nat)) (c : Char) : Bool :=
  ranges.any fun range => range.1 ≤ c.toNat && c.toNat ≤ range.2

/-- Every `step`-th character from `first` to `last`, and how far each is moved. -/
structure Run where
  first : Nat
  last : Nat
  step : Nat
  shift : Int

/-- Whether a character belongs to the run. -/
def Run.covers (run : Run) (n : Nat) : Bool :=
  run.first ≤ n && n ≤ run.last && (n - run.first) % run.step == 0

/-- The character that a table maps `c` to; a character that no run covers stays. -/
def mapByRuns (runs : List Run) (c : Char) : Char :=
  match runs.find? (·.covers c.toNat) with
  | some run => Char.ofNat (c.toNat + run.shift).toNat
  | none => c

end Codebook.Unicode
