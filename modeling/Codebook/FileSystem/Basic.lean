import Codebook.Text

/-!
# Files and directories

A file system says what stands at each location, a location being the names on the way down from
the root. The type holds the one rule that makes it a tree: what stands somewhere stands in a
directory (`closed`). `put` is the only change there is, and `at?_put` says all about it: a new
node at one location, and everything else as it was.
-/

namespace Codebook

/-- The names on the way from the root to a file or directory. -/
abbrev Location := List Text

/-- What can stand at a location. -/
inductive Node where
  | file (content : Bytes)
  | directory
  deriving DecidableEq

/-- What a list of entries has at a location. The root is a directory and has no entry. -/
def nodeAt (entries : List (Location × Node)) : Location → Option Node
  | [] => some .directory
  | name :: names => entries.lookup (name :: names)

/-- Files and directories, all of them in a directory. -/
structure FileSystem where
  entries : List (Location × Node)
  closed : ∀ location name, nodeAt entries (location ++ [name]) ≠ none →
    nodeAt entries location = some .directory

namespace FileSystem

/-- What stands at a location. -/
def at? (files : FileSystem) (location : Location) : Option Node := nodeAt files.entries location

/-- The file system with nothing in its root. -/
def empty : FileSystem := ⟨[], fun location name h => by cases location <;> simp [nodeAt] at h⟩

/-- The location of a directory. -/
def Directory (files : FileSystem) : Type :=
  { location : Location // files.at? location = some .directory }

namespace Directory

variable {files : FileSystem}

/-- The root. -/
def root : files.Directory := ⟨[], rfl⟩

/-- The directory above a directory. The root is above itself. -/
def parent (dir : files.Directory) : files.Directory :=
  ⟨dir.val.dropLast, by
    rcases List.eq_nil_or_concat dir.val with hnil | ⟨front, name, hconcat⟩
    · simpa [hnil] using dir.property
    · have hdir := dir.property
      rw [hconcat] at hdir ⊢
      simp only [List.concat_eq_append, List.dropLast_concat] at hdir ⊢
      exact files.closed front name (by simpa [at?] using Option.ne_none_iff_exists'.2 ⟨_, hdir⟩)⟩

/-- The location of a name in a directory. -/
def child (dir : files.Directory) (name : Text) : Location := dir.val ++ [name]

end Directory

/-! ## Changing a file system -/

/-- Entries with a node for a location, in place of the one it had. -/
def putEntry (location : Location) (node : Node) (entries : List (Location × Node)) :
    List (Location × Node) :=
  (location, node) :: entries.filter (·.1 ≠ location)

/-- Elsewhere nothing changes. -/
theorem lookup_filter_ne {location other : Location} (h : other ≠ location)
    (entries : List (Location × Node)) :
    (entries.filter (·.1 ≠ location)).lookup other = entries.lookup other := by
  induction entries with
  | nil => rfl
  | cons entry entries ih =>
    by_cases hentry : entry.1 = location
    · have hne : (other == entry.1) = false := by simpa [hentry] using h
      rw [List.filter_cons_of_neg (by simpa using hentry), ih, List.lookup_cons, hne]
    · rw [List.filter_cons_of_pos (by simpa using hentry), List.lookup_cons, List.lookup_cons, ih]

/-- What the entries have after a change. -/
theorem nodeAt_putEntry {location : Location} (hlocation : location ≠ []) (node : Node)
    (entries : List (Location × Node)) (other : Location) :
    nodeAt (putEntry location node entries) other
      = if other = location then some node else nodeAt entries other := by
  cases other with
  | nil => rw [if_neg (Ne.symm hlocation)]; rfl
  | cons name names =>
    by_cases h : name :: names = location
    · simp [nodeAt, putEntry, h]
    · have hne : (name :: names == location) = false := by simpa using h
      rw [if_neg h]
      simp only [nodeAt, putEntry, List.lookup_cons, hne]
      exact lookup_filter_ne h entries

/-- The file system with a node under a name of a directory. A directory is never replaced. -/
def put (files : FileSystem) (dir : files.Directory) (name : Text) (node : Node)
    (hfree : files.at? (dir.child name) ≠ some .directory) : FileSystem where
  entries := putEntry (dir.child name) node files.entries
  closed location inner h := by
    have hchild : dir.child name ≠ [] := by simp [Directory.child]
    rw [nodeAt_putEntry hchild] at h ⊢
    by_cases hhere : location = dir.child name
    · have hinner : location ++ [inner] ≠ dir.child name := fun heq => by
        have := congrArg List.length (heq.trans hhere.symm)
        simp at this
      rw [if_neg hinner] at h
      exact absurd (hhere ▸ files.closed location inner h) hfree
    · rw [if_neg hhere]
      by_cases hinner : location ++ [inner] = dir.child name
      · rw [(List.append_inj' hinner rfl).1]
        exact dir.property
      · rw [if_neg hinner] at h
        exact files.closed location inner h

/-- What stands where after a change. -/
theorem at?_put (files : FileSystem) (dir : files.Directory) (name : Text) (node : Node)
    (hfree : files.at? (dir.child name) ≠ some .directory) (location : Location) :
    (files.put dir name node hfree).at? location
      = if location = dir.child name then some node else files.at? location :=
  nodeAt_putEntry (by simp [Directory.child]) node files.entries location

/-! ## Listing -/

/-- How a location is written in a listing. A directory ends in a slash. -/
def entryText : Location × Node → Text
  | (location, .file _) => ['/'].intercalate location
  | (location, .directory) => ['/'].intercalate location ++ ['/']

/-- Everything below the root, in the order of the characters. -/
def listing (files : FileSystem) : List Text :=
  (files.entries.map entryText).mergeSort fun a b => !b.before a

end FileSystem

end Codebook
