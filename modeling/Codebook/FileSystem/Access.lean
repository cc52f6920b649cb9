import Codebook.FileSystem.Basic
import Codebook.FileSystem.Path

/-!
# Reading, creating and writing by path

A path is walked from the root through directories. Its last segment is looked up last, because
what may stand there depends on what is asked for: a file to read, or a free name for a directory,
or a free name or a file to write.
-/

namespace Codebook.FileSystem

variable (files : FileSystem)

/-- What the last segment of a path names: a directory that is there, or a name in a directory
which may be free. -/
inductive Target where
  | standing
  | entry (dir : files.Directory) (name : Text)

/-- Whether a segment is a name, not a dot or two. -/
def isName (segment : Text) : Bool := segment != Path.here && segment != Path.above

/-- The directory that a segment leads to. -/
def enter (dir : files.Directory) (segment : Text) : Except FileFault files.Directory :=
  if segment = Path.here then .ok dir
  else if segment = Path.above then .ok dir.parent
  else if Path.isNameTooLong segment then .error .nameTooLong
  else match h : files.at? (dir.child segment) with
    | none => .error .notFound
    | some (.file _) => .error .notDirectory
    | some .directory => .ok ⟨dir.child segment, h⟩

/-- Where the segments of a path lead to. -/
def locate (dir : files.Directory) : List Text → Except FileFault (Target files)
  | [] => .ok .standing
  | [last] => if isName last then .ok (.entry dir last) else .ok .standing
  | segment :: next :: rest => do locate (← files.enter dir segment) (next :: rest)

/-- Where a path leads to. -/
def target (path : Text) : Except FileFault (Target files) := do
  Path.check path
  files.locate .root (Path.segments path)

/-! ## Reading -/

/-- What a path names. -/
def node (path : Text) : Except FileFault Node := do
  match ← files.target path with
  | .standing => .ok .directory
  | .entry dir name =>
    if Path.isNameTooLong name then .error .nameTooLong
    else match files.at? (dir.child name) with
      | none => .error .notFound
      | some .directory => .ok .directory
      | some (.file content) =>
        if Path.endsInSlash path then .error .notDirectory else .ok (.file content)

/-- Whether a path names a directory. -/
def isDirectory (path : Text) : Bool :=
  match files.node path with
  | .ok .directory => true
  | _ => false

/-- What the file holds that a path names. -/
def read (path : Text) : Except FileFault Bytes := do
  match ← files.node path with
  | .directory => .error .isDirectory
  | .file content => .ok content

/-! ## Creating and writing -/

/-- The file system with a directory at a path where nothing was. -/
def makeDirectory (path : Text) : Except FileFault FileSystem := do
  match ← files.target path with
  | .standing => .error .alreadyExists
  | .entry dir name =>
    if Path.isNameTooLong name then .error .nameTooLong
    else match h : files.at? (dir.child name) with
      | some _ => .error .alreadyExists
      | none => .ok (files.put dir name .directory (by simp [h]))

/-- The file system with some content in the file at a path, whether or not there was one. -/
def write (path : Text) (content : Bytes) : Except FileFault FileSystem := do
  match ← files.target path with
  | .standing => .error .isDirectory
  | .entry dir name =>
    if Path.endsInSlash path then .error .isDirectory
    else if Path.isNameTooLong name then .error .nameTooLong
    else if h : files.at? (dir.child name) = some .directory then .error .isDirectory
    else .ok (files.put dir name (.file content) h)

end Codebook.FileSystem
