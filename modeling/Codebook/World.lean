import Codebook.FileSystem.Access
import Codebook.Host

/-!
# A world to run in

Files, a network, a standard output and a log as one value. Every operation of `Host` is a
function on it, so what a run does is an equation.
-/

namespace Codebook

/-- Everything outside a run that a run can read or change. -/
structure World where
  files : FileSystem
  /-- What is at an address, where anybody answers. -/
  network : Url → Option Response
  /-- Whether standard output takes what is printed. -/
  acceptsOutput : Bool
  /-- What was printed. -/
  printed : Bytes
  /-- Which events are shown. -/
  threshold : Threshold
  /-- The events that were shown. -/
  log : List Event

namespace World

/-- A world with some files, in which nobody answers and nothing has happened yet. -/
def ofFiles (files : FileSystem) : World := ⟨files, fun _ => none, true, [], .off, []⟩

/-- Does to the files what may fail, in which case they stay as they are. -/
def changeFiles (change : FileSystem → Except FileFault FileSystem) :
    StateM World (Except FileFault Unit) := fun world =>
  match change world.files with
  | .error fault => (.error fault, world)
  | .ok files => (.ok (), { world with files })

/-- Prints. Printing nothing always succeeds. -/
def write (content : Bytes) : StateM World (Except FileFault Unit) := fun world =>
  if world.acceptsOutput ∨ content = [] then
    (.ok (), { world with printed := world.printed ++ content })
  else (.error .noSpace, world)

/-- Adds an event to the log, if it is one that is shown. -/
def note (event : Event) : StateM World Unit := fun world =>
  ((), if world.threshold.admits event.severity then { world with log := world.log ++ [event] }
    else world)

instance : Host (StateM World) where
  readFile path := fun world => (world.files.read path, world)
  makeDirectory path := changeFiles (·.makeDirectory path)
  isDirectory path := fun world => (world.files.isDirectory path, world)
  writeFile path content := changeFiles (·.write path content)
  print := write
  fetch url := fun world => (world.network url, world)
  showEvents threshold := fun world => ((), { world with threshold })
  report := note

end World

end Codebook
