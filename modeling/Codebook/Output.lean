import Codebook.Error
import Codebook.FileSystem.Path
import Codebook.Host

/-!
# Where output goes

Output is printed, or written to a file. The directories above the file are created first, from
the outermost that is missing on inwards; where that fails, the error names the directory right
above the file and not the file.
-/

namespace Codebook

variable {m : Type → Type} [Monad m] [Host m]

/-- What an attempt to create a directory comes to: it does not matter that it failed where a
directory is there. -/
def settle (path : Text) : Except FileFault Unit → ExceptT FileFault m Unit
  | .ok _ => pure ()
  | .error fault => do if ← Host.isDirectory path then pure () else throw fault

/-- Creates the first of some directories, each of which lies in the next. Those behind it are
looked at only where it cannot be created because they are missing. -/
def createDirectories : List Text → ExceptT FileFault m Unit
  | [] => pure ()
  | path :: above => do
    match ← Host.makeDirectory path with
    | .error .notFound =>
      createDirectories above
      settle path (← Host.makeDirectory path)
    | result => settle path result

/-- Creates the directories above a path. The fault comes with the nearest of them. -/
def createParents (path : Text) : ExceptT Error m Unit :=
  match Path.parents path with
  | [] => pure ()
  | parent :: above => do
    orFail (.write parent) (← (createDirectories (parent :: above)).run)

/-- How errors name standard output. -/
def standardOutput : Text := "<stdout>".toList

/-- Prints a text, or writes it to a file. -/
def deliver (path? : Option Text) (t : Text) : ExceptT Error m Unit := do
  let content := Utf8.encode t
  match path? with
  | none => orFail (.write standardOutput) (← Host.print content)
  | some path =>
    createParents path
    orFail (.write path) (← Host.writeFile path content)
    Host.report (.wrote path content.length)

end Codebook
