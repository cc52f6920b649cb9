import Codebook.CommandLine.Run

/-!
# The program

The command line on a computer. Files, standard output and the environment are those of the
process; there is no network, so nobody answers there.
-/

namespace Codebook

/-- A run of the program, with the events that it shows. -/
abbrev Process := StateT Threshold IO

namespace Process

/-- What the system reports by a number, of which some reports bring the negation. -/
def faultOfCode (code : UInt32) (details : String) : FileFault :=
  match (if code < 0x80000000 then code else 0 - code).toNat with
  | 2 => .notFound
  | 17 => .alreadyExists
  | 20 => .notDirectory
  | 21 => .isDirectory
  | 28 => .noSpace
  | 36 => .nameTooLong
  | n => .other (details.toList ++ " (os error ".toList ++ Text.ofNat n ++ [')'])

/-- What the system reports, as a fault. -/
def faultOf : IO.Error → FileFault
  | .noFileOrDirectory _ code details | .alreadyExists _ code details
  | .inappropriateType _ code details | .invalidArgument _ code details
  | .permissionDenied _ code details | .resourceExhausted _ code details
  | .noSuchThing _ code details | .otherError code details
  | .resourceBusy code details | .unsupportedOperation code details
  | .hardwareFault code details => faultOfCode code details
  | error => .other error.toString.toList

/-- An operation on a path, if the path can be one. -/
def onPath {α : Type} (path : Text) (operation : String → IO α) : IO (Except FileFault α) := do
  match Path.check path with
  | .error fault => return .error fault
  | .ok _ =>
    try
      return .ok (← operation path.toString)
    catch error =>
      return .error (faultOf error)

/-- The bytes as one block. -/
def block (content : Bytes) : ByteArray := ⟨content.toArray⟩

/-- Prints, and sees to it that what is printed arrives. -/
def printBytes (content : Bytes) : IO (Except FileFault Unit) := do
  try
    let stdout ← IO.getStdout
    stdout.write (block content)
    stdout.flush
    return .ok ()
  catch error =>
    return .error (faultOf error)

instance : Host Process where
  readFile path := onPath path fun name => do return (← IO.FS.readBinFile name).toList
  makeDirectory path := onPath path fun name => IO.FS.createDir name
  isDirectory path := do
    match ← onPath path fun name => do (← IO.FS.realPath name).isDir with
    | .ok answer => return answer
    | .error _ => return false
  writeFile path content := onPath path fun name => IO.FS.writeBinFile name (block content)
  print content := printBytes content
  fetch _ := return none
  showEvents threshold := set threshold
  report event := do
    if (← get).admits event.severity then
      IO.eprintln event.line.toString

end Process

end Codebook

open Codebook in
/-- Runs the command line, and complains where it has to. -/
def main (arguments : List String) : IO UInt32 := do
  let environment : CommandLine.Environment :=
    ⟨(← IO.getEnv "ERRORS_CONST_JSON").map Text.ofString,
      (← IO.getEnv "RUST_LOG").map Text.ofString⟩
  let (exit, _) ← (CommandLine.run environment (arguments.map Text.ofString) : Process _).run .off
  for complaint in exit.complaints do
    IO.eprintln complaint.toString
  if exit.usage then
    IO.eprintln (Text.toString CommandLine.usage)
  return exit.status.toUInt32
