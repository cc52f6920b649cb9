import Codebook.CommandLine.Request
import Codebook.Generation

/-!
# Runs

What a command line does, and how it ends: an exit status and the complaints that go with it. A
command line that is refused changes nothing, and neither does one that lacks the catalog or the
template. Events are shown as the environment says, or else as the options say, and that is all
there is to it: no other outcome depends on which are shown.
-/

namespace Codebook.CommandLine

/-- What the environment of a run says. -/
structure Environment where
  /-- The catalog to use where the command line gives none. -/
  json? : Option Text
  /-- Which events are shown. -/
  log? : Option Text
  deriving DecidableEq, Repr

/-- How a run ends. -/
structure Exit where
  status : Nat
  /-- The lines that say what went wrong. -/
  complaints : List Text
  /-- Whether the usage goes with them. -/
  usage : Bool
  deriving DecidableEq, Repr

/-- The status of a run whose standard output fails where nothing can be said about it. -/
def brokenOutputStatus : Nat := 101

/-- The lines that say what went wrong and why. -/
def complaints (error : Error) : List Text :=
  ("error: ".toList ++ error.message) :: error.causes.map ("  caused by: ".toList ++ ·)

/-- Which events are shown. -/
def threshold (environment : Environment) (options : Options) : Threshold :=
  match environment.log? with
  | some word => .ofWord word
  | none => .upTo (if options.quiet then .error else .info)

/-- Where the catalog is: on the command line, or else in the environment. -/
def source? (environment : Environment) (options : Options) : Option Text :=
  options.json? <|> environment.json?

/-- What is printed where the template is missing. -/
def missingTemplate : Text := "[error] missing -t flag\n".toList

/-- The name of the program and its version. -/
def versionLine : Text := "errors-const ".toList ++ Template.version ++ ['\n']

/-- How to call the program. -/
def usage : Text :=
  ("Generate error code constants from a JSON error catalog\n\n" ++
   "Usage: errors-const [OPTIONS]\n\n" ++
   "Options:\n" ++
   "      --json <PATH>      Path or URL of the error catalog\n" ++
   "  -t, --template <PATH>  Path of the template\n" ++
   "  -o, --output <PATH>    Path of the output, instead of standard output\n" ++
   "      --map-mode <MODE>  How the template function map works: substitute, legacy\n" ++
   "  -q, --quiet            Show errors only\n" ++
   "  -h, --help             Print help\n" ++
   "  -V, --version          Print version\n").toList

variable {m : Type → Type} [Monad m] [Host m]

/-- Generates from a catalog and a template, and tells about it. -/
def runGeneration (source template : Text) (options : Options) : m Exit := do
  match ← (generate source template options.output? options.mapMode).run with
  | .error error => return ⟨1, complaints error, false⟩
  | .ok stats =>
    Host.report (.complete stats.codes stats.bytes)
    return ⟨0, [], false⟩

/-- Does what the options ask for, if they say where the catalog and the template are. -/
def runOptions (environment : Environment) (options : Options) : m Exit := do
  Host.showEvents (threshold environment options)
  match source? environment options, options.template? with
  | none, _ => return ⟨0, [], true⟩
  | some _, none =>
    match ← Host.print (Utf8.encode missingTemplate) with
    | .ok _ => return ⟨1, [], true⟩
    | .error fault =>
      return ⟨brokenOutputStatus, ["failed printing to stdout: ".toList ++ fault.message], false⟩
  | some source, some template => runGeneration source template options

/-- Prints what was asked for. Whether anybody could read it does not matter. -/
def answer (t : Text) : m Exit := do
  let _ ← Host.print (Utf8.encode t)
  return ⟨0, [], false⟩

/-- Does what a command line asks for. -/
def run (environment : Environment) (arguments : List Text) : m Exit :=
  match Request.parse arguments with
  | .error rejection => return ⟨2, ["error: ".toList ++ rejection.message], true⟩
  | .ok .version => answer versionLine
  | .ok .help => answer usage
  | .ok (.generate options) => runOptions environment options

end Codebook.CommandLine
