import Codebook.CommandLine.Options

/-!
# Requests

A command line is read from left to right. An argument either adds to the options, or leaves a
setting waiting for the next argument, or asks for the version or the usage, which ends the
reading there. So of two mistakes the first counts, and a mistake behind `--version` does not.

Options have a long name behind two dashes, and some have a letter behind one. A value stands in
an argument of its own, or behind the name: `--template=T`, `-tT`, `-t=T`. Switches without a value
may share a dash with the letter that follows.
-/

namespace Codebook.CommandLine

/-- What a command line asks for. -/
inductive Request where
  | generate (options : Options)
  | version
  | help
  deriving DecidableEq, Repr

/-- What an argument comes to. -/
inductive Progress where
  /-- The options with what the argument gives. -/
  | given (options : Options)
  /-- A setting whose value is the next argument. -/
  | awaits (setting : Setting) (options : Options)
  /-- A request that is complete, whatever follows. -/
  | asks (request : Request)

/-- What a switch comes to. -/
def Options.turn (options : Options) : Switch → Except Rejection Progress
  | .quiet =>
    if options.quiet then .error (.repeated (.switch .quiet))
    else .ok (.given { options with quiet := true })
  | .version => .ok (.asks .version)
  | .help => .ok (.asks .help)

/-! ## One argument -/

/-- What a long name comes to, with the value that an equals sign attaches to it. -/
def readLong (options : Options) (name : Text) (value? : Option Text) :
    Except Rejection Progress :=
  match Item.ofLongName? name, value? with
  | none, _ => .error (.unknown name)
  | some (.setting setting), none => .ok (.awaits setting options)
  | some (.setting setting), some value => (options.set setting value).map .given
  | some (.switch switch), none => options.turn switch
  | some (.switch switch), some _ => .error (.unneededValue switch)

/-- A value behind a letter, without the equals sign that may stand between them. -/
def attachedValue : Text → Text
  | '=' :: value => value
  | value => value

/-- What letters behind a dash come to. -/
def readLetters (options : Options) : Text → Except Rejection Progress
  | [] => .ok (.given options)
  | c :: rest =>
    match Item.ofLetter? c with
    | none => .error (.unknown (c :: rest))
    | some (.setting setting) =>
      if rest = [] then .ok (.awaits setting options)
      else (options.set setting (attachedValue rest)).map .given
    | some (.switch switch) =>
      match options.turn switch with
      | .ok (.given options) => readLetters options rest
      | other => other

/-- What an argument comes to. A lone dash and what starts with no dash are not options. -/
def readArgument (options : Options) : Text → Except Rejection Progress
  | '-' :: '-' :: long =>
    let name := long.takeWhile (· != '=')
    match long.drop name.length with
    | [] => readLong options name none
    | _ :: value => readLong options name (some value)
  | '-' :: c :: letters => readLetters options (c :: letters)
  | argument => .error (.unexpected argument)

/-! ## All arguments -/

/-- Whether an argument is read as an option, and so cannot be the value of one. -/
def isOption : Text → Bool
  | '-' :: _ :: _ => true
  | _ => false

/-- The argument behind which no options stand. -/
def separator : Text := ['-', '-']

/-- What the arguments ask for, behind those that gave the options. -/
def readArguments (options : Options) : List Text → Except Rejection Request
  | [] => .ok (.generate options)
  | argument :: rest =>
    if argument = separator then
      match rest with
      | [] => .ok (.generate options)
      | behind :: _ => .error (.unexpected behind)
    else
      match readArgument options argument with
      | .error rejection => .error rejection
      | .ok (.asks request) => .ok request
      | .ok (.given options) => readArguments options rest
      | .ok (.awaits setting options) =>
        match rest with
        | [] => .error (.missingValue setting)
        | value :: rest =>
          if isOption value then .error (.missingValue setting)
          else match options.set setting value with
            | .error rejection => .error rejection
            | .ok options => readArguments options rest

/-- The argument with a second dash, where it is `-json` with or without a value. -/
def withSecondDash (argument : Text) : Text :=
  if argument = "-json".toList ∨ "-json=".toList.isPrefixOf argument then '-' :: argument
  else argument

/-- What a command line asks for. -/
def Request.parse (arguments : List Text) : Except Rejection Request :=
  readArguments .none (arguments.map withSecondDash)

end Codebook.CommandLine
