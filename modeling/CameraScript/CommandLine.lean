import CameraScript.Conversion

/-!
# The command line

`convert <input> <song> [-c|--config <file>]`

* `Request.ofArguments`: what the arguments ask for.
* `run`: carries the request out. Settings that cannot be read are reported, and the
  conversion goes on with the default ones.
* `failureText`: how a failed conversion is shown, with the chain of its causes.
-/

namespace CameraScript.CommandLine

/-- A conversion to carry out. -/
structure Invocation where
  input : String
  song : String
  settings : Option String
  deriving DecidableEq, Repr

inductive Request
  | convert (invocation : Invocation)
  /-- Help or the version. -/
  | information
  | misuse
  deriving DecidableEq, Repr

/-! ## Arguments -/

/-- The arguments read so far. -/
structure Arguments where
  positional : List String := []
  /-- How often the settings option was given. -/
  options : Nat := 0
  settings : Option String := none
  /-- Whether the last option still waits for its value. -/
  pending : Bool := false
  /-- Whether the options have ended. -/
  ended : Bool := false

namespace Arguments

def takePositional (arguments : Arguments) (text : String) : Except Request Arguments :=
  if arguments.positional.length < 2 then
    .ok { arguments with positional := arguments.positional ++ [text] }
  else
    .error .misuse

/-- The settings option, with its value if that belongs to the same argument. Equals signs
before the value do not count. -/
def takeOption (arguments : Arguments) (value : Option (List Char)) : Arguments :=
  let value := value.map fun text => String.ofList (text.dropWhile (· = '='))
  { arguments with
    options := arguments.options + 1
    settings := value.orElse fun _ => arguments.settings
    pending := value.isNone }

/-- An option behind its two or more dashes. -/
def takeLong (arguments : Arguments) (text : List Char) : Except Request Arguments :=
  let name := text.takeWhile (· ≠ '=')
  let value := if text.contains '=' then some (text.drop name.length) else none
  match String.ofList name with
  | "config" => .ok (arguments.takeOption value)
  | "help" => .error .information
  | "version" => .error .information
  | _ => .error .misuse

/-- An option behind one dash: a letter, and what is written directly behind it. -/
def takeShort (arguments : Arguments) (letter : Char) (rest : List Char) :
    Except Request Arguments :=
  match letter with
  | 'c' => .ok (arguments.takeOption (if rest.isEmpty then none else some rest))
  | 'h' => .error .information
  | 'V' => .error .information
  | _ => .error .misuse

/-- Reads one more argument. A request that is settled at once stops the reading. -/
def take (arguments : Arguments) (text : String) : Except Request Arguments :=
  if arguments.ended then arguments.takePositional text
  else
    match text.toList with
    | ['-', '-'] => .ok { arguments with ended := true }
    | '-' :: '-' :: rest => arguments.takeLong (rest.dropWhile (· = '-'))
    | '-' :: letter :: rest => arguments.takeShort letter rest
    | _ =>
      if arguments.pending then
        .ok { arguments with settings := some text, pending := false }
      else
        arguments.takePositional text

def request (arguments : Arguments) : Request :=
  match arguments.positional with
  | [input, song] =>
    if arguments.pending || 1 < arguments.options then .misuse
    else .convert { input, song, settings := arguments.settings }
  | _ => .misuse

end Arguments

def Request.ofArguments (arguments : List String) : Request :=
  match arguments.foldlM Arguments.take {} with
  | .ok arguments => arguments.request
  | .error request => request

/-! ## Running -/

structure Report where
  exitCode : UInt32
  /-- Why the settings could not be read. -/
  settingsFault : Option Fault := none
  /-- The text of a failed conversion. -/
  failure : Option String := none
  deriving DecidableEq, Repr

def causes : Fault → String
  | .file cause =>
    "    0: " ++ (Fault.file cause).message ++ "\n    1: " ++ cause.message ++ "\n"
  | fault => "    " ++ fault.message ++ "\n"

def failureText (input : String) (fault : Fault) : String :=
  "Error: failed to convert " ++ input ++ "\n\nCaused by:\n" ++ causes fault

/-- The report of a conversion that ended with `result`. An abort shows no failure. -/
def Report.ofResult (input : String) : (result : Except Fault String) → Report
  | .ok _ => { exitCode := 0 }
  | .error fault =>
    if fault.isAbort then { exitCode := 101 }
    else { exitCode := 1, failure := some (failureText input fault) }

variable {m : Type → Type} [Monad m] [Files m]

def runConversion (invocation : Invocation) (settings : Settings) : m Report := do
  let converted ← convert settings invocation.song invocation.input
  return Report.ofResult invocation.input converted.result

def runInvocation (invocation : Invocation) : m Report := do
  match invocation.settings with
  | none => runConversion invocation {}
  | some path =>
    match ← Settings.load path with
    | .ok settings => runConversion invocation settings
    | .error fault =>
      let report ← runConversion invocation {}
      return { report with settingsFault := some fault }

def run (arguments : List String) : m Report := do
  match Request.ofArguments arguments with
  | .convert invocation => runInvocation invocation
  | .information => return { exitCode := 0 }
  | .misuse => return { exitCode := 1 }

end CameraScript.CommandLine
