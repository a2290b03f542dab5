import CameraScript.CommandLine

/-!
# The program

Reads and writes real files, and shows the report of a run.
-/

namespace CameraScript

/-- The number of a system error, which some calls give with the opposite sign. -/
def errorNumber (code : UInt32) : UInt32 :=
  if code < 0x80000000 then code else 0 - code

def FileError.ofSystem (error : IO.Error) : FileError :=
  match error with
  | .noFileOrDirectory .. => .notFound
  | .inappropriateType _ code _ =>
    match errorNumber code with
    | 20 => .notDirectory
    | 21 => .isDirectory
    | _ => .refused error.toString
  | _ => .refused error.toString

/-- Paths are handed to the system up to their first NUL, so a NUL is refused here. -/
def onPath {α : Type} (path : String) (access : IO α) : IO (Except FileError α) :=
  if path.toList.contains '\x00' then
    return .error .nulInPath
  else
    try
      return .ok (← access)
    catch error =>
      return .error (.ofSystem error)

instance : Files IO where
  read path := onPath path do
    return (← IO.FS.readBinFile path).toList
  write path contents := onPath path do
    IO.FS.writeBinFile path (ByteArray.mk contents.toArray)

def usage : String :=
  "USAGE:\n    convert [OPTIONS] <input> <song>\n\nOPTIONS:\n    -c, --config <config>\n"

end CameraScript

open CameraScript CommandLine

def main (arguments : List String) : IO UInt32 := do
  let report : Report ← run arguments
  if let some fault := report.settingsFault then
    IO.eprintln ("ERROR Failed to parse config file: " ++ fault.message)
  if let some text := report.failure then
    IO.eprint text
  match Request.ofArguments arguments with
  | .convert _ => pure ()
  | .information => IO.print usage
  | .misuse => IO.eprint usage
  return report.exitCode
