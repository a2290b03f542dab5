import CameraScript.Motion.Section

/-!
# Why a run fails

* `FileError`: what can go wrong when a file is read or written.
* `Fault`: every reason for which reading, compiling or converting stops, with its
  wording in `Fault.message`.
* `Fault.isAbort`: the two reasons that stop the program and not only the task.
-/

namespace CameraScript

open Motion

inductive FileError
  | notFound
  | isDirectory
  | notDirectory
  | nulInPath
  | notUtf8
  /-- Any other refusal of the system, in its own words. -/
  | refused (reason : String)
  deriving DecidableEq, Repr

def FileError.message : FileError → String
  | notFound => "No such file or directory (os error 2)"
  | isDirectory => "Is a directory (os error 21)"
  | notDirectory => "Not a directory (os error 20)"
  | nulInPath => "file name contained an unexpected NUL byte"
  | notUtf8 => "stream did not contain valid UTF-8"
  | refused reason => reason

inductive Fault
  /-- The signature is missing. -/
  | invalidFormat
  /-- The file ends inside a section that it must have. -/
  | truncated (kind : SectionKind)
  /-- There is no camera keyframe to compile. -/
  | emptyCamera
  | file (cause : FileError)
  /-- The settings document is malformed, or one of its values does not fit. -/
  | settings
  /-- A sum exceeds its word. -/
  | additionOverflow
  /-- A run of records is to be cut into blocks of no bytes. -/
  | emptyBlock
  deriving DecidableEq, Repr

namespace Fault

def message : Fault → String
  | invalidFormat => "not a valid motion file: missing `Vocaloid Motion Data 0002` signature"
  | truncated kind => "motion file ends inside the " ++ kind.name ++ " section"
  | emptyCamera => "motion file has no camera keyframes"
  | file cause => "io error: " ++ cause.message
  | settings => "failed to parse config"
  | additionOverflow => "attempt to add with overflow"
  | emptyBlock => "chunk size must be non-zero"

/-- Whether the fault ends the whole program. -/
def isAbort : Fault → Bool
  | additionOverflow => true
  | emptyBlock => true
  | _ => false

end Fault

/-! ## Sums that must fit their word -/

def addWide (a b : UInt64) : Except Fault UInt64 :=
  if a ≤ a + b then .ok (a + b) else .error .additionOverflow

def successor (a : UInt32) : Except Fault UInt32 :=
  if a < a + 1 then .ok (a + 1) else .error .additionOverflow

end CameraScript
