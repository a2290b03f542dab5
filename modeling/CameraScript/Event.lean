import CameraScript.Motion.Section

/-!
# The log of a run

* `Event`: what a run reports while it reads, compiles and converts, in `Event.level` and
  `Event.text` as it is shown.
-/

namespace CameraScript

open Motion

inductive Level
  | trace
  | debug
  | info
  deriving DecidableEq, Repr

def Level.name : Level → String
  | trace => "TRACE"
  | debug => "DEBUG"
  | info => "INFO"

inductive Event
  /-- The place of a section is known. -/
  | located (found : Section)
  /-- The file ends before the first record of an optional section. -/
  | absent (kind : SectionKind) (offset : UInt64)
  /-- The records of an optional section reach past the end of the file. -/
  | cutOff (found : Section) (fileLength : Nat)
  | decoded (keyframes : Nat)
  | easingSuppressed (tick : UInt32)
  | compiled (counter : String) (keyframes cameras : Nat) (lastTick : UInt32)
  | wrote (path : String)
  deriving DecidableEq, Repr

/-- An offset as it is shown in the log. -/
def hexText (offset : Nat) : String :=
  String.ofList ('0' :: 'x' :: Nat.toDigits 16 offset)

namespace Event

def level : Event → Level
  | located _ => .trace
  | compiled .. => .info
  | wrote _ => .info
  | _ => .debug

def text : Event → String
  | located found =>
    found.kind.name ++ ": " ++ found.count.toNat.repr ++ " record(s) at "
      ++ hexText found.start.toNat
  | absent kind offset => "no " ++ kind.name ++ " section at " ++ hexText offset.toNat
  | cutOff found fileLength =>
    found.kind.name ++ " section wants " ++ found.count.toNat.repr
      ++ " record(s) but the file ends at " ++ hexText fileLength
  | decoded keyframes => "decoded " ++ keyframes.repr ++ " camera keyframe(s)"
  | easingSuppressed tick => "tick " ++ tick.toNat.repr ++ ": easing suppressed"
  | compiled counter keyframes cameras lastTick =>
    counter ++ ": " ++ keyframes.repr ++ " keyframe(s) -> " ++ cameras.repr
      ++ " camera command(s), last tick " ++ lastTick.toNat.repr
  | wrote path => "wrote " ++ path

end Event

end CameraScript
