import CameraScript.Motion.Track
import CameraScript.Settings

/-!
# Scripts

A script is run once per tick. It holds a camera command for every tick of the timeline,
and behind them a block that moves the counter on, so the counter also counts through ticks
without a keyframe and stops behind the last one.

* `cameraCommands`: the camera commands of a timeline, by increasing tick.
* `advanceTexts`: the counting block, highest value first, so that a run moves the counter
  once only.
* `Script.compile`: the script of a list of keyframes.
* `Script.ofBytes`: the script of a motion file.
-/

namespace CameraScript

open Motion

structure Script where
  commands : List String
  /-- The last tick that holds a camera command. -/
  lastTick : UInt32
  deriving DecidableEq, Repr

namespace Script

def text (script : Script) : String :=
  "\n".intercalate script.commands

/-! ## Compiling -/

def cameraCommands (transform : Transform) (keyframes : List Keyframe)
    (timeline : Timeline) : List Command :=
  let keyframes := keyframes.toArray
  timeline.toList.filterMap fun (tick, sample) =>
    keyframes[sample.index]?.map fun keyframe =>
      .camera tick (transform.pose keyframe) (!sample.suppressEasing)

def suppressedTicks (timeline : Timeline) : List UInt32 :=
  timeline.toList.filterMap fun (tick, sample) =>
    if sample.suppressEasing then some tick else none

/-- The advance commands of the values from `count` down to `1`, behind `done`. The highest
value comes first, so a value without a successor stops the block at its start. -/
def advanceTextsFrom (template : Template) (counter : String) (done : List String) :
    (count : Nat) → Except Fault (List String)
  | 0 => .ok done.reverse
  | count + 1 =>
    match (Command.advance (UInt32.ofNat (count + 1))).text template counter with
    | .ok text => advanceTextsFrom template counter (text :: done) count
    | .error fault => .error fault

/-- The counting block for a script that ends with `lastTick`: the counter starts at `1`,
which plays tick `0`, and has played everything at `lastTick + 2`. -/
def advanceTexts (template : Template) (counter : String) (lastTick : UInt32) :
    Except Fault (List String) := do
  let top ← successor lastTick
  advanceTextsFrom template counter [] top.toNat

def compile (settings : Settings) (counter : String) (keyframes : List Keyframe) :
    Logged Script := do
  let timeline := Timeline.ofFrames settings.timebase (keyframes.map Keyframe.frame)
  match timeline.lastTick? with
  | none => Logged.fail .emptyCamera
  | some lastTick =>
    let cameras := cameraCommands settings.transform keyframes timeline
    Logged.report ((suppressedTicks timeline).map .easingSuppressed)
    let cameraTexts ← Logged.ofExcept (cameras.mapM (Command.text settings.template counter))
    let advances ← Logged.ofExcept (advanceTexts settings.template counter lastTick)
    Logged.report [.compiled counter keyframes.length timeline.size lastTick]
    return { commands := cameraTexts ++ advances, lastTick }

def ofBytes (settings : Settings) (counter : String) (data : Bytes) : Logged Script := do
  let keyframes ← Track.ofBytes data
  compile settings counter keyframes

end Script

end CameraScript
