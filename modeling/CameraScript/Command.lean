import CameraScript.Fault
import CameraScript.Numeric.Shortest
import CameraScript.Pose

/-!
# Commands

A command acts on every player whose score in a counter has one value.

* `Template`: the parts of a camera command that depend on the world it is played in.
* `Command.camera`: places the camera while the score is one above the tick.
* `Command.advance`: raises the score by one while it has the given value.
* `Command.text`: a command as the runtime reads it. Scores are words, so a tick or value
  without a successor has no command.
-/

namespace CameraScript

structure Template where
  /-- The entity that the camera is placed relative to. -/
  anchor : String := "@e[type=pj:song_manager,c=1]"
  anchorOffset : String := "~~-0.8~"
  /-- The point that the camera turns about, in local coordinates. -/
  focusOffset : String := "^^^9"
  easeDuration : Float := 0.1
  easeFunction : String := "linear"

/-- `camera` carries whether the camera moves there with easing. -/
inductive Command
  | camera (tick : UInt32) (pose : Pose) (ease : Bool)
  | advance (value : UInt32)

namespace Template

def easeText (template : Template) (ease : Bool) : String :=
  if ease then
    " ease " ++ Numeric.Shortest.text template.easeDuration ++ " " ++ template.easeFunction
  else
    ""

/-- The camera command with the score that it waits for. -/
def cameraText (template : Template) (counter : String) (score : UInt32) (pose : Pose)
    (ease : Bool) : String :=
  let pitch := Numeric.Fixed.text pose.pitch
  let yaw := Numeric.Fixed.text pose.yaw
  "execute as @a if score @s " ++ counter ++ " matches " ++ score.toNat.repr
    ++ " positioned as " ++ template.anchor ++ " rotated as " ++ template.anchor
    ++ " positioned " ++ template.anchorOffset ++ " positioned " ++ template.focusOffset
    ++ " positioned ~" ++ Numeric.Fixed.text pose.position.x
    ++ "~" ++ Numeric.Fixed.text pose.position.y
    ++ "~" ++ Numeric.Fixed.text pose.position.z
    ++ " rotated ~" ++ pitch ++ " ~" ++ yaw
    ++ " run camera @s set minecraft:free" ++ template.easeText ease
    ++ " pos ^^^ rot " ++ pitch ++ " " ++ yaw

end Template

/-- The command that moves the score from `value` to `next`. -/
def advanceText (counter : String) (value next : UInt32) : String :=
  "execute as @a if score @s " ++ counter ++ " matches " ++ value.toNat.repr
    ++ " run scoreboard players set @s " ++ counter ++ " " ++ next.toNat.repr

def Command.text (template : Template) (counter : String) :
    Command → Except Fault String
  | camera tick pose ease => do
    return template.cameraText counter (← successor tick) pose ease
  | advance value => do
    return advanceText counter value (← successor value)

end CameraScript
