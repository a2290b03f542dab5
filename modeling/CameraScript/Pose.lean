import CameraScript.Motion.Keyframe

/-!
# Placing the camera

* `Pose`: where the camera stands and looks. Roll is not supported by the runtime.
* `Transform.pose`: the pose of a keyframe, in blocks and degrees. Motion files count `x`
  and the horizontal angle the other way round.
* `Displacement.distance`: how far the camera is pushed back along its view for a view
  angle. Without a displacement the distance is zero, and the push is still added: it
  decides the sign of zeros.
-/

namespace CameraScript

open Motion

/-- Position in blocks, angles in degrees. -/
structure Pose where
  position : Vec3 Float
  pitch : Float
  yaw : Float

/-- A distance derived from the view angle, in motion units. -/
structure Displacement where
  base : Float := 26
  divisor : Float := 1.2

def Displacement.distance (d : Displacement) (viewAngle : UInt32) : Float :=
  (viewAngle.toFloat - d.base) / d.divisor

/-- `scale` is the number of blocks in a motion unit. -/
structure Transform where
  scale : Float := 1 / 6
  displacement : Option Displacement := none

def pi : Float := 3.141592653589793

def degrees (radians : Float) : Float := radians * (180 / pi)

def radians (degrees : Float) : Float := degrees * (pi / 180)

/-- The direction away from what a camera with these angles, in radians, looks at. -/
def backward (pitch yaw : Float) : Vec3 Float :=
  { x := yaw.sin * pitch.cos, y := pitch.sin, z := yaw.cos * pitch.cos }

namespace Transform

def distance (transform : Transform) (viewAngle : UInt32) : Float :=
  match transform.displacement with
  | some displacement => displacement.distance viewAngle
  | none => 0

/-- The position before the camera is pushed back. -/
def origin (transform : Transform) (location : Vec3 Single) : Vec3 Float :=
  { x := -(location.x.toFloat * transform.scale)
    y := location.y.toFloat * transform.scale
    z := location.z.toFloat * transform.scale }

def pose (transform : Transform) (keyframe : Keyframe) : Pose :=
  let pitch := degrees keyframe.rotation.x.toFloat
  let yaw := -degrees keyframe.rotation.y.toFloat
  let back := backward (radians pitch) (radians yaw)
  let step := -transform.distance keyframe.viewAngle
  let origin := transform.origin keyframe.location
  { position :=
      { x := origin.x + back.x * step
        y := origin.y + back.y * step
        z := origin.z + back.z * step }
    pitch
    yaw }

end Transform

end CameraScript
