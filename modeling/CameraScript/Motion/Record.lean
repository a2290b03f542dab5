import CameraScript.Bytes
import CameraScript.Motion.Keyframe

/-!
# Camera records

A camera record is 61 bytes. It stores the length and the first rotation angle with the
opposite sign, and the perspective flag as `0` for on.

* `Keyframe.read`: takes one record off the front of the bytes.
* `Keyframe.fields`: the record as the numbers that it is written in, one by one.
* `Keyframe.length_toBytes`: a record has 61 bytes.
-/

namespace CameraScript.Motion

/-! ## Reading -/

def Single.read : Reader Single := do
  return ⟨← Reader.word⟩

def Vec3.read : Reader (Vec3 Single) := do
  return { x := ← Single.read, y := ← Single.read, z := ← Single.read }

def Curve.read : Reader Curve := do
  return { x1 := ← Reader.byte, x2 := ← Reader.byte, y1 := ← Reader.byte,
           y2 := ← Reader.byte }

def Curves.read : Reader Curves := do
  return { x := ← Curve.read, y := ← Curve.read, z := ← Curve.read,
           rotation := ← Curve.read, length := ← Curve.read, viewAngle := ← Curve.read }

/-- Flips the angle that records store with the opposite sign. -/
def storedRotation (angles : Vec3 Single) : Vec3 Single :=
  { angles with x := -angles.x }

def Keyframe.read : Reader Keyframe := do
  let frame ← Reader.word
  let length ← Single.read
  let location ← Vec3.read
  let rotation ← Vec3.read
  let curves ← Curves.read
  let viewAngle ← Reader.word
  let flag ← Reader.byte
  return { frame, length := -length, location, rotation := storedRotation rotation,
           curves, viewAngle, perspective := flag = 0 }

/-! ## Writing -/

def Single.toBytes (s : Single) : Bytes := Word.toBytes s.bits

def Vec3.fields (v : Vec3 Single) : List Bytes :=
  [v.x.toBytes, v.y.toBytes, v.z.toBytes]

def Curve.fields (c : Curve) : List Bytes :=
  [[c.x1], [c.x2], [c.y1], [c.y2]]

def Curves.fields (c : Curves) : List Bytes :=
  c.x.fields ++ c.y.fields ++ c.z.fields ++ c.rotation.fields ++ c.length.fields
    ++ c.viewAngle.fields

def Keyframe.fields (k : Keyframe) : List Bytes :=
  [Word.toBytes k.frame, (-k.length).toBytes] ++ k.location.fields
    ++ (storedRotation k.rotation).fields ++ k.curves.fields
    ++ [Word.toBytes k.viewAngle, [if k.perspective then 0 else 1]]

def Keyframe.toBytes (k : Keyframe) : Bytes := k.fields.flatten

theorem Keyframe.length_toBytes (k : Keyframe) : k.toBytes.length = 61 := rfl

end CameraScript.Motion
