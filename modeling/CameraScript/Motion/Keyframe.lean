/-!
# Camera keyframes

* `Single`: a single-precision number as its 32 bits. Files carry every pattern, so a
  `Single` is moved and negated as a pattern and becomes a number in `Single.toFloat` only.
* `Keyframe`: one entry of the camera track.
-/

namespace CameraScript.Motion

/-- An IEEE 754 single as its bits. -/
structure Single where
  bits : UInt32
  deriving DecidableEq, Repr

namespace Single

def zero : Single := ⟨0⟩

/-- Flips the sign bit, also of a NaN. -/
def neg (s : Single) : Single := ⟨s.bits ^^^ 0x80000000⟩

instance : Neg Single := ⟨neg⟩

theorem neg_neg (s : Single) : - -s = s := by
  show neg (neg s) = s
  rw [neg, neg, UInt32.xor_assoc, UInt32.xor_self, UInt32.xor_zero]

def toFloat (s : Single) : Float := (Float32.ofBits s.bits).toFloat

end Single

/-- Three coordinates. -/
structure Vec3 (α : Type) where
  x : α
  y : α
  z : α
  deriving DecidableEq, Repr

/-- The two control points of an interpolation curve. -/
structure Curve where
  x1 : UInt8
  x2 : UInt8
  y1 : UInt8
  y2 : UInt8
  deriving DecidableEq, Repr

def Curve.zero : Curve := ⟨0, 0, 0, 0⟩

/-- How each quantity of a keyframe is reached from the keyframe before. -/
structure Curves where
  x : Curve
  y : Curve
  z : Curve
  rotation : Curve
  length : Curve
  viewAngle : Curve
  deriving DecidableEq, Repr

structure Keyframe where
  frame : UInt32 := 0
  /-- Distance from the point looked at. -/
  length : Single := .zero
  location : Vec3 Single := ⟨.zero, .zero, .zero⟩
  /-- Radians. -/
  rotation : Vec3 Single := ⟨.zero, .zero, .zero⟩
  curves : Curves := ⟨.zero, .zero, .zero, .zero, .zero, .zero⟩
  /-- Degrees. -/
  viewAngle : UInt32 := 30
  perspective : Bool := true
  deriving DecidableEq, Repr

end CameraScript.Motion
