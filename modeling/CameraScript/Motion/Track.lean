import CameraScript.Motion.Layout
import CameraScript.Motion.Record

/-!
# The camera track

* `Track.decode`: the keyframes in a run of camera records, in file order.
* `Track.ofBytes`: the keyframes of a motion file.
-/

namespace CameraScript.Motion.Track

/-- One keyframe from a block of its own. -/
def decodeBlock (block : Bytes) : Except Fault Keyframe :=
  match Keyframe.read block with
  | .ok (keyframe, _) => .ok keyframe
  | .error _ => .error (.truncated .camera)

/-- The keyframes of the records that `place` describes, which are the bytes between its two
ends cut into blocks. Its kind plays no part. -/
def decode (data : Bytes) (place : Section) : Except Fault (List Keyframe) :=
  match data.slice? place.start.toNat place.stop.toNat with
  | none => .error (.truncated .camera)
  | some records =>
    if place.recordSize = 0 then
      .error .emptyBlock
    else
      (Bytes.chunks place.recordSize.toNat records).mapM decodeBlock

def ofBytes (data : Bytes) : Logged (List Keyframe) := do
  let layout ← Layout.ofBytes data
  let keyframes ← Logged.ofExcept (decode data layout.camera)
  Logged.report [.decoded keyframes.length]
  return keyframes

end CameraScript.Motion.Track
