import Std.Data.TreeMap

/-!
# Keyframes on ticks

Keyframes are counted in source frames and played in ticks. Of the keyframes that fall on
one tick the first in file order is played.

A keyframe that follows the one before it by exactly one frame is a hard cut: the next
keyframe that claims a tick, which may be the same one, is reached without easing. The two
ends of the track are no cuts.

* `Timebase.tick`: the tick of a frame.
* `cuts`: which frames are hard cuts.
* `Timeline.ofFrames`: the keyframe chosen for each tick.
-/

namespace CameraScript

structure Timebase where
  sourceFps : Float := 30
  tickRate : Float := 20

/-- The tick that is running when `frame` is due. A value below zero and a NaN count as
tick `0`, and a value too large for a word as the last tick. -/
def Timebase.tick (timebase : Timebase) (frame : UInt32) : UInt32 :=
  (frame.toFloat / timebase.sourceFps * timebase.tickRate).toUInt32

/-- The keyframe chosen for a tick, by its position in file order. -/
structure Sample where
  index : Nat
  suppressEasing : Bool
  deriving DecidableEq, Repr

/-- The samples by increasing tick. -/
abbrev Timeline := Std.TreeMap UInt32 Sample

/-! ## Hard cuts -/

/-- The hard cuts among the frames that follow `previous`. -/
def cutsAfter (previous : Option UInt32) : (frames : List UInt32) → List Bool
  | [] => []
  | [_] => [false]
  | frame :: next :: rest =>
    previous.any (fun p => p.toNat + 1 = frame.toNat) :: cutsAfter (some frame) (next :: rest)

def cuts (frames : List UInt32) : List Bool := cutsAfter none frames

@[simp] theorem length_cutsAfter (previous : Option UInt32) (frames : List UInt32) :
    (cutsAfter previous frames).length = frames.length := by
  fun_induction cutsAfter previous frames with
  | case1 => rfl
  | case2 => rfl
  | case3 previous frame next rest ih => simp [ih]

/-! ## Choosing keyframes -/

/-- A pass over the keyframes in file order. `pending` says that there was a hard cut after
the last keyframe that claimed a tick. -/
structure Pass where
  timeline : Timeline := {}
  pending : Bool := false

/-- Offers the keyframe at `index` to its tick. -/
def Pass.offer (pass : Pass) (tick : UInt32) (cut : Bool) (index : Nat) : Pass :=
  let pending := pass.pending || cut
  if tick ∈ pass.timeline then
    { pass with pending }
  else
    { timeline := pass.timeline.insert tick { index, suppressEasing := pending } }

namespace Timeline

def ofFrames (timebase : Timebase) (frames : List UInt32) : Timeline :=
  let offers := ((frames.map timebase.tick).zip (cuts frames)).zipIdx
  let step (pass : Pass) : (UInt32 × Bool) × Nat → Pass
    | ((tick, cut), index) => pass.offer tick cut index
  (offers.foldl step {}).timeline

/-- The last tick that holds a sample. -/
def lastTick? (timeline : Timeline) : Option UInt32 := timeline.keys.getLast?

end Timeline

end CameraScript
