import CameraScript.Proofs.Lines

/-!
# What never shows in a script

The timeline is made of frames only, and a pose of a few fields of the keyframe that is played.
So length, roll, curves and perspective never show in a script, nor does the view angle unless
the camera is displaced by it, nor anything but the frame of a keyframe that is not played.

* `Transform.SeesAlike`: two keyframes that agree in all that a pose is made of.
* `PlayAlike`: two tracks on the same frames that agree so wherever a keyframe is played.
* `Script.cameraCommands_eq_of_playAlike`: the camera commands of two such tracks.
* `Script.compile_eq_of_playAlike`: their scripts and logs.
-/

namespace CameraScript

open Motion

/-! ## One keyframe -/

namespace Transform

variable {transform : Transform} {keyframe keyframe' : Keyframe}

/-- The keyframes agree bit for bit in all that their poses are made of. -/
structure SeesAlike (transform : Transform) (keyframe keyframe' : Keyframe) : Prop where
  location_eq : keyframe.location = keyframe'.location
  pitch_eq : keyframe.rotation.x = keyframe'.rotation.x
  yaw_eq : keyframe.rotation.y = keyframe'.rotation.y
  viewAngle_eq : transform.displacement ≠ none → keyframe.viewAngle = keyframe'.viewAngle

theorem SeesAlike.distance_eq (h : transform.SeesAlike keyframe keyframe') :
    transform.distance keyframe.viewAngle = transform.distance keyframe'.viewAngle := by
  unfold distance
  cases hdisplacement : transform.displacement with
  | none => rfl
  | some displacement =>
    have hviewAngle : keyframe.viewAngle = keyframe'.viewAngle := by
      apply h.viewAngle_eq
      rw [hdisplacement]
      exact Option.some_ne_none displacement
    rw [hviewAngle]

theorem SeesAlike.pose_eq (h : transform.SeesAlike keyframe keyframe') :
    transform.pose keyframe = transform.pose keyframe' := by
  unfold pose
  rw [h.location_eq, h.pitch_eq, h.yaw_eq, h.distance_eq]

end Transform

/-! ## Tracks -/

/-- No keyframe before the one at `i` is on its tick. -/
def Settings.IsFirst (settings : Settings) (keyframes : List Keyframe) (i : Nat) : Prop :=
  ∃ h : i < keyframes.length, ∀ j, ∀ hj : j < i,
    settings.timebase.tick keyframes[j].frame ≠ settings.timebase.tick keyframes[i].frame

/-- The tracks are on the same frames, and the transform sees no difference between two
keyframes at one position that are the first on their tick. -/
structure PlayAlike (settings : Settings) (keyframes keyframes' : List Keyframe) : Prop where
  length_eq : keyframes.length = keyframes'.length
  frame_eq : ∀ i (h : i < keyframes.length) (h' : i < keyframes'.length),
    keyframes[i].frame = keyframes'[i].frame
  seesAlike : ∀ i (h : i < keyframes.length) (h' : i < keyframes'.length),
    settings.IsFirst keyframes i → settings.transform.SeesAlike keyframes[i] keyframes'[i]

section Tracks

variable {settings : Settings} {keyframes keyframes' : List Keyframe}

theorem Settings.isFirst_of_sample {tick : UInt32} {sample : Sample}
    (h : (settings.timeline keyframes)[tick]? = some sample) :
    settings.IsFirst keyframes sample.index := by
  obtain ⟨⟨hlt, htick⟩, hleast⟩ := Settings.isLeast_index h
  refine ⟨hlt, fun j hj heq => ?_⟩
  have hle := hleast ⟨Nat.lt_trans hj hlt, heq.trans htick⟩
  omega

theorem PlayAlike.timeline_eq (h : PlayAlike settings keyframes keyframes') :
    settings.timeline keyframes = settings.timeline keyframes' := by
  have hframes : keyframes.map Keyframe.frame = keyframes'.map Keyframe.frame := by
    apply List.ext_getElem
    · rw [List.length_map, List.length_map, h.length_eq]
    · intro i hi hi'
      rw [List.getElem_map, List.getElem_map]
      exact h.frame_eq i _ _
  unfold Settings.timeline
  rw [hframes]

end Tracks

/-! ## Scripts -/

namespace Script

variable {settings : Settings} {keyframes keyframes' : List Keyframe}

theorem cameraCommands_eq_of_playAlike (h : PlayAlike settings keyframes keyframes') :
    cameraCommands settings.transform keyframes (settings.timeline keyframes) =
      cameraCommands settings.transform keyframes' (settings.timeline keyframes') := by
  rw [← h.timeline_eq]
  unfold cameraCommands
  apply List.filterMap_congr
  rintro ⟨tick, sample⟩ hentry
  have hsample : (settings.timeline keyframes)[tick]? = some sample :=
    Std.TreeMap.mem_toList_iff_getElem?_eq_some.1 hentry
  -- A command shows the keyframe that its sample points at, which is the first on its tick.
  have hlt : sample.index < keyframes.length := Settings.index_lt hsample
  have hlt' : sample.index < keyframes'.length := h.length_eq ▸ hlt
  have hpose := (h.seesAlike sample.index hlt hlt' (Settings.isFirst_of_sample hsample)).pose_eq
  simp only [List.getElem?_toArray, List.getElem?_eq_getElem hlt, List.getElem?_eq_getElem hlt',
    Option.map_some, hpose]

/-- **Unused data.** Two tracks on the same frames, which agree in location, pitch and yaw of
every keyframe that is the first on its tick, and in its view angle if the camera is displaced,
are compiled to the same script or fail alike, with the same log. -/
theorem compile_eq_of_playAlike (counter : String) (h : PlayAlike settings keyframes keyframes') :
    compile settings counter keyframes = compile settings counter keyframes' := by
  have hcameras := cameraCommands_eq_of_playAlike h
  rw [← h.timeline_eq] at hcameras
  unfold compile
  rw [← Settings.timeline, ← Settings.timeline, ← h.timeline_eq]
  dsimp only
  rw [hcameras, h.length_eq]

/-- The keyframes of `unorderedKeyframes` with other data wherever none is used: everywhere on the
third one, which is not played, and on the others in length, roll, curves, view angle and
perspective. -/
def relabelledKeyframes : List Keyframe :=
  let curve : Curve := ⟨1, 2, 3, 4⟩
  let other : Keyframe :=
    { length := ⟨0x7fffffff⟩, rotation := ⟨.zero, .zero, ⟨0x40490fdb⟩⟩,
      curves := ⟨curve, curve, curve, curve, curve, curve⟩, viewAngle := 90, perspective := false }
  [{ other with frame := 30 }, { other with frame := 3 },
    { other with
        frame := 4
        location := ⟨⟨0x7fc00000⟩, ⟨1⟩, ⟨2⟩⟩
        rotation := ⟨⟨3⟩, ⟨4⟩, ⟨5⟩⟩ },
    { other with frame := 0 }]

theorem playAlike_relabelledKeyframes : PlayAlike {} unorderedKeyframes relabelledKeyframes where
  length_eq := rfl
  frame_eq i h h' := by
    match i, h with
    | 0, _ => rfl
    | 1, _ => rfl
    | 2, _ => rfl
    | 3, _ => rfl
  seesAlike i h h' hfirst := by
    match i, h with
    | 0, _ => exact ⟨rfl, rfl, rfl, fun hsome => absurd rfl hsome⟩
    | 1, _ => exact ⟨rfl, rfl, rfl, fun hsome => absurd rfl hsome⟩
    | 2, _ =>
      -- The frames 3 and 4 share a tick, so the third keyframe is not the first on its own.
      obtain ⟨_, hne⟩ := hfirst
      have hthree : ({} : Timebase).tick 3 = 2 := by decide +kernel
      have hfour : ({} : Timebase).tick 4 = 2 := by decide +kernel
      exact absurd (hthree.trans hfour.symm) (hne 1 (by decide))
    | 3, _ => exact ⟨rfl, rfl, rfl, fun hsome => absurd rfl hsome⟩

/-- No keyframe of the one track is a keyframe of the other, and both have the same script. -/
theorem compile_relabelledKeyframes :
    PlayAlike {} unorderedKeyframes relabelledKeyframes ∧
      (∀ keyframe ∈ unorderedKeyframes, keyframe ∉ relabelledKeyframes) ∧
      ∃ script, (compile {} "s" unorderedKeyframes).result = .ok script ∧
        (compile {} "s" relabelledKeyframes).result = .ok script := by
  have hlast : (({} : Settings).timeline unorderedKeyframes).lastTick? = some 20 := by
    decide +kernel
  obtain ⟨script, hscript⟩ : ∃ script, (compile {} "s" unorderedKeyframes).result = .ok script :=
    exists_result_compile hlast (by decide)
  refine ⟨playAlike_relabelledKeyframes, by decide +kernel, script, hscript, ?_⟩
  rw [← compile_eq_of_playAlike "s" playAlike_relabelledKeyframes]
  exact hscript

end Script

end CameraScript
