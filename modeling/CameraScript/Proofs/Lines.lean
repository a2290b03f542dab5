import CameraScript.Proofs.Compilation
import Mathlib.Data.List.Sort

/-!
# The lines of a script

Which line of a script is the text of which command, line by line.

* `Settings.find?_eq_of_sample`: the keyframe that a sample stands for is the first one in file
  order on its tick.
* `Script.getElem?_commandsOf`, `Script.getElem?_commandsOf_add`: the commands of a script by
  their position, cameras by increasing tick and behind them the counting block from the top.
* `Script.lines_of_compile`: the same for the lines of a compiled script.
-/

namespace CameraScript

open Motion

theorem exists_getElem?_of_forall₂ {α β : Type} {R : α → β → Prop} {xs : List α} {ys : List β}
    (h : List.Forall₂ R xs ys) {i : Nat} {x : α} (hx : xs[i]? = some x) :
    ∃ y, ys[i]? = some y ∧ R x y := by
  obtain ⟨hi, rfl⟩ := List.getElem?_eq_some_iff.1 hx
  have hi' : i < ys.length := h.length_eq ▸ hi
  exact ⟨ys[i], List.getElem?_eq_getElem hi', h.get hi hi'⟩

/-! ## The keyframe of a tick -/

section Samples

variable {settings : Settings} {keyframes : List Keyframe} {tick : UInt32} {sample : Sample}

theorem Settings.isLeast_index (h : (settings.timeline keyframes)[tick]? = some sample) :
    IsLeast {i | ∃ h : i < keyframes.length,
      settings.timebase.tick keyframes[i].frame = tick} sample.index := by
  have hleast := Timeline.isLeast_of_claims (Timeline.getElem?_ofFrames_eq_some_iff.1 h).1
  simpa only [List.length_map, List.getElem_map] using hleast

theorem Settings.find?_eq_of_sample (h : (settings.timeline keyframes)[tick]? = some sample) :
    keyframes.find? (fun keyframe => settings.timebase.tick keyframe.frame = tick) =
      keyframes[sample.index]? := by
  obtain ⟨⟨hlt, htick⟩, hfirst⟩ := Settings.isLeast_index h
  rw [List.getElem?_eq_getElem hlt, List.find?_eq_some_iff_getElem]
  refine ⟨by simpa using htick, sample.index, hlt, rfl, fun j hj => ?_⟩
  have hne : settings.timebase.tick keyframes[j].frame ≠ tick := by
    intro heq
    have hle := hfirst ⟨Nat.lt_trans hj hlt, heq⟩
    omega
  simpa using hne

theorem Settings.mem_keys_timeline_iff :
    tick ∈ (settings.timeline keyframes).keys ↔
      ∃ keyframe ∈ keyframes, settings.timebase.tick keyframe.frame = tick := by
  rw [Std.TreeMap.mem_keys, Settings.timeline, Timeline.mem_ofFrames_iff,
    List.exists_mem_iff_getElem]
  simp only [List.length_map, List.getElem_map]

end Samples

/-! ## Commands by position -/

namespace Script

variable {settings : Settings} {counter : String} {keyframes : List Keyframe} {script : Script}
  {lastTick tick : UInt32}

@[simp] theorem length_advances (count : Nat) : (advances count).length = count := by
  induction count with
  | zero => rfl
  | succ count ih => rw [advances, List.length_cons, ih]

theorem getElem?_advances {count i : Nat} (h : i < count) :
    (advances count)[i]? = some (.advance (UInt32.ofNat (count - i))) := by
  induction count generalizing i with
  | zero => cases h
  | succ count ih =>
    cases i with
    | zero => rfl
    | succ i =>
      rw [advances, List.getElem?_cons_succ, ih (Nat.lt_of_succ_lt_succ h),
        Nat.add_sub_add_right]

theorem forall₂_cameraCommands_timeline :
    List.Forall₂ (fun entry command => ∃ h : entry.2.index < keyframes.length,
        command = .camera entry.1 (settings.transform.pose keyframes[entry.2.index])
          (!entry.2.suppressEasing))
      (settings.timeline keyframes).toList
      (cameraCommands settings.transform keyframes (settings.timeline keyframes)) :=
  forall₂_cameraCommands fun _ _ hsample => Settings.index_lt hsample

theorem length_cameraCommands :
    (cameraCommands settings.transform keyframes (settings.timeline keyframes)).length =
      (settings.timeline keyframes).keys.length := by
  rw [← forall₂_cameraCommands_timeline.length_eq, ← Std.TreeMap.map_fst_toList_eq_keys,
    List.length_map]

/-- The camera command for a tick is at the position of the tick among all ticks. -/
theorem getElem?_cameraCommands {k : Nat}
    (h : (settings.timeline keyframes).keys[k]? = some tick) :
    ∃ keyframe sample,
      keyframes.find? (fun keyframe => settings.timebase.tick keyframe.frame = tick)
        = some keyframe ∧
      (settings.timeline keyframes)[tick]? = some sample ∧
      (cameraCommands settings.transform keyframes (settings.timeline keyframes))[k]? =
        some (.camera tick (settings.transform.pose keyframe) (!sample.suppressEasing)) := by
  rw [← Std.TreeMap.map_fst_toList_eq_keys, List.getElem?_map, Option.map_eq_some_iff] at h
  obtain ⟨⟨_, sample⟩, hentry, rfl⟩ := h
  have hsample := Std.TreeMap.mem_toList_iff_getElem?_eq_some.1 (List.mem_of_getElem? hentry)
  obtain ⟨command, hcommand, hlt, rfl⟩ :=
    exists_getElem?_of_forall₂ forall₂_cameraCommands_timeline hentry
  refine ⟨keyframes[sample.index], sample, ?_, hsample, hcommand⟩
  rw [Settings.find?_eq_of_sample hsample, List.getElem?_eq_getElem hlt]

theorem length_commandsOf :
    (commandsOf settings keyframes lastTick).length =
      (settings.timeline keyframes).keys.length + lastTick.toNat + 1 := by
  rw [commandsOf, List.length_append, length_cameraCommands, length_advances, Nat.add_assoc]

theorem getElem?_commandsOf {k : Nat} {command : Command}
    (h : (cameraCommands settings.transform keyframes (settings.timeline keyframes))[k]? =
      some command) : (commandsOf settings keyframes lastTick)[k]? = some command := by
  rw [commandsOf, List.getElem?_append_left (List.getElem?_eq_some_iff.1 h).1, h]

/-- The counting block is behind the cameras. -/
theorem getElem?_commandsOf_add {i : Nat} (h : i ≤ lastTick.toNat) :
    (commandsOf settings keyframes lastTick)[(settings.timeline keyframes).keys.length + i]? =
      some (.advance (UInt32.ofNat (lastTick.toNat + 1 - i))) := by
  rw [commandsOf, ← length_cameraCommands, List.getElem?_append_right (Nat.le_add_right _ _),
    Nat.add_sub_cancel_left, getElem?_advances (Nat.lt_succ_of_le h)]

/-! ## Lines by position -/

/-- **The lines of a script.** A compiled script has one line for each tick that a keyframe is
on, by increasing tick, and behind them one for each value from the one above the last tick
down to one. The line of a tick places the camera of the first keyframe on it, with easing
unless the timeline suppresses it there. -/
theorem lines_of_compile (h : (compile settings counter keyframes).result = .ok script) :
    ∃ ticks : List UInt32, ticks.Pairwise (· < ·) ∧
      (∀ tick, tick ∈ ticks ↔
        ∃ keyframe ∈ keyframes, settings.timebase.tick keyframe.frame = tick) ∧
      ticks.getLast? = some script.lastTick ∧
      script.commands.length = ticks.length + script.lastTick.toNat + 1 ∧
      (∀ (k : Nat) (tick : UInt32), ticks[k]? = some tick →
        ∃ keyframe sample line,
          keyframes.find? (fun keyframe => settings.timebase.tick keyframe.frame = tick)
            = some keyframe ∧
          (settings.timeline keyframes)[tick]? = some sample ∧
          script.commands[k]? = some line ∧
          (Command.camera tick (settings.transform.pose keyframe)
            (!sample.suppressEasing)).text settings.template counter = .ok line) ∧
      (∀ i : Nat, i ≤ script.lastTick.toNat →
        ∃ value line, value.toNat = script.lastTick.toNat + 1 - i ∧
          script.commands[ticks.length + i]? = some line ∧
          (Command.advance value).text settings.template counter = .ok line) := by
  obtain ⟨hlast, hlt, htexts⟩ := result_compile_eq_ok_iff.1 h
  have hlines := Except.mapM_eq_ok_iff.1 htexts
  refine ⟨(settings.timeline keyframes).keys, Timeline.pairwise_keys _,
    fun tick => Settings.mem_keys_timeline_iff, hlast, ?_, fun k tick htick => ?_, fun i hi => ?_⟩
  · rw [← hlines.length_eq, length_commandsOf]
  · obtain ⟨keyframe, sample, hfind, hsample, hcamera⟩ := getElem?_cameraCommands htick
    obtain ⟨line, hline, htext⟩ := exists_getElem?_of_forall₂ hlines (getElem?_commandsOf hcamera)
    exact ⟨keyframe, sample, line, hfind, hsample, hline, htext⟩
  · obtain ⟨line, hline, htext⟩ := exists_getElem?_of_forall₂ hlines (getElem?_commandsOf_add hi)
    exact ⟨_, line, toNat_ofNat_of_le hlt (Nat.sub_le _ _), hline, htext⟩

/-- Keyframes out of order, two of them on one tick and one frame apart. -/
def unorderedKeyframes : List Keyframe :=
  [{ frame := 30 }, { frame := 3 }, { frame := 4, viewAngle := 7 }, { frame := 0 }]

/-- The cut on the keyframe that is not played takes the easing from the one behind it. -/
theorem lines_of_unorderedKeyframes :
    ∃ script, (compile {} "s" unorderedKeyframes).result = .ok script ∧
      script.lastTick = 20 ∧ script.commands.length = 24 ∧
      (∃ line, script.commands[0]? = some line ∧
        (Command.camera 0 (({} : Transform).pose { frame := 0 }) false).text {} "s" = .ok line) ∧
      (∃ line, script.commands[1]? = some line ∧
        (Command.camera 2 (({} : Transform).pose { frame := 3 }) true).text {} "s" = .ok line) ∧
      (∃ line, script.commands[3]? = some line ∧
        (Command.advance 21).text {} "s" = .ok line) := by
  have hlast : (({} : Settings).timeline unorderedKeyframes).lastTick? = some 20 := by
    decide +kernel
  obtain ⟨script, h⟩ : ∃ script, (compile {} "s" unorderedKeyframes).result = .ok script :=
    exists_result_compile hlast (by decide)
  obtain ⟨ticks, hincreasing, hmem, hlastTick, hlength, hcamera, hadvance⟩ := lines_of_compile h
  have hticks : ticks = [0, 2, 20] := by
    refine hincreasing.eq_of_mem_iff (by decide) fun tick => ?_
    have hthirty : ({} : Timebase).tick 30 = 20 := by decide +kernel
    have hthree : ({} : Timebase).tick 3 = 2 := by decide +kernel
    have hfour : ({} : Timebase).tick 4 = 2 := by decide +kernel
    have hzero : ({} : Timebase).tick 0 = 0 := by decide +kernel
    rw [hmem]
    simp only [unorderedKeyframes, List.mem_cons, List.not_mem_nil, or_false, exists_eq_or_imp,
      exists_eq_left, hthirty, hthree, hfour, hzero]
    grind
  subst hticks
  have htick : script.lastTick = 20 := (Option.some.inj hlastTick).symm
  have hplayed (k : Nat) (tick : UInt32) (keyframe : Keyframe) (sample : Sample)
      (hk : [0, 2, 20][k]? = some tick)
      (hfind : unorderedKeyframes.find?
        (fun keyframe => ({} : Timebase).tick keyframe.frame = tick) = some keyframe)
      (hsample : (({} : Settings).timeline unorderedKeyframes)[tick]? = some sample) :
      ∃ line, script.commands[k]? = some line ∧
        (Command.camera tick (({} : Transform).pose keyframe) (!sample.suppressEasing)).text {} "s"
          = .ok line := by
    obtain ⟨keyframe', sample', line, hfind', hsample', hline, htext⟩ := hcamera k tick hk
    cases hfind'.symm.trans hfind
    cases hsample'.symm.trans hsample
    exact ⟨line, hline, htext⟩
  refine ⟨script, h, htick, by rw [hlength, htick]; rfl, ?_, ?_, ?_⟩
  · exact hplayed 0 0 { frame := 0 } ⟨3, true⟩ rfl (by decide +kernel) (by decide +kernel)
  · exact hplayed 1 2 { frame := 3 } ⟨1, false⟩ rfl (by decide +kernel) (by decide +kernel)
  · obtain ⟨value, line, hvalue, hline, htext⟩ := hadvance 0 (Nat.zero_le _)
    rw [htick] at hvalue
    have htop : value = 21 := UInt32.toNat_inj.1 hvalue
    subst htop
    exact ⟨line, hline, htext⟩

end Script

end CameraScript
