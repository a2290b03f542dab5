import CameraScript.Proofs.Lines

/-!
# Why compiling fails

A track without keyframes is not compiled. Scores are words, and a script that ends with one of
the last two ticks would have to count beyond them: there the program stops. Every other track
is compiled, however many keyframes it has and in whatever order.

* `Settings.ticks`: the ticks that keyframes are on, also those of keyframes that are not played.
  `Settings.lastTick?_timeline_eq_some_iff`: the last tick of the timeline is the greatest.
* `Script.eq_additionOverflow_of_advanceTexts`, `Command.eq_additionOverflow_of_text`: commands
  fail for no other reason than a sum that exceeds its word.
* `Script.failure?`: why a script with this last tick is not compiled.
  `Script.result_compile_or_failure?`: it is compiled unless it fails for this reason.
* `Script.outcome_of_compile`: the same in terms of the keyframes.
-/

namespace CameraScript

open Motion

/-! ## Ticks of keyframes -/

namespace Settings

variable {settings : Settings} {keyframes : List Keyframe} {tick : UInt32}

/-- The ticks that these keyframes are on. -/
def ticks (settings : Settings) (keyframes : List Keyframe) : Set UInt32 :=
  {tick | ∃ keyframe ∈ keyframes, settings.timebase.tick keyframe.frame = tick}

theorem setOf_mem_timeline_eq_ticks :
    {tick | tick ∈ settings.timeline keyframes} = settings.ticks keyframes := by
  ext tick
  exact Std.TreeMap.mem_keys.symm.trans mem_keys_timeline_iff

theorem lastTick?_timeline_eq_some_iff :
    (settings.timeline keyframes).lastTick? = some tick ↔
      IsGreatest (settings.ticks keyframes) tick := by
  rw [Timeline.lastTick?_eq_some_iff, setOf_mem_timeline_eq_ticks]

theorem lastTick?_timeline_eq_none_iff :
    (settings.timeline keyframes).lastTick? = none ↔ keyframes = [] := by
  rw [Timeline.lastTick?, List.getLast?_eq_none_iff, List.eq_nil_iff_forall_not_mem,
    List.eq_nil_iff_forall_not_mem]
  constructor
  · intro h keyframe hkeyframe
    exact h _ (mem_keys_timeline_iff.2 ⟨keyframe, hkeyframe, rfl⟩)
  · intro h tick htick
    obtain ⟨keyframe, hkeyframe, -⟩ := mem_keys_timeline_iff.1 htick
    exact h keyframe hkeyframe

end Settings

/-! ## Commands without a text -/

theorem Command.eq_additionOverflow_of_text {template : Template} {counter : String}
    {command : Command} {fault : Fault} (h : command.text template counter = .error fault) :
    fault = .additionOverflow := by
  cases command with
  | camera tick pose ease => exact eq_additionOverflow_of_successor (Except.map_eq_error_iff.1 h)
  | advance value => exact eq_additionOverflow_of_successor (Except.map_eq_error_iff.1 h)

theorem Command.eq_additionOverflow_of_mapM_text {template : Template} {counter : String}
    {commands : List Command} {fault : Fault}
    (h : commands.mapM (Command.text template counter) = .error fault) :
    fault = .additionOverflow := by
  obtain ⟨command, -, htext⟩ := Except.exists_of_mapM_eq_error h
  exact eq_additionOverflow_of_text htext

namespace Script

theorem eq_additionOverflow_of_advanceTexts {template : Template} {counter : String}
    {lastTick : UInt32} {fault : Fault}
    (h : advanceTexts template counter lastTick = .error fault) : fault = .additionOverflow := by
  rw [advanceTexts, Except.bind_eq_error_iff] at h
  rcases h with hsuccessor | ⟨top, -, htexts⟩
  · exact eq_additionOverflow_of_successor hsuccessor
  · rw [advanceTextsFrom_nil] at htexts
    exact Command.eq_additionOverflow_of_mapM_text htexts

/-! ## Compiling -/

variable {settings : Settings} {counter : String} {keyframes : List Keyframe}

theorem eq_additionOverflow_of_compile {lastTick : UInt32} {fault : Fault}
    (hlast : (settings.timeline keyframes).lastTick? = some lastTick)
    (h : (compile settings counter keyframes).result = .error fault) :
    fault = .additionOverflow := by
  rw [result_compile, hlast] at h
  rcases Except.bind_eq_error_iff.1 h with hcameras | ⟨cameras, -, hrest⟩
  · exact Command.eq_additionOverflow_of_mapM_text hcameras
  · exact eq_additionOverflow_of_advanceTexts (Except.map_eq_error_iff.1 hrest)

/-- Why a script that ends with this tick is not compiled. -/
def failure? : (lastTick : Option UInt32) → Option Fault
  | none => some .emptyCamera
  | some lastTick => if lastTick.toNat + 2 < 2 ^ 32 then none else some .additionOverflow

/-- A track is compiled, or fails for the reason that its last tick gives. -/
theorem result_compile_or_failure? (settings : Settings) (counter : String)
    (keyframes : List Keyframe) :
    (∃ fault, failure? (settings.timeline keyframes).lastTick? = some fault ∧
      (compile settings counter keyframes).result = .error fault) ∨
    (failure? (settings.timeline keyframes).lastTick? = none ∧
      ∃ script, (compile settings counter keyframes).result = .ok script) := by
  cases hlast : (settings.timeline keyframes).lastTick? with
  | none =>
    refine .inl ⟨.emptyCamera, rfl, ?_⟩
    rw [result_compile, hlast]
  | some lastTick =>
    by_cases hlt : lastTick.toNat + 2 < 2 ^ 32
    · exact .inr ⟨if_pos hlt, exists_result_compile hlast hlt⟩
    · refine .inl ⟨.additionOverflow, if_neg hlt, ?_⟩
      cases hresult : (compile settings counter keyframes).result with
      | error fault => rw [eq_additionOverflow_of_compile hlast hresult]
      | ok script =>
        obtain ⟨hlast', hlt', -⟩ := result_compile_eq_ok_iff.1 hresult
        cases hlast.symm.trans hlast'
        exact absurd hlt' hlt

theorem failure?_eq_emptyCamera_iff {lastTick : Option UInt32} :
    failure? lastTick = some .emptyCamera ↔ lastTick = none := by
  cases lastTick with
  | none => simp [failure?]
  | some tick => simp [failure?]

theorem failure?_eq_additionOverflow_iff {lastTick : Option UInt32} :
    failure? lastTick = some .additionOverflow ↔
      ∃ tick, lastTick = some tick ∧ 2 ^ 32 - 2 ≤ tick.toNat := by
  cases lastTick with
  | none => simp [failure?]
  | some tick => simp [failure?]

theorem failure?_eq_none_iff {lastTick : Option UInt32} :
    failure? lastTick = none ↔ ∃ tick, lastTick = some tick ∧ tick.toNat < 2 ^ 32 - 2 := by
  cases lastTick with
  | none => simp [failure?]
  | some tick => simp [failure?]

/-- **Which tracks are compiled.** No script is made of a track without keyframes. The program
stops over a sum that exceeds its word where the greatest tick of all keyframes, played or not,
is one of the last two. Every other track has a script. -/
theorem outcome_of_compile (settings : Settings) (counter : String) (keyframes : List Keyframe) :
    ((compile settings counter keyframes).result = .error .emptyCamera ↔ keyframes = []) ∧
      ((compile settings counter keyframes).result = .error .additionOverflow ↔
        ∃ greatest, IsGreatest (settings.ticks keyframes) greatest ∧
          2 ^ 32 - 2 ≤ greatest.toNat) ∧
      ((∃ script, (compile settings counter keyframes).result = .ok script) ↔
        keyframes ≠ [] ∧ ∀ tick ∈ settings.ticks keyframes, tick.toNat < 2 ^ 32 - 2) ∧
      (∀ fault, (compile settings counter keyframes).result = .error fault →
        fault = .emptyCamera ∨ fault = .additionOverflow) ∧
      Fault.additionOverflow.isAbort = true ∧
      Fault.additionOverflow.message = "attempt to add with overflow" := by
  obtain ⟨herror, hok⟩ :=
    Except.eq_error_iff_and_exists_ok_iff (result_compile_or_failure? settings counter keyframes)
  refine ⟨?_, ?_, ?_, fun fault h => ?_, rfl, rfl⟩
  · rw [herror, failure?_eq_emptyCamera_iff, Settings.lastTick?_timeline_eq_none_iff]
  · rw [herror, failure?_eq_additionOverflow_iff]
    simp only [Settings.lastTick?_timeline_eq_some_iff]
  · rw [hok, failure?_eq_none_iff]
    constructor
    · rintro ⟨last, hlast, hlt⟩
      refine ⟨?_, fun tick htick => ?_⟩
      · rintro rfl
        cases (Settings.lastTick?_timeline_eq_none_iff.2 rfl).symm.trans hlast
      · have hle := (Settings.lastTick?_timeline_eq_some_iff.1 hlast).2 htick
        rw [UInt32.le_iff_toNat_le] at hle
        omega
    · rintro ⟨hne, hall⟩
      cases hlast : (settings.timeline keyframes).lastTick? with
      | none => exact absurd (Settings.lastTick?_timeline_eq_none_iff.1 hlast) hne
      | some last =>
        exact ⟨last, rfl, hall last (Settings.lastTick?_timeline_eq_some_iff.1 hlast).1⟩
  · have hfailure := (herror fault).1 h
    cases hlast : (settings.timeline keyframes).lastTick? with
    | none =>
      rw [hlast] at hfailure
      exact .inl (Option.some.inj hfailure).symm
    | some last =>
      exact .inr (eq_additionOverflow_of_compile hlast h)

/-- Without a source rate every frame but the first is on the last tick. -/
example : (compile { timebase := { sourceFps := 0 } } "s" [{ frame := 0 }, { frame := 1 }]).result =
    .error .additionOverflow := by decide +kernel

end Script

end CameraScript
