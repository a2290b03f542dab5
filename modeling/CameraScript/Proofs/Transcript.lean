import CameraScript.Proofs.CameraOnly
import CameraScript.Proofs.CommandText
import CameraScript.Proofs.Overflow
import CameraScript.Proofs.SectionLog

/-!
# The log of a script

The log of a run from a motion file to a script tells how far the run came, and what came of it.
It can be written down from the outcomes of its steps.

* `decodedLine`, `suppressedLine`, `compiledLine`: what is shown behind the sections.
* `Script.lines_compile`: the log of a compilation.
* `Command.uneasedTick?`: what a camera command without easing is about.
  `Script.filterMap_uneasedTick?_commandsOf`: in a script these are the ticks that the log names.
* `Script.log_transcript`: the log of the whole run.
-/

namespace CameraScript

open Motion

/-! ## Lines behind the sections -/

def decodedLine (keyframes : Nat) : Level × String :=
  (.debug, "decoded " ++ keyframes.repr ++ " camera keyframe(s)")

def suppressedLine (tick : UInt32) : Level × String :=
  (.debug, "tick " ++ tick.toNat.repr ++ ": easing suppressed")

def compiledLine (counter : String) (keyframes cameras : Nat) (lastTick : UInt32) :
    Level × String :=
  (.info, counter ++ ": " ++ keyframes.repr ++ " keyframe(s) -> " ++ cameras.repr
    ++ " camera command(s), last tick " ++ lastTick.toNat.repr)

/-! ## Camera commands without easing -/

namespace Command

/-- The tick of a camera command without easing. -/
def uneasedTick? : Command → Option UInt32
  | camera tick _ false => some tick
  | _ => none

/-- Whether a command moves the camera without easing can be read off its text. -/
theorem uneasedTick?_eq_of_text_eq {template : Template} {counter text : String}
    {command command' : Command} (h : command.text template counter = .ok text)
    (h' : command'.text template counter = .ok text) :
    command.uneasedTick? = command'.uneasedTick? := by
  cases command with
  | camera tick pose ease =>
    cases command' with
    | camera tick' pose' ease' =>
      obtain ⟨rfl, rfl, -⟩ := (camera_line_eq_iff h h').1 rfl
      cases ease with
      | false => rfl
      | true => rfl
    | advance value => exact absurd rfl (camera_line_ne_advance_line h h')
  | advance value =>
    cases command' with
    | camera tick pose ease => exact absurd rfl (camera_line_ne_advance_line h' h)
    | advance value' => rfl

end Command

theorem filterMap_eq_of_map_eq {α β γ : Type} {f : α → Option γ} {g : β → Option γ} {xs : List α}
    {ys : List β} (h : xs.map f = ys.map g) : xs.filterMap f = ys.filterMap g := by
  have hxs : (xs.map f).filterMap id = xs.filterMap f := List.filterMap_map
  have hys : (ys.map g).filterMap id = ys.filterMap g := List.filterMap_map
  rw [← hxs, h, hys]

namespace Script

variable {settings : Settings} {counter : String} {keyframes : List Keyframe} {script : Script}
  {lastTick : UInt32}

/-! ## Compiling -/

/-- Easing is suppressed on ticks in increasing order. -/
theorem pairwise_suppressedTicks (timeline : Timeline) :
    (suppressedTicks timeline).Pairwise (· < ·) := by
  have hkeys := timeline.pairwise_keys
  rw [← Std.TreeMap.map_fst_toList_eq_keys, List.pairwise_map] at hkeys
  refine hkeys.filterMap _ fun entry entry' hlt tick htick tick' htick' => ?_
  simp only [Option.ite_none_right_eq_some, Option.some.injEq] at htick htick'
  rw [← htick.2, ← htick'.2]
  exact hlt

theorem filterMap_uneasedTick?_advances (count : Nat) :
    (advances count).filterMap Command.uneasedTick? = [] := by
  induction count with
  | zero => rfl
  | succ count ih => exact ih

/-- The camera commands without easing are those of the ticks that the log names. -/
theorem filterMap_uneasedTick?_commandsOf :
    (commandsOf settings keyframes lastTick).filterMap Command.uneasedTick? =
      suppressedTicks (settings.timeline keyframes) := by
  rw [commandsOf, List.filterMap_append, filterMap_uneasedTick?_advances, List.append_nil,
    suppressedTicks]
  refine filterMap_eq_of_map_eq ?_
  rw [← List.forall₂_eq_eq_eq, List.forall₂_map_left_iff, List.forall₂_map_right_iff]
  refine forall₂_cameraCommands_timeline.flip.imp fun command entry hcommand => ?_
  obtain ⟨-, rfl⟩ := hcommand
  cases hentry : entry.2.suppressEasing with
  | false => simp [Command.uneasedTick?, hentry]
  | true => simp [Command.uneasedTick?, hentry]

theorem countP_isCamera_advances (count : Nat) : (advances count).countP Command.isCamera = 0 := by
  induction count with
  | zero => rfl
  | succ count ih =>
    rw [advances, List.countP_cons_of_neg (by simp), ih]

theorem countP_isCamera_commandsOf :
    (commandsOf settings keyframes lastTick).countP Command.isCamera =
      (settings.timeline keyframes).size := by
  have hcameras : ∀ command ∈
      cameraCommands settings.transform keyframes (settings.timeline keyframes),
      command.isCamera = true := by
    intro command hcommand
    obtain ⟨tick, pose, ease, -, rfl⟩ := exists_eq_camera hcommand
    rfl
  rw [commandsOf, List.countP_append, countP_isCamera_advances, Nat.add_zero,
    List.countP_eq_length.2 hcameras, length_cameraCommands, Std.TreeMap.length_keys]

theorem lines_compile (h : (compile settings counter keyframes).result = .ok script) :
    (compile settings counter keyframes).lines =
      (suppressedTicks (settings.timeline keyframes)).map suppressedLine ++
        [compiledLine counter keyframes.length (settings.timeline keyframes).size
          script.lastTick] := by
  have hlast := (result_compile_eq_ok_iff.1 h).1
  rw [result_compile, hlast] at h
  obtain ⟨cameras, hcameras, hrest⟩ := Except.bind_eq_ok_iff.1 h
  obtain ⟨advances, hadvances, -⟩ := Except.map_eq_ok_iff.1 hrest
  unfold compile
  rw [← Settings.timeline]
  dsimp only
  rw [hlast]
  dsimp only
  rw [Logged.lines_bind_of_ok (Logged.result_report _), hcameras, hadvances,
    Logged.lines_report, List.map_map]
  rfl

theorem lines_compile_nil : (compile settings counter []).lines = [] := rfl

/-- Nothing but a sum that exceeds its word keeps keyframes from being compiled. -/
theorem exists_result_compile_of_isAbort (hne : keyframes ≠ [])
    (hruns : ∀ fault, (compile settings counter keyframes).result = .error fault →
      fault.isAbort = false) :
    ∃ script, (compile settings counter keyframes).result = .ok script := by
  cases hresult : (compile settings counter keyframes).result with
  | ok script => exact ⟨script, rfl⟩
  | error fault =>
    cases hlast : (settings.timeline keyframes).lastTick? with
    | none => exact absurd (Settings.lastTick?_timeline_eq_none_iff.1 hlast) hne
    | some lastTick =>
      rw [eq_additionOverflow_of_compile hlast hresult] at hresult
      exact absurd (hruns _ hresult) (by decide)

/-- The log of a compiled script, as it can be read off its commands. -/
theorem lines_compile_eq_of_mapM {commands : List Command}
    (h : (compile settings counter keyframes).result = .ok script)
    (hcommands : commands.mapM (Command.text settings.template counter) = .ok script.commands) :
    (commands.filterMap Command.uneasedTick?).Pairwise (· < ·) ∧
      (compile settings counter keyframes).lines =
        (commands.filterMap Command.uneasedTick?).map suppressedLine ++
          [compiledLine counter keyframes.length (commands.countP Command.isCamera)
            script.lastTick] := by
  obtain ⟨-, -, htexts⟩ := result_compile_eq_ok_iff.1 h
  have huneased : commands.filterMap Command.uneasedTick? =
      suppressedTicks (settings.timeline keyframes) := by
    rw [← filterMap_uneasedTick?_commandsOf]
    exact filterMap_eq_of_map_eq
      (Command.map_eq_of_mapM_eq Command.uneasedTick?_eq_of_text_eq hcommands htexts)
  have hcameras : commands.countP Command.isCamera = (settings.timeline keyframes).size := by
    have hkinds : commands.map Command.isCamera =
        (commandsOf settings keyframes script.lastTick).map Command.isCamera :=
      Command.map_eq_of_mapM_eq
        (fun h h' => Command.isCamera_eq_of_rule_eq (Command.rule_eq_of_text_eq h h'))
        hcommands htexts
    have hcount := congrArg (List.countP id) hkinds
    rw [List.countP_map, List.countP_map] at hcount
    exact hcount.trans countP_isCamera_commandsOf
  rw [huneased, hcameras]
  exact ⟨pairwise_suppressedTicks _, lines_compile h⟩

/-! ## The whole run -/

variable {data : Bytes}

theorem lines_track_of_layout_error {fault : Fault}
    (h : (Layout.ofBytes data).result = .error fault) :
    (Track.ofBytes data).lines = (Layout.ofBytes data).lines :=
  Logged.lines_bind_of_error h

theorem lines_track_of_decode_error {layout : Layout} {fault : Fault}
    (h : (Layout.ofBytes data).result = .ok layout)
    (hdecode : Track.decode data layout.camera = .error fault) :
    (Track.ofBytes data).lines = (Layout.ofBytes data).lines := by
  rw [Track.ofBytes, Logged.lines_bind_of_ok h, hdecode]
  exact List.append_nil _

theorem lines_track_of_decode_ok {layout : Layout}
    (h : (Layout.ofBytes data).result = .ok layout)
    (hdecode : Track.decode data layout.camera = .ok keyframes) :
    (Track.ofBytes data).lines = (Layout.ofBytes data).lines ++ [decodedLine keyframes.length] := by
  rw [Track.ofBytes, Logged.lines_bind_of_ok h, hdecode]
  rfl

/-- **The log of a run.** Unless the program stops, the log of a run tells what the run has come
to. Of a file whose sections are not found it shows the sections before the one that is cut off.
Else it shows the sections that must be there, those found behind them and the first that is
missing, and where the camera records can be read how many these are. Of a script it shows the
ticks whose camera command has no easing, by increasing tick, and what the script holds. What a
command of the script is can be told from its text, however it is read. -/
theorem log_transcript (settings : Settings) (counter : String) (data : Bytes)
    (hruns : ∀ fault, (ofBytes settings counter data).result = .error fault →
      fault.isAbort = false) :
    (∀ fault, (Layout.ofBytes data).result = .error fault →
      (ofBytes settings counter data).result = .error fault ∧
      (ofBytes settings counter data).lines =
        (Layout.mandatoryLines data).take (Layout.foundBefore fault)) ∧
    ∀ layout, (Layout.ofBytes data).result = .ok layout →
      Layout.mandatoryLines data = [layout.bone, layout.morph, layout.camera].map Section.line ∧
      (∀ entry ∈ layout.optionalSections, ∀ s, entry.2 = some s → s.kind = entry.1) ∧
      (∀ fault, Track.decode data layout.camera = .error fault →
        (ofBytes settings counter data).result = .error fault ∧
        (ofBytes settings counter data).lines =
          Layout.mandatoryLines data ++ layout.optionalLines data) ∧
      (Track.decode data layout.camera = .ok [] →
        (ofBytes settings counter data).result = .error .emptyCamera ∧
        (ofBytes settings counter data).lines =
          Layout.mandatoryLines data ++ layout.optionalLines data ++ [decodedLine 0]) ∧
      ∀ keyframes, Track.decode data layout.camera = .ok keyframes → keyframes ≠ [] →
        ∃ script, (ofBytes settings counter data).result = .ok script ∧
          (∃ commands : List Command,
            commands.mapM (Command.text settings.template counter) = .ok script.commands) ∧
          ∀ commands : List Command,
            commands.mapM (Command.text settings.template counter) = .ok script.commands →
            (commands.filterMap Command.uneasedTick?).Pairwise (· < ·) ∧
            (ofBytes settings counter data).lines =
              Layout.mandatoryLines data ++ layout.optionalLines data ++
                [decodedLine keyframes.length] ++
                (commands.filterMap Command.uneasedTick?).map suppressedLine ++
                [compiledLine counter keyframes.length (commands.countP Command.isCamera)
                  script.lastTick] := by
  obtain ⟨herror, hok⟩ := Layout.transcribed_ofBytes data
  refine ⟨fun fault hlayout => ?_, fun layout hlayout => ?_⟩
  · have htrack := Track.result_ofBytes_of_layout_error hlayout
    rw [result_ofBytes, htrack, ofBytes, Logged.lines_bind_of_error htrack,
      lines_track_of_layout_error hlayout]
    exact ⟨rfl, herror fault hlayout⟩
  · obtain ⟨hmandatory, hkinds, hlines⟩ := hok layout hlayout
    have htrack : (Track.ofBytes data).result = Track.decode data layout.camera := by
      rw [Track.result_ofBytes, hlayout]
      rfl
    refine ⟨hmandatory, hkinds, fun fault hdecode => ?_, fun hdecode => ?_,
      fun keyframes hdecode hne => ?_⟩
    · rw [hdecode] at htrack
      rw [result_ofBytes, htrack, ofBytes, Logged.lines_bind_of_error htrack,
        lines_track_of_decode_error hlayout hdecode]
      exact ⟨rfl, hlines⟩
    · rw [hdecode] at htrack
      rw [result_ofBytes, htrack, ofBytes, Logged.lines_bind_of_ok htrack,
        lines_track_of_decode_ok hlayout hdecode, lines_compile_nil, List.append_nil, hlines]
      exact ⟨rfl, rfl⟩
    · rw [hdecode] at htrack
      rw [result_ofBytes, htrack] at hruns
      obtain ⟨script, hscript⟩ := exists_result_compile_of_isAbort hne hruns
      refine ⟨script, ?_, ⟨_, (result_compile_eq_ok_iff.1 hscript).2.2⟩,
        fun commands hcommands => ?_⟩
      · rw [result_ofBytes, htrack]
        exact hscript
      · obtain ⟨hincreasing, hcompile⟩ := lines_compile_eq_of_mapM hscript hcommands
        refine ⟨hincreasing, ?_⟩
        rw [ofBytes, Logged.lines_bind_of_ok htrack, lines_track_of_decode_ok hlayout hdecode,
          hlines, hcompile]
        simp only [List.append_assoc]

/-- The unordered keyframes in a file that ends within its IK records. -/
def cutIkRecords : Bytes :=
  File.encode [] unorderedKeyframes ++ Word.toBytes 2 ++ List.replicate 9 0

def cutIkRecordsLayout : Layout where
  modelName := []
  header := Layout.headerSection
  bone := ⟨.bone, 0, 54, 111⟩
  morph := ⟨.morph, 0, 58, 23⟩
  camera := ⟨.camera, 4, 62, 61⟩
  light := some ⟨.light, 0, 310, 28⟩
  shadow := some ⟨.shadow, 0, 314, 9⟩
  ik := none

theorem log_transcript_cutIkRecords :
    (∃ script, (ofBytes {} "s" cutIkRecords).result = .ok script) ∧
      (ofBytes {} "s" cutIkRecords).lines =
        [(.trace, "Bone: 0 record(s) at 0x36"), (.trace, "Morph: 0 record(s) at 0x3a"),
          (.trace, "Camera: 4 record(s) at 0x3e"), (.trace, "Light: 0 record(s) at 0x136"),
          (.trace, "Shadow: 0 record(s) at 0x13a"),
          (.debug, "Ik section wants 2 record(s) but the file ends at 0x147"),
          (.debug, "decoded 4 camera keyframe(s)"), (.debug, "tick 0: easing suppressed"),
          (.info, "s: 4 keyframe(s) -> 3 camera command(s), last tick 20")] := by
  have hlayout : (Layout.ofBytes cutIkRecords).result = .ok cutIkRecordsLayout := by
    decide +kernel
  have hdecode : Track.decode cutIkRecords cutIkRecordsLayout.camera = .ok unorderedKeyframes := by
    decide +kernel
  have hlast : (({} : Settings).timeline unorderedKeyframes).lastTick? = some 20 := by
    decide +kernel
  have htrack : (Track.ofBytes cutIkRecords).result = .ok unorderedKeyframes := by
    decide +kernel
  obtain ⟨script, hscript⟩ : ∃ script, (compile {} "s" unorderedKeyframes).result = .ok script :=
    exists_result_compile hlast (by decide)
  have hresult : (ofBytes {} "s" cutIkRecords).result = .ok script := by
    rw [result_ofBytes]
    exact Except.bind_eq_ok_iff.2 ⟨_, htrack, hscript⟩
  have hruns : ∀ fault, (ofBytes {} "s" cutIkRecords).result = .error fault →
      fault.isAbort = false := by
    intro fault hfault
    cases hresult.symm.trans hfault
  obtain ⟨-, hlog⟩ := log_transcript {} "s" cutIkRecords hruns
  obtain ⟨-, -, -, -, hlog⟩ := hlog cutIkRecordsLayout hlayout
  obtain ⟨script', hscript', -, hlog⟩ := hlog unorderedKeyframes hdecode (by decide)
  cases hscript'.symm.trans hresult
  obtain ⟨hlast', -, htexts⟩ := result_compile_eq_ok_iff.1 hscript
  have htick : script.lastTick = 20 := Option.some.inj (hlast'.symm.trans hlast)
  obtain ⟨-, hlines⟩ := hlog _ htexts
  refine ⟨⟨script, hresult⟩, hlines.trans ?_⟩
  rw [filterMap_uneasedTick?_commandsOf, countP_isCamera_commandsOf, htick]
  decide +kernel

end Script

end CameraScript
