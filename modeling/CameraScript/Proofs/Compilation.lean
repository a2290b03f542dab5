import CameraScript.Proofs.Outcome
import CameraScript.Proofs.Timeline
import CameraScript.Proofs.Words
import CameraScript.Script

/-!
# What a script is compiled to

* `Script.commandsOf`: the commands of a script before they are rendered, which are the
  camera commands of its timeline and behind them the counting block.
* `Script.forall₂_cameraCommands`: there is one camera command for each sample.
* `Script.result_compile_eq_ok_iff`: compiling succeeds exactly where these commands have
  texts, and these texts are the script.
* `Script.exists_result_compile`: they have texts where the last tick has two successors.
-/

namespace CameraScript

open Motion

namespace Command

variable {template : Template} {counter text : String}

/-- The tick of a camera command. -/
def tick? : Command → Option UInt32
  | camera tick _ _ => some tick
  | advance _ => none

def isCamera (command : Command) : Bool := command.tick?.isSome

@[simp] theorem isCamera_camera (tick : UInt32) (pose : Pose) (ease : Bool) :
    (camera tick pose ease).isCamera = true := rfl

@[simp] theorem isCamera_advance (value : UInt32) : (advance value).isCamera = false := rfl

theorem isCamera_iff {command : Command} :
    command.isCamera = true ↔ ∃ tick pose ease, command = camera tick pose ease := by
  cases command with
  | camera tick pose ease => exact iff_of_true rfl ⟨tick, pose, ease, rfl⟩
  | advance value => exact iff_of_false nofun nofun

theorem text_camera_eq_ok_iff {tick : UInt32} {pose : Pose} {ease : Bool} :
    (camera tick pose ease).text template counter = .ok text ↔
      ∃ score : UInt32, score.toNat = tick.toNat + 1 ∧
        template.cameraText counter score pose ease = text := by
  rw [Command.text, Except.map_eq_ok_iff]
  exact exists_congr fun score => and_congr_left fun _ => successor_eq_ok_iff

theorem text_advance_eq_ok_iff {value : UInt32} :
    (advance value).text template counter = .ok text ↔
      ∃ next : UInt32, next.toNat = value.toNat + 1 ∧ advanceText counter value next = text := by
  rw [Command.text, Except.map_eq_ok_iff]
  exact exists_congr fun next => and_congr_left fun _ => successor_eq_ok_iff

/-- The word that a command is about. -/
def word : Command → UInt32
  | camera tick _ _ => tick
  | advance value => value

/-- A command has a text exactly where its word has a successor. -/
theorem exists_text_iff {command : Command} :
    (∃ text, command.text template counter = .ok text) ↔ command.word.toNat + 1 < 2 ^ 32 := by
  cases command with
  | camera tick pose ease =>
    constructor
    · rintro ⟨text, h⟩
      obtain ⟨score, hscore, -⟩ := text_camera_eq_ok_iff.1 h
      exact hscore ▸ score.toNat_lt
    · intro h
      exact ⟨_, text_camera_eq_ok_iff.2 ⟨_, successor_eq_ok_iff.1 (successor_eq_ok h), rfl⟩⟩
  | advance value =>
    constructor
    · rintro ⟨text, h⟩
      obtain ⟨next, hnext, -⟩ := text_advance_eq_ok_iff.1 h
      exact hnext ▸ next.toNat_lt
    · intro h
      exact ⟨_, text_advance_eq_ok_iff.2 ⟨_, successor_eq_ok_iff.1 (successor_eq_ok h), rfl⟩⟩

end Command

namespace Script

/-! ## Camera commands -/

section Cameras

variable {transform : Transform} {keyframes : List Keyframe} {timeline : Timeline}

theorem forall₂_filterMap {α β : Type} {f : α → Option β} {xs : List α}
    (h : ∀ x ∈ xs, ∃ y, f x = some y) :
    List.Forall₂ (fun x y => f x = some y) xs (xs.filterMap f) := by
  induction xs with
  | nil => exact .nil
  | cons x xs ih =>
    obtain ⟨y, hy⟩ := h x List.mem_cons_self
    rw [List.filterMap_cons_some hy]
    exact .cons hy (ih fun x hx => h x (List.mem_cons_of_mem _ hx))

/-- The samples of a timeline and its camera commands in step. -/
theorem forall₂_cameraCommands
    (h : ∀ (t : UInt32) (sample : Sample), timeline[t]? = some sample →
      sample.index < keyframes.length) :
    List.Forall₂ (fun entry command => ∃ h : entry.2.index < keyframes.length,
        command = .camera entry.1 (transform.pose keyframes[entry.2.index])
          (!entry.2.suppressEasing))
      timeline.toList (cameraCommands transform keyframes timeline) := by
  have hindex : ∀ entry ∈ timeline.toList, entry.2.index < keyframes.length :=
    fun entry hentry => h entry.1 entry.2 (Std.TreeMap.mem_toList_iff_getElem?_eq_some.1 hentry)
  unfold cameraCommands
  refine (forall₂_filterMap fun entry hentry => ?_).imp fun entry command hcommand => ?_
  · have := hindex entry hentry
    simp [this]
  · obtain ⟨keyframe, hkeyframe, rfl⟩ := Option.map_eq_some_iff.1 hcommand
    rw [List.getElem?_toArray] at hkeyframe
    obtain ⟨hlt, rfl⟩ := List.getElem?_eq_some_iff.1 hkeyframe
    exact ⟨hlt, rfl⟩

theorem exists_eq_camera {command : Command}
    (h : command ∈ cameraCommands transform keyframes timeline) :
    ∃ tick pose ease, tick ∈ timeline ∧ command = .camera tick pose ease := by
  obtain ⟨⟨tick, sample⟩, hentry, hcommand⟩ := List.mem_filterMap.1 h
  obtain ⟨keyframe, -, rfl⟩ := Option.map_eq_some_iff.1 hcommand
  refine ⟨tick, _, _, ?_, rfl⟩
  rw [← Std.TreeMap.mem_keys, ← Std.TreeMap.map_fst_toList_eq_keys]
  exact List.mem_map_of_mem hentry

end Cameras

/-! ## The counting block -/

/-- The advance commands of the values from `count` down to `1`. -/
def advances : (count : Nat) → List Command
  | 0 => []
  | count + 1 => .advance (UInt32.ofNat (count + 1)) :: advances count

theorem advanceTextsFrom_eq {template : Template} {counter : String} {done : List String}
    {count : Nat} :
    advanceTextsFrom template counter done count =
      (do return done.reverse ++ (← (advances count).mapM (Command.text template counter))) := by
  induction count generalizing done with
  | zero =>
    rw [advances, List.mapM_nil, advanceTextsFrom]
    simp only [pure_bind, List.append_nil]
    rfl
  | succ count ih =>
    rw [advances, List.mapM_cons, advanceTextsFrom]
    cases (Command.advance (UInt32.ofNat (count + 1))).text template counter with
    | error fault => rfl
    | ok text =>
      simp only [ih, List.reverse_cons, List.append_assoc, List.singleton_append]
      cases (advances count).mapM (Command.text template counter) with
      | error fault => rfl
      | ok texts => rfl

theorem advanceTextsFrom_nil {template : Template} {counter : String} {count : Nat} :
    advanceTextsFrom template counter [] count =
      (advances count).mapM (Command.text template counter) := by
  rw [advanceTextsFrom_eq]
  exact bind_pure _

theorem mem_advances {count : Nat} {command : Command} (h : command ∈ advances count) :
    ∃ value, 0 < value ∧ value ≤ count ∧ command = .advance (UInt32.ofNat value) := by
  induction count with
  | zero => cases h
  | succ count ih =>
    rcases List.mem_cons.1 h with rfl | h
    · exact ⟨count + 1, Nat.succ_pos count, Nat.le_refl _, rfl⟩
    · obtain ⟨value, hpos, hle, rfl⟩ := ih h
      exact ⟨value, hpos, by omega, rfl⟩

theorem toNat_ofNat_of_le {value : Nat} {lastTick : UInt32} (h : lastTick.toNat + 2 < 2 ^ 32)
    (hvalue : value ≤ lastTick.toNat + 1) : (UInt32.ofNat value).toNat = value :=
  UInt32.toNat_ofNat_of_lt' (by rw [UInt32.size]; omega)

theorem advanceTexts_eq_ok_iff {template : Template} {counter : String} {lastTick : UInt32}
    {texts : List String} :
    advanceTexts template counter lastTick = .ok texts ↔
      lastTick.toNat + 2 < 2 ^ 32 ∧
        (advances (lastTick.toNat + 1)).mapM (Command.text template counter) = .ok texts := by
  rw [advanceTexts, Except.bind_eq_ok_iff]
  simp only [advanceTextsFrom_nil, successor_eq_ok_iff]
  constructor
  · rintro ⟨top, htop, h⟩
    rw [htop] at h
    refine ⟨?_, h⟩
    rw [advances, Except.mapM_eq_ok_iff, List.forall₂_cons_left_iff] at h
    obtain ⟨text, -, htext, -⟩ := h
    have hword := Command.exists_text_iff.1 ⟨text, htext⟩
    rw [← htop, Command.word, UInt32.ofNat_toNat] at hword
    omega
  · rintro ⟨hlt, h⟩
    exact ⟨lastTick + 1, by
      rw [successor_eq_ok_iff.1 (successor_eq_ok (by omega))], by
      rw [successor_eq_ok_iff.1 (successor_eq_ok (by omega))]
      exact h⟩

/-! ## Compiling -/

end Script

/-- The keyframes on their ticks. -/
def Settings.timeline (settings : Settings) (keyframes : List Keyframe) : Timeline :=
  Timeline.ofFrames settings.timebase (keyframes.map Keyframe.frame)

theorem Settings.index_lt {settings : Settings} {keyframes : List Keyframe} {t : UInt32}
    {sample : Sample} (h : (settings.timeline keyframes)[t]? = some sample) :
    sample.index < keyframes.length := by
  obtain ⟨hlt, -⟩ := tickAt_offersOf_iff.1 (Timeline.getElem?_ofFrames_eq_some_iff.1 h).1.1
  simpa using hlt

namespace Script

variable {settings : Settings} {counter : String} {keyframes : List Keyframe}

def commandsOf (settings : Settings) (keyframes : List Keyframe) (lastTick : UInt32) :
    List Command :=
  cameraCommands settings.transform keyframes (settings.timeline keyframes) ++
    advances (lastTick.toNat + 1)

theorem result_compile :
    (compile settings counter keyframes).result =
      match (settings.timeline keyframes).lastTick? with
      | none => .error .emptyCamera
      | some lastTick => do
        let cameras ← (cameraCommands settings.transform keyframes
          (settings.timeline keyframes)).mapM (Command.text settings.template counter)
        let advances ← advanceTexts settings.template counter lastTick
        return { commands := cameras ++ advances, lastTick } := by
  unfold compile
  rw [← Settings.timeline]
  dsimp only
  cases (settings.timeline keyframes).lastTick? with
  | none => exact Logged.result_fail _
  | some lastTick =>
    simp only [Logged.result_bind, Logged.result_report, Logged.result_ofExcept,
      Logged.result_pure]
    rfl

/-- **The outcome of a compilation.** The texts of the commands, in order, unless the track is
empty or the last tick has no successor that has one. -/
theorem result_compile_eq_ok_iff {script : Script} :
    (compile settings counter keyframes).result = .ok script ↔
      (settings.timeline keyframes).lastTick? = some script.lastTick ∧
        script.lastTick.toNat + 2 < 2 ^ 32 ∧
        (commandsOf settings keyframes script.lastTick).mapM
          (Command.text settings.template counter) = .ok script.commands := by
  rw [commandsOf, Except.mapM_append_eq_ok_iff, result_compile]
  cases (settings.timeline keyframes).lastTick? with
  | none =>
    constructor
    · intro h
      cases h
    · rintro ⟨h, -⟩
      cases h
  | some lastTick =>
    simp only [Except.bind_eq_ok_iff, advanceTexts_eq_ok_iff]
    constructor
    · rintro ⟨cameras, hcameras, advances, ⟨hlt, hadvances⟩, h⟩
      cases h
      exact ⟨rfl, hlt, cameras, advances, hcameras, hadvances, rfl⟩
    · obtain ⟨commands, tick⟩ := script
      rintro ⟨h, hlt, cameras, advances, hcameras, hadvances, rfl⟩
      cases h
      exact ⟨cameras, hcameras, advances, ⟨hlt, hadvances⟩, rfl⟩

theorem exists_result_compile {lastTick : UInt32}
    (hlast : (settings.timeline keyframes).lastTick? = some lastTick)
    (hlt : lastTick.toNat + 2 < 2 ^ 32) :
    ∃ script, (compile settings counter keyframes).result = .ok script := by
  have hword : ∀ command ∈ commandsOf settings keyframes lastTick,
      command.word.toNat + 1 < 2 ^ 32 := by
    intro command hcommand
    rcases List.mem_append.1 hcommand with hcommand | hcommand
    · obtain ⟨tick, pose, ease, htick, rfl⟩ := exists_eq_camera hcommand
      have hle := (Timeline.lastTick?_eq_some_iff.1 hlast).2 htick
      rw [UInt32.le_iff_toNat_le] at hle
      rw [Command.word]
      omega
    · obtain ⟨value, -, hle, rfl⟩ := mem_advances hcommand
      rw [Command.word, toNat_ofNat_of_le hlt hle]
      omega
  have htext : ∀ command ∈ commandsOf settings keyframes lastTick,
      ∃ text, command.text settings.template counter = .ok text :=
    fun command hcommand => Command.exists_text_iff.2 (hword command hcommand)
  obtain ⟨texts, htexts⟩ := Except.exists_mapM_eq_ok htext
  exact ⟨⟨texts, lastTick⟩, result_compile_eq_ok_iff.2 ⟨hlast, hlt, htexts⟩⟩

end Script

end CameraScript
