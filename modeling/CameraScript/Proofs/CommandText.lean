import CameraScript.Proofs.Rule

/-!
# Texts of commands are unambiguous

What a command does can be told from its text, whatever the counter is called and whatever the
template holds.

* `Command.camera_line_eq_iff`, `Command.advance_line_eq_iff`: when two commands of one kind have
  the same text.
* `Script.nodup_map_rule_commandsOf`: the commands of a script differ in their rules.
* `Command.texts_unambiguous`: when commands have the same text, and that the lines of a script
  are distinct.
-/

namespace CameraScript

open Motion

/-! ## Commands -/

namespace Command

variable {template : Template} {counter line line' : String} {tick tick' value value' : UInt32}
  {pose pose' : Pose} {ease ease' : Bool}

theorem camera_line_eq_iff (h : (camera tick pose ease).text template counter = .ok line)
    (h' : (camera tick' pose' ease').text template counter = .ok line') :
    line = line' ↔ tick = tick' ∧ ease = ease' ∧ pose.texts = pose'.texts := by
  obtain ⟨score, hscore, rfl⟩ := text_camera_eq_ok_iff.1 h
  obtain ⟨score', hscore', rfl⟩ := text_camera_eq_ok_iff.1 h'
  rw [Template.cameraText_eq_iff, ← UInt32.toNat_inj, ← UInt32.toNat_inj, hscore, hscore',
    Nat.add_right_cancel_iff]

theorem advance_line_eq_iff (h : (advance value).text template counter = .ok line)
    (h' : (advance value').text template counter = .ok line') : line = line' ↔ value = value' := by
  constructor
  · rintro rfl
    have hrule : (advance value).rule = (advance value').rule := rule_eq_of_text_eq h h'
    exact UInt32.toNat_inj.1 (Rule.set.inj hrule).1
  · rintro rfl
    exact Except.ok.inj (h.symm.trans h')

theorem camera_line_ne_advance_line (h : (camera tick pose ease).text template counter = .ok line)
    (h' : (advance value).text template counter = .ok line') : line ≠ line' := by
  rintro rfl
  have hrule : (camera tick pose ease).rule = (advance value).rule := rule_eq_of_text_eq h h'
  cases hrule

/-- Commands that differ in their rules have distinct texts. -/
theorem nodup_of_forall₂_text {commands : List Command} {lines : List String}
    (h : List.Forall₂ (fun command line => command.text template counter = .ok line)
      commands lines) (hrules : (commands.map rule).Nodup) : lines.Nodup := by
  rw [List.Nodup, List.pairwise_iff_getElem] at hrules ⊢
  intro i j hi hj hij heq
  have hi' : i < commands.length := h.length_eq ▸ hi
  have hj' : j < commands.length := h.length_eq ▸ hj
  have htext := h.get hi' hi
  have htext' := h.get hj' hj
  simp only [List.get_eq_getElem] at htext htext'
  rw [← heq] at htext'
  refine hrules i j (by rwa [List.length_map]) (by rwa [List.length_map]) hij ?_
  rw [List.getElem_map, List.getElem_map]
  exact rule_eq_of_text_eq htext htext'

end Command

/-! ## Scripts -/

namespace Script

variable {settings : Settings} {counter : String} {keyframes : List Keyframe} {lastTick : UInt32}
  {script : Script}

theorem nodup_map_rule_advances {count : Nat} (h : count < 2 ^ 32) :
    ((advances count).map Command.rule).Nodup := by
  induction count with
  | zero => exact List.nodup_nil
  | succ count ih =>
    rw [advances, List.map_cons, List.nodup_cons]
    refine ⟨fun hmem => ?_, ih (Nat.lt_of_succ_lt h)⟩
    obtain ⟨command, hcommand, hrule⟩ := List.mem_map.1 hmem
    obtain ⟨value, -, hle, rfl⟩ := mem_advances hcommand
    have hgate : (UInt32.ofNat value).toNat = (UInt32.ofNat (count + 1)).toNat :=
      (Rule.set.inj hrule).1
    rw [UInt32.toNat_ofNat_of_lt' (by rw [UInt32.size]; omega),
      UInt32.toNat_ofNat_of_lt' (by rw [UInt32.size]; omega)] at hgate
    omega

theorem nodup_map_rule_commandsOf (h : lastTick.toNat + 2 < 2 ^ 32) :
    ((commandsOf settings keyframes lastTick).map Command.rule).Nodup := by
  rw [commandsOf, List.map_append, List.nodup_append]
  refine ⟨?_, nodup_map_rule_advances (by omega), ?_⟩
  · rw [map_rule_cameraCommands fun t sample hs => Settings.index_lt hs, List.Nodup,
      List.pairwise_map]
    refine (Timeline.pairwise_keys _).imp fun hlt => ?_
    intro heq
    exact UInt32.ne_of_lt hlt (UInt32.toNat_inj.1 (Nat.succ.inj (Rule.place.inj heq)))
  · intro rule hcamera rule' hadvance
    obtain ⟨command, hcommand, rfl⟩ := List.mem_map.1 hcamera
    obtain ⟨command', hcommand', rfl⟩ := List.mem_map.1 hadvance
    obtain ⟨tick, pose, ease, -, rfl⟩ := exists_eq_camera hcommand
    obtain ⟨value, -, -, rfl⟩ := mem_advances hcommand'
    intro heq
    cases heq

theorem nodup_commands (h : (compile settings counter keyframes).result = .ok script) :
    script.commands.Nodup := by
  obtain ⟨-, hlt, htexts⟩ := result_compile_eq_ok_iff.1 h
  exact Command.nodup_of_forall₂_text (Except.mapM_eq_ok_iff.1 htexts)
    (nodup_map_rule_commandsOf hlt)

end Script

/-- **Texts are unambiguous.** Whatever the template and the counter are, commands whose tick or
value has a successor have texts. Two camera commands have the same text where their tick, their
easing and the texts of the five numbers of their pose are the same and nowhere else, two advance
commands where their value is the same, and a camera command never has the text of an advance
command. So no line of a script occurs in it twice. -/
theorem Command.texts_unambiguous (template : Template) (counter : String) :
    (∀ (tick tick' : UInt32) (pose pose' : Pose) (ease ease' : Bool),
      tick.toNat < 2 ^ 32 - 1 → tick'.toNat < 2 ^ 32 - 1 →
      ∃ line line', (camera tick pose ease).text template counter = .ok line ∧
        (camera tick' pose' ease').text template counter = .ok line' ∧
        (line = line' ↔ tick = tick' ∧ ease = ease' ∧ pose.texts = pose'.texts)) ∧
    (∀ value value' : UInt32, value.toNat < 2 ^ 32 - 1 → value'.toNat < 2 ^ 32 - 1 →
      ∃ line line', (advance value).text template counter = .ok line ∧
        (advance value').text template counter = .ok line' ∧ (line = line' ↔ value = value')) ∧
    (∀ (tick value : UInt32) (pose : Pose) (ease : Bool),
      tick.toNat < 2 ^ 32 - 1 → value.toNat < 2 ^ 32 - 1 →
      ∃ line line', (camera tick pose ease).text template counter = .ok line ∧
        (advance value).text template counter = .ok line' ∧ line ≠ line') ∧
    ∀ (settings : Settings) (keyframes : List Keyframe) (script : Script),
      (Script.compile settings counter keyframes).result = .ok script → script.commands.Nodup := by
  have htext (command : Command) (h : command.word.toNat < 2 ^ 32 - 1) :
      ∃ line, command.text template counter = .ok line := exists_text_iff.2 (by omega)
  refine ⟨fun tick tick' pose pose' ease ease' h h' => ?_, fun value value' h h' => ?_,
    fun tick value pose ease h h' => ?_, fun _ _ _ h => Script.nodup_commands h⟩
  · obtain ⟨line, hline⟩ := htext (camera tick pose ease) h
    obtain ⟨line', hline'⟩ := htext (camera tick' pose' ease') h'
    exact ⟨line, line', hline, hline', camera_line_eq_iff hline hline'⟩
  · obtain ⟨line, hline⟩ := htext (advance value) h
    obtain ⟨line', hline'⟩ := htext (advance value') h'
    exact ⟨line, line', hline, hline', advance_line_eq_iff hline hline'⟩
  · obtain ⟨line, hline⟩ := htext (camera tick pose ease) h
    obtain ⟨line', hline'⟩ := htext (advance value) h'
    exact ⟨line, line', hline, hline', camera_line_ne_advance_line hline hline'⟩

/-- A template that holds what may stand behind it in a command. -/
def Template.misleading : Template where
  anchor := "@p positioned ~0.000000~0.000000~0.000000"
  anchorOffset := ""
  focusOffset := "~ rotated ~"
  easeFunction := "linear pos ^^^ rot 0.000000 0.000000"

/-- Six decimals do not tell all floats apart, but they do tell the sign of a zero. -/
theorem Command.texts_unambiguous_misleading :
    (∃ line,
      (camera 0 ⟨⟨0.1, 0, 0⟩, 0, 0⟩ true).text .misleading "s matches 1" = .ok line ∧
      (camera 0 ⟨⟨0.10000000001, 0, 0⟩, 0, 0⟩ true).text .misleading "s matches 1" = .ok line) ∧
    (∃ line line',
      (camera 0 ⟨⟨0.1, 0, 0⟩, 0, 0⟩ true).text .misleading "s matches 1" = .ok line ∧
      (camera 0 ⟨⟨0.1, 0, 0⟩, 0, -0.0⟩ true).text .misleading "s matches 1" = .ok line' ∧
      line ≠ line') ∧
    ∃ script, (Script.compile { template := .misleading } "s matches 1"
        [{ frame := 3 }, { frame := 0 }]).result = .ok script ∧ script.commands.Nodup := by
  obtain ⟨hcamera, -, -, hscript⟩ := texts_unambiguous .misleading "s matches 1"
  have hlast : (({ template := .misleading } : Settings).timeline
      [{ frame := 3 }, { frame := 0 }]).lastTick? = some 2 := by decide +kernel
  refine ⟨?_, ?_, ?_⟩
  · obtain ⟨line, line', hline, hline', hiff⟩ := hcamera 0 0 ⟨⟨0.1, 0, 0⟩, 0, 0⟩
      ⟨⟨0.10000000001, 0, 0⟩, 0, 0⟩ true true (by decide) (by decide)
    obtain rfl := hiff.2 ⟨rfl, rfl, by decide +kernel⟩
    exact ⟨line, hline, hline'⟩
  · obtain ⟨line, line', hline, hline', hiff⟩ := hcamera 0 0 ⟨⟨0.1, 0, 0⟩, 0, 0⟩
      ⟨⟨0.1, 0, 0⟩, 0, -0.0⟩ true true (by decide) (by decide)
    have hyaw : (⟨⟨0.1, 0, 0⟩, 0, 0⟩ : Pose).texts ≠ (⟨⟨0.1, 0, 0⟩, 0, -0.0⟩ : Pose).texts := by
      decide +kernel
    exact ⟨line, line', hline, hline', fun heq => hyaw (hiff.1 heq).2.2⟩
  · obtain ⟨script, h⟩ : ∃ script, (Script.compile { template := .misleading } "s matches 1"
        [{ frame := 3 }, { frame := 0 }]).result = .ok script :=
      Script.exists_result_compile hlast (by decide)
    exact ⟨script, h, hscript _ _ _ h⟩

end CameraScript
