import CameraScript.Proofs.CommandText
import CameraScript.Proofs.Overflow
import Mathlib.Data.Finset.Card

/-!
# The text of a script

The commands of a script stand on lines of its text. A command is on one line, because a number
never breaks one, and so the lines of the text are the commands.

* `OneLine`: a text without line breaks. `Template.Unbroken`: a template that brings none in.
* `Command.oneLine_of_text`: a command is on one line. `Command.ne_empty_of_text`: the line is not
  empty.
* `exists_getLast?_intercalate`: lines that are not empty end in no line break.
* `Script.split_text`: the lines of the text, and how many there are.
-/

namespace CameraScript

open Motion Numeric

/-! ## Texts on one line -/

def OneLine (text : String) : Prop := '\n' ∉ text.toList

instance : DecidablePred OneLine := fun text =>
  inferInstanceAs (Decidable ('\n' ∉ text.toList))

@[simp] theorem oneLine_append {s t : String} : OneLine (s ++ t) ↔ OneLine s ∧ OneLine t := by
  rw [OneLine, String.toList_append, List.mem_append, not_or, OneLine, OneLine]

theorem oneLine_of_isNumeric {text : String} (h : IsNumeric text) : OneLine text := by
  intro hmem
  exact absurd (h _ hmem) (by decide)

@[simp] theorem oneLine_repr (n : Nat) : OneLine n.repr :=
  oneLine_of_isNumeric (isNumeric_repr n)

@[simp] theorem oneLine_fixed (x : Float) : OneLine (Fixed.text x) :=
  oneLine_of_isNumeric fun _ hc => Fixed.isNumeral_of_mem_text hc

@[simp] theorem oneLine_shortest (x : Float) : OneLine (Shortest.text x) :=
  oneLine_of_isNumeric fun _ hc => Shortest.isNumeral_of_mem_text hc

/-! ## Commands on one line -/

/-- The template brings no line breaks into a command. -/
structure Template.Unbroken (template : Template) : Prop where
  anchor : OneLine template.anchor
  anchorOffset : OneLine template.anchorOffset
  focusOffset : OneLine template.focusOffset
  easeFunction : OneLine template.easeFunction

section Commands

variable {template : Template} {counter : String}

theorem Template.Unbroken.easeText (h : template.Unbroken) (ease : Bool) :
    OneLine (template.easeText ease) := by
  unfold Template.easeText
  cases ease with
  | false => simp [OneLine]
  | true =>
    simp only [if_pos, oneLine_append, oneLine_shortest, h.easeFunction, and_true]
    decide

theorem Template.Unbroken.cameraText (h : template.Unbroken) (hcounter : OneLine counter)
    (score : UInt32) (pose : Pose) (ease : Bool) :
    OneLine (template.cameraText counter score pose ease) := by
  unfold Template.cameraText
  simp only [oneLine_append, oneLine_repr, oneLine_fixed, hcounter, h.anchor, h.anchorOffset,
    h.focusOffset, h.easeText, and_true]
  decide

theorem oneLine_advanceText (hcounter : OneLine counter) (value next : UInt32) :
    OneLine (advanceText counter value next) := by
  unfold advanceText
  simp only [oneLine_append, oneLine_repr, hcounter, and_true]
  decide

namespace Command

variable {command : Command} {line : String}

theorem oneLine_of_text (h : template.Unbroken) (hcounter : OneLine counter)
    (htext : command.text template counter = .ok line) : OneLine line := by
  cases command with
  | camera tick pose ease =>
    obtain ⟨score, -, rfl⟩ := text_camera_eq_ok_iff.1 htext
    exact h.cameraText hcounter score pose ease
  | advance value =>
    obtain ⟨next, -, rfl⟩ := text_advance_eq_ok_iff.1 htext
    exact oneLine_advanceText hcounter value next

theorem ne_empty_of_text (htext : command.text template counter = .ok line) : line ≠ "" :=
  Rule.ne_empty_of_ofLine (ofLine_of_text htext)

end Command

end Commands

/-! ## Joined lines -/

/-- A text that is joined from lines goes on to the end of the last one. -/
theorem exists_getLast?_intercalate {lines : List String} (hne : lines ≠ [])
    (hlines : ∀ line ∈ lines, OneLine line ∧ line ≠ "") :
    ∃ c, c ≠ '\n' ∧ ("\n".intercalate lines).toList.getLast? = some c := by
  rw [String.toList_intercalate]
  induction lines with
  | nil => exact absurd rfl hne
  | cons line lines ih =>
    rw [List.forall_mem_cons] at hlines
    cases lines with
    | nil =>
      have hchars : line.toList ≠ [] := fun h => hlines.1.2 (String.toList_eq_nil_iff.1 h)
      refine ⟨line.toList.getLast hchars, ?_, ?_⟩
      · intro h
        exact hlines.1.1 (h ▸ List.getLast_mem hchars)
      · rw [List.map_singleton, List.intercalate_singleton, List.getLast?_eq_getLast_of_ne_nil]
    | cons next lines =>
      obtain ⟨c, hc, hlast⟩ := ih (List.cons_ne_nil _ _) hlines.2
      refine ⟨c, hc, ?_⟩
      rw [List.map_cons] at hlast
      rw [List.map_cons, List.map_cons, List.intercalate_cons_cons, List.getLast?_append, hlast]
      rfl

/-! ## Scripts -/

namespace Script

variable {settings : Settings} {counter : String} {keyframes : List Keyframe} {script : Script}

theorem length_commands (h : (compile settings counter keyframes).result = .ok script) :
    script.commands.length =
      (keyframes.map fun keyframe => settings.timebase.tick keyframe.frame).toFinset.card
        + script.lastTick.toNat + 1 := by
  have hticks : (settings.timeline keyframes).keys.toFinset =
      (keyframes.map fun keyframe => settings.timebase.tick keyframe.frame).toFinset := by
    ext tick
    rw [List.mem_toFinset, List.mem_toFinset, Settings.mem_keys_timeline_iff, List.mem_map]
  have hnodup : (settings.timeline keyframes).keys.Nodup :=
    (Timeline.pairwise_keys _).imp UInt32.ne_of_lt
  obtain ⟨-, -, htexts⟩ := result_compile_eq_ok_iff.1 h
  rw [← (Except.mapM_eq_ok_iff.1 htexts).length_eq, length_commandsOf, ← hticks,
    List.toFinset_card_of_nodup hnodup]

theorem exists_text_of_mem_commands (h : (compile settings counter keyframes).result = .ok script)
    {line : String} (hline : line ∈ script.commands) :
    ∃ command : Command, command.text settings.template counter = .ok line := by
  obtain ⟨-, -, htexts⟩ := result_compile_eq_ok_iff.1 h
  obtain ⟨i, hi⟩ := List.mem_iff_getElem?.1 hline
  obtain ⟨command, -, htext⟩ :=
    exists_getElem?_of_forall₂ (Except.mapM_eq_ok_iff.1 htexts).flip hi
  exact ⟨command, htext⟩

/-- **The lines of the text of a script.** Unless the counter or the template bring in line
breaks, the text of a script has its commands as its lines, one for each tick that a keyframe is
on and one for each value up to the one above the last tick. It is not empty and ends in no line
break. -/
theorem split_text (h : (compile settings counter keyframes).result = .ok script)
    (hcounter : '\n' ∉ counter.toList) (hanchor : '\n' ∉ settings.template.anchor.toList)
    (hanchorOffset : '\n' ∉ settings.template.anchorOffset.toList)
    (hfocusOffset : '\n' ∉ settings.template.focusOffset.toList)
    (heaseFunction : '\n' ∉ settings.template.easeFunction.toList) :
    (script.text.split '\n').toList.map (·.copy) = script.commands ∧
      (script.text.split '\n').toList.length =
        (keyframes.map fun keyframe => settings.timebase.tick keyframe.frame).toFinset.card
          + script.lastTick.toNat + 1 ∧
      script.text ≠ "" ∧ script.text.toList.getLast? ≠ some '\n' := by
  have hlines : ∀ line ∈ script.commands, OneLine line ∧ line ≠ "" := by
    intro line hline
    obtain ⟨command, htext⟩ := exists_text_of_mem_commands h hline
    exact ⟨Command.oneLine_of_text ⟨hanchor, hanchorOffset, hfocusOffset, heaseFunction⟩ hcounter
      htext, Command.ne_empty_of_text htext⟩
  have hlength := length_commands h
  have hne : script.commands ≠ [] := List.ne_nil_of_length_eq_add_one hlength
  have hsplit : (script.text.split '\n').toList.map (·.copy) = script.commands := by
    have hjoined := String.toList_split_intercalate fun line hline => (hlines line hline).1
    rwa [if_neg hne] at hjoined
  obtain ⟨c, hc, hlast⟩ := exists_getLast?_intercalate hne hlines
  refine ⟨hsplit, ?_, ?_, ?_⟩
  · rw [← hlength, ← hsplit, List.length_map]
  · intro hempty
    rw [← text, hempty] at hlast
    cases hlast
  · rw [text, hlast]
    exact fun heq => hc (Option.some.inj heq)

/-- Easing that never ends, and two keyframes on one tick with coordinates and angles that are not
finite or as great as can be. -/
theorem split_text_not_finite :
    ∃ script, (compile { template := { easeDuration := 1 / 0 } } "score of\tthe show"
        [{ frame := 3, rotation := ⟨⟨0x7FC00000⟩, .zero, .zero⟩ },
          { frame := 4, location := ⟨⟨0x7F800000⟩, ⟨0xFF7FFFFF⟩, .zero⟩ },
          { frame := 2, location := ⟨⟨0x7F7FFFFF⟩, .zero, .zero⟩ }]).result = .ok script ∧
      script.lastTick = 2 ∧
      (script.text.split '\n').toList.map (·.copy) = script.commands ∧
      (script.text.split '\n').toList.length = 5 ∧
      script.text ≠ "" ∧ script.text.toList.getLast? ≠ some '\n' := by
  obtain ⟨script, h⟩ : ∃ script, (compile { template := { easeDuration := 1 / 0 } }
      "score of\tthe show"
      [{ frame := 3, rotation := ⟨⟨0x7FC00000⟩, .zero, .zero⟩ },
        { frame := 4, location := ⟨⟨0x7F800000⟩, ⟨0xFF7FFFFF⟩, .zero⟩ },
        { frame := 2, location := ⟨⟨0x7F7FFFFF⟩, .zero, .zero⟩ }]).result = .ok script :=
    exists_result_compile (show _ = some 2 by decide +kernel) (by decide)
  obtain ⟨hlast, -, -⟩ := result_compile_eq_ok_iff.1 h
  have htick : script.lastTick = 2 := by
    refine Option.some.inj (hlast.symm.trans ?_)
    decide +kernel
  obtain ⟨hsplit, hlength, hne, hend⟩ :=
    split_text h (by decide) (by decide) (by decide) (by decide) (by decide)
  rw [htick] at hlength
  exact ⟨script, h, htick, hsplit, hlength.trans (by decide +kernel), hne, hend⟩

end Script

end CameraScript
