import CameraScript.Proofs.CameraText
import CameraScript.Proofs.Compilation
import Mathlib.Data.List.Infix

/-!
# What a line does with a score

The runtime sees lines only. A line waits for one score of a player in a counter; behind that
condition it sets the score, or it goes from place to place and places the camera there.

* `Rule`: what is done with a score. `Command.rule`: what a command is there for.
* `Rule.ofLine`: the rule that is read in a line. Gate and target are the numbers that stand there.
* `Rule.ofLine_cameraText`, `Rule.ofLine_advanceText`: what is read in the texts of commands,
  whatever the counter is called and whatever the template holds.
* `Command.ofLine_of_text`: the text of a command renders the rule of the command.
* `Command.rule_eq_of_text_eq`: commands with the same text have the same rule.
-/

namespace CameraScript

/-- What is done with the score of a player while it has one value. -/
inductive Rule
  /-- The camera is placed while the score is `gate`, and the score is left alone. -/
  | place (gate : Nat)
  /-- The score is set to `target` while it is `gate`. -/
  | set (gate target : Nat)
  deriving DecidableEq, Repr

namespace Rule

/-- The score that a rule waits for. -/
def gate : Rule → Nat
  | place gate => gate
  | set gate _ => gate

/-! ## Reading a line -/

/-- The number that these digits are. -/
def number? (digits : List Char) : Option Nat :=
  if digits ≠ [] ∧ digits.all Char.isDigit then some (Nat.ofDigitChars 10 digits 0) else none

/-- What stands before the gate. -/
def condition (counter : String) : String :=
  "execute as @a if score @s " ++ counter ++ " matches "

/-- What stands between the gate and the target. -/
def assignment (counter : String) : String :=
  " run scoreboard players set @s " ++ counter ++ " "

/-- The text goes to some place and has the camera set there. -/
def SetsCamera (action : List Char) : Prop :=
  " positioned ".toList <+: action ∧ "run camera @s set ".toList <:+: action

instance : DecidablePred SetsCamera := fun action =>
  inferInstanceAs (Decidable (" positioned ".toList <+: action ∧
    "run camera @s set ".toList <:+: action))

/-- The rule of a line whose gate is read, by the text behind that. -/
def ofAction (counter : String) (gate : Nat) (action : List Char) : Option Rule :=
  match (assignment counter).toList.isPrefixOf? action with
  | some digits => (number? digits).map (.set gate)
  | none => if SetsCamera action then some (.place gate) else none

/-- The rule in a line of a script for this counter. The gate ends at the first blank. -/
def ofLine (counter line : String) : Option Rule :=
  match (condition counter).toList.isPrefixOf? line.toList with
  | some rest =>
    match number? (rest.takeWhile (· ≠ ' ')) with
    | some gate => ofAction counter gate (rest.dropWhile (· ≠ ' '))
    | none => none
  | none => none

variable {counter line : String}

theorem number?_toDigits (n : Nat) : number? (Nat.toDigits 10 n) = some n := by
  have hdigits : (Nat.toDigits 10 n).all Char.isDigit = true := by
    rw [List.all_eq_true]
    intro c hc
    exact Nat.isDigit_of_mem_toDigits (by decide) (by decide) hc
  rw [number?, if_pos ⟨Nat.toDigits_ne_nil, hdigits⟩, Nat.ofDigitChars_ten_toDigits]

theorem isPrefixOf?_append (xs ys : List Char) : xs.isPrefixOf? (xs ++ ys) = some ys :=
  List.isPrefixOf?_eq_some_iff_append_eq.2 rfl

/-- The blank behind the gate is the first one, as there is none in digits. -/
theorem ofLine_of_toList {gate : Nat} {action rest : List Char}
    (hline : line.toList = (condition counter).toList ++ (Nat.toDigits 10 gate ++ action))
    (haction : action = ' ' :: rest) : ofLine counter line = ofAction counter gate action := by
  have hdigits : ∀ c ∈ Nat.toDigits 10 gate, decide (c ≠ ' ') = true := by
    intro c hc
    rw [decide_eq_true_iff]
    rintro rfl
    exact absurd (Nat.isDigit_of_mem_toDigits (by decide) (by decide) hc) (by decide)
  have htake : (Nat.toDigits 10 gate ++ action).takeWhile (· ≠ ' ') = Nat.toDigits 10 gate := by
    rw [List.takeWhile_append_of_pos hdigits, haction]
    simp
  have hdrop : (Nat.toDigits 10 gate ++ action).dropWhile (· ≠ ' ') = action := by
    rw [List.dropWhile_append_of_pos hdigits, haction]
    simp
  rw [ofLine, hline, isPrefixOf?_append]
  simp only [htake, hdrop, number?_toDigits]

theorem ne_empty_of_ofLine {rule : Rule} (h : ofLine counter line = some rule) : line ≠ "" := by
  have hcondition : (condition counter).toList ≠ [] := by
    unfold condition
    simp only [String.toList_append, List.append_assoc]
    exact List.append_ne_nil_of_left_ne_nil (by decide) _
  rintro rfl
  unfold ofLine at h
  split at h
  · next rest hprefix =>
    have happend := List.isPrefixOf?_eq_some_iff_append_eq.1 hprefix
    exact hcondition (List.append_eq_nil_iff.1 happend).1
  · cases h

/-! ## The texts of commands -/

theorem exists_toList_assignment (counter : String) :
    ∃ rest, (assignment counter).toList = ' ' :: 'r' :: rest := by
  have hrun : " run scoreboard players set @s ".toList =
      ' ' :: 'r' :: "un scoreboard players set @s ".toList := by decide
  unfold assignment
  simp only [String.toList_append, hrun]
  exact ⟨_, rfl⟩

theorem ofLine_advanceText (counter : String) (value next : UInt32) :
    ofLine counter (advanceText counter value next) = some (.set value.toNat next.toNat) := by
  have hline : (advanceText counter value next).toList = (condition counter).toList ++
      (Nat.toDigits 10 value.toNat ++
        ((assignment counter).toList ++ Nat.toDigits 10 next.toNat)) := by
    unfold advanceText condition assignment
    simp only [String.toList_append, List.append_assoc, Nat.toList_repr]
  obtain ⟨rest, hrest⟩ := exists_toList_assignment counter
  have haction : (assignment counter).toList ++ Nat.toDigits 10 next.toNat =
      ' ' :: ('r' :: (rest ++ Nat.toDigits 10 next.toNat)) := by
    rw [hrest, List.cons_append, List.cons_append]
  rw [ofLine_of_toList hline haction, ofAction, isPrefixOf?_append]
  simp only [number?_toDigits, Option.map_some]

example : ofLine "villain"
    "execute as @a if score @s villain matches 1 run scoreboard players set @s villain 2" =
      some (.set 1 2) := by decide +kernel

/-- What goes on with `positioned` behind the gate is no assignment. -/
theorem ofAction_of_setsCamera {gate : Nat} {action : List Char} (h : SetsCamera action) :
    ofAction counter gate action = some (.place gate) := by
  have hassignment : (assignment counter).toList.isPrefixOf? action = none := by
    cases hprefix : (assignment counter).toList.isPrefixOf? action with
    | none => rfl
    | some digits =>
      have hpositioned : " positioned ".toList = ' ' :: 'p' :: "ositioned ".toList := by decide
      obtain ⟨rest, hrest⟩ := exists_toList_assignment counter
      obtain ⟨⟨rest', hrest'⟩, -⟩ := h
      have happend := List.isPrefixOf?_eq_some_iff_append_eq.1 hprefix
      rw [← hrest', hrest, hpositioned] at happend
      have hletter : 'r' = 'p' := (List.cons.inj (List.cons.inj happend).2).1
      exact absurd hletter (by decide)
  rw [ofAction, hassignment]
  exact if_pos h

theorem ofLine_cameraText (template : Template) (counter : String) (score : UInt32) (pose : Pose)
    (ease : Bool) :
    ofLine counter (template.cameraText counter score pose ease) = some (.place score.toNat) := by
  obtain ⟨rest, hline⟩ := template.toList_cameraText counter score pose ease
  rw [Template.pieces, weave, Nat.toList_repr] at hline
  rw [ofLine_of_toList hline rfl]
  refine ofAction_of_setsCamera ⟨?_, ?_⟩
  · have hblank : " positioned ".toList = ' ' :: "positioned ".toList := by decide
    have has : "positioned as ".toList = "positioned ".toList ++ "as ".toList := by decide
    unfold Template.placement
    simp only [hblank, Pose.texts, List.map_cons, weave, List.cons_prefix_cons, true_and,
      String.toList_append, List.append_assoc, has]
    exact List.prefix_append _ _
  · have hrun : "run camera @s set minecraft:free".toList =
        "run camera @s set ".toList ++ "minecraft:free".toList := by decide
    apply List.IsInfix.trans _ ((suffix_weave _ _ _).isInfix.trans (List.suffix_cons _ _).isInfix)
    rw [hrun, List.append_assoc]
    exact (List.prefix_append _ _).isInfix

end Rule

namespace Command

variable {template : Template} {counter line : String} {command command' : Command}

/-- What a command is there for. -/
def rule : Command → Rule
  | camera tick _ _ => .place (tick.toNat + 1)
  | advance value => .set value.toNat (value.toNat + 1)

/-- The score that a command waits for. -/
def gate (command : Command) : Nat := command.rule.gate

theorem rule_eq_place_iff {score : Nat} :
    command.rule = .place score ↔ command.isCamera = true ∧ command.gate = score := by
  cases command with
  | camera tick pose ease =>
    simp [rule, gate, Rule.gate]
  | advance value =>
    simp [rule]

/-- The text of a command renders the rule of the command. -/
theorem ofLine_of_text (h : command.text template counter = .ok line) :
    Rule.ofLine counter line = some command.rule := by
  cases command with
  | camera tick pose ease =>
    obtain ⟨score, hscore, rfl⟩ := text_camera_eq_ok_iff.1 h
    rw [Rule.ofLine_cameraText, rule, hscore]
  | advance value =>
    obtain ⟨next, hnext, rfl⟩ := text_advance_eq_ok_iff.1 h
    rw [Rule.ofLine_advanceText, rule, hnext]

theorem rule_eq_of_text_eq (h : command.text template counter = .ok line)
    (h' : command'.text template counter = .ok line) : command.rule = command'.rule := by
  have hrule := ofLine_of_text h
  rw [ofLine_of_text h'] at hrule
  exact (Option.some.inj hrule).symm

/-- Camera commands and advance commands have rules of two kinds. -/
theorem isCamera_eq_of_rule_eq (h : command.rule = command'.rule) :
    command.isCamera = command'.isCamera := by
  cases command with
  | camera tick pose ease =>
    cases command' with
    | camera tick' pose' ease' => rfl
    | advance value' => cases h
  | advance value =>
    cases command' with
    | camera tick' pose' ease' => cases h
    | advance value' => rfl

/-- What the text of a command determines, the texts of a list of commands determine for all of
them. -/
theorem map_eq_of_mapM_eq {α : Type} {f : Command → α}
    (hf : ∀ {command command' : Command} {text : String},
      command.text template counter = .ok text → command'.text template counter = .ok text →
      f command = f command')
    {commands commands' : List Command} {texts : List String}
    (h : commands.mapM (Command.text template counter) = .ok texts)
    (h' : commands'.mapM (Command.text template counter) = .ok texts) :
    commands.map f = commands'.map f := by
  rw [Except.mapM_eq_ok_iff] at h h'
  induction h generalizing commands' with
  | nil =>
    rw [List.forall₂_nil_right_iff.1 h']
  | cons htext _ ih =>
    obtain ⟨command', rest', htext', hrest', rfl⟩ := List.forall₂_cons_right_iff.1 h'
    rw [List.map_cons, List.map_cons, hf htext htext', ih hrest']

theorem map_rule_eq_of_mapM_eq {commands commands' : List Command} {texts : List String}
    (h : commands.mapM (Command.text template counter) = .ok texts)
    (h' : commands'.mapM (Command.text template counter) = .ok texts) :
    commands.map rule = commands'.map rule :=
  map_eq_of_mapM_eq rule_eq_of_text_eq h h'

end Command

theorem Script.map_rule_cameraCommands {transform : Transform} {keyframes : List Motion.Keyframe}
    {timeline : Timeline}
    (h : ∀ (t : UInt32) (sample : Sample), timeline[t]? = some sample →
      sample.index < keyframes.length) :
    (cameraCommands transform keyframes timeline).map Command.rule =
      timeline.keys.map fun tick => .place (tick.toNat + 1) := by
  have hforall : List.Forall₂ _ timeline.toList (cameraCommands transform keyframes timeline) :=
    forall₂_cameraCommands h
  rw [← Std.TreeMap.map_fst_toList_eq_keys]
  generalize timeline.toList = entries at hforall ⊢
  generalize cameraCommands transform keyframes timeline = commands at hforall ⊢
  induction hforall with
  | nil => rfl
  | cons hhead _ ih =>
    obtain ⟨_, rfl⟩ := hhead
    rw [List.map_cons, ih]
    rfl

end CameraScript
