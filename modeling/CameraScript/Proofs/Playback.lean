import CameraScript.Proofs.Rule

/-!
# Playing a script

A player has a score. A script is run once per tick, and one run takes its lines in order and does
what is read in them.

* `Playback.run`: one run, by the rules that the entries of a script have. For lines these are read
  by `Rule.ofLine`, for commands they are given by `Command.rule`.
* `Playback.InStep`: a player who is moved by lines and one who is moved by the commands that the
  lines are the texts of. `Playback.InStep.step` and `Playback.InStep.run` keep them in step.
* `Playback.run_cameras`, `Playback.run_advances`: what the two parts of a list of commands do,
  from `Playback.step_of_isCamera` and `Playback.step_advance`.
* `Arranged`: camera commands by increasing tick, none behind the last tick.
* `Arranged.run_eq`, `Arranged.runs_eq`: one run, and any number of runs from the start.
* `Script.playback_of_compile`: the same for the lines of a compiled script.
-/

namespace CameraScript

open Motion

/-! ## Runs -/

/-- A player, and what has fired for it so far. -/
structure Playback (α : Type) where
  score : Int
  fired : List α

namespace Playback

section Runs

variable {α β : Type}

/-- Does what the rule of one entry of a script says. An entry without a rule is passed over. -/
def step (rule? : α → Option Rule) (player : Playback α) (entry : α) : Playback α :=
  match rule? entry with
  | some (.place gate) =>
    if player.score = gate then { player with fired := player.fired ++ [entry] } else player
  | some (.set gate target) =>
    if player.score = gate then { player with score := target } else player
  | none => player

def run (rule? : α → Option Rule) (entries : List α) (player : Playback α) : Playback α :=
  entries.foldl (step rule?) player

/-- So many runs, one after the other. -/
def runs (rule? : α → Option Rule) (entries : List α) : (count : Nat) → Playback α → Playback α
  | 0, player => player
  | count + 1, player => run rule? entries (runs rule? entries count player)

/-- A player with this score for whom nothing has fired. -/
def start (score : Int) : Playback α := ⟨score, []⟩

variable {rule? : α → Option Rule}

theorem run_cons (entry : α) (entries : List α) (player : Playback α) :
    run rule? (entry :: entries) player = run rule? entries (step rule? player entry) := rfl

theorem run_append (entries entries' : List α) (player : Playback α) :
    run rule? (entries ++ entries') player = run rule? entries' (run rule? entries player) :=
  List.foldl_append

/-- Two players have the same score, and what has fired for them corresponds. -/
structure InStep (R : α → β → Prop) (player : Playback α) (player' : Playback β) : Prop where
  score_eq : player.score = player'.score
  fired : List.Forall₂ R player.fired player'.fired

namespace InStep

variable {R : α → β → Prop} {rule?' : β → Option Rule} {player : Playback α}
  {player' : Playback β}

protected theorem start (R : α → β → Prop) (score : Int) :
    InStep R (Playback.start score) (Playback.start score) := ⟨rfl, .nil⟩

protected theorem step {entry : α} {entry' : β} (h : InStep R player player')
    (hentry : R entry entry') (hrule : rule? entry = rule?' entry') :
    InStep R (step rule? player entry) (step rule?' player' entry') := by
  unfold Playback.step
  rw [hrule, h.score_eq]
  cases rule?' entry' with
  | none => exact h
  | some rule =>
    cases rule with
    | place gate =>
      dsimp only
      split
      · exact ⟨rfl, List.rel_append h.fired (.cons hentry .nil)⟩
      · exact h
    | set gate target =>
      dsimp only
      split
      · exact ⟨rfl, h.fired⟩
      · exact h

protected theorem run {entries : List α} {entries' : List β}
    (hrule : ∀ entry entry', R entry entry' → rule? entry = rule?' entry')
    (hentries : List.Forall₂ R entries entries') (h : InStep R player player') :
    InStep R (run rule? entries player) (run rule?' entries' player') := by
  induction hentries generalizing player player' with
  | nil => exact h
  | cons hentry _ ih =>
    rw [run_cons, run_cons]
    exact ih (h.step hentry (hrule _ _ hentry))

protected theorem runs {entries : List α} {entries' : List β}
    (hrule : ∀ entry entry', R entry entry' → rule? entry = rule?' entry')
    (hentries : List.Forall₂ R entries entries') (h : InStep R player player') (count : Nat) :
    InStep R (runs rule? entries count player) (runs rule?' entries' count player') := by
  induction count with
  | zero => exact h
  | succ count ih => exact ih.run hrule hentries

end InStep

end Runs

end Playback

/-! ## Runs of commands -/

/-- Whether a camera command fires at a score. -/
def Command.firesAt (score : Int) (command : Command) : Bool :=
  command.isCamera && decide (score = command.gate)

/-- Every command has a rule. -/
def Command.rule? (command : Command) : Option Rule := some command.rule

namespace Playback

theorem step_of_isCamera {command : Command} (h : command.isCamera = true) (score : Int)
    (fired : List Command) :
    step Command.rule? ⟨score, fired⟩ command =
      ⟨score, fired ++ [command].filter (·.firesAt score)⟩ := by
  cases command with
  | advance value => cases h
  | camera tick pose ease =>
    by_cases hscore : score = (Command.camera tick pose ease).gate
    · have hfires : (Command.camera tick pose ease).firesAt score = true := by
        simp [Command.firesAt, hscore]
      rw [List.filter_cons_of_pos hfires, List.filter_nil]
      exact if_pos hscore
    · have hfires : ¬ (Command.camera tick pose ease).firesAt score = true := by
        simp [Command.firesAt, hscore]
      rw [List.filter_cons_of_neg hfires, List.filter_nil, List.append_nil]
      exact if_neg hscore

theorem step_advance (value : UInt32) (score : Int) (fired : List Command) :
    step Command.rule? ⟨score, fired⟩ (.advance value) =
      ⟨if score = value.toNat then score + 1 else score, fired⟩ := by
  by_cases hscore : score = value.toNat
  · rw [if_pos hscore, hscore]
    exact if_pos rfl
  · rw [if_neg hscore]
    exact if_neg hscore

/-- Camera commands leave the score alone. -/
theorem run_cameras {cameras : List Command} (h : ∀ command ∈ cameras, command.isCamera = true)
    (score : Int) (fired : List Command) :
    run Command.rule? cameras ⟨score, fired⟩ = ⟨score, fired ++ cameras.filter (·.firesAt score)⟩ := by
  induction cameras generalizing fired with
  | nil => rw [List.filter_nil, List.append_nil, run, List.foldl_nil]
  | cons command cameras ih =>
    have hrest := ih fun command hcommand => h command (List.mem_cons_of_mem _ hcommand)
    rw [run_cons, step_of_isCamera (h command List.mem_cons_self), hrest, List.append_assoc,
      ← List.filter_append, List.singleton_append]

/-- The counting block fires nothing and raises the score at most once. -/
theorem run_advances {count : Nat} (hcount : count < 2 ^ 32) (score : Int)
    (fired : List Command) :
    run Command.rule? (Script.advances count) ⟨score, fired⟩ =
      ⟨if 1 ≤ score ∧ score ≤ count then score + 1 else score, fired⟩ := by
  induction count generalizing score with
  | zero =>
    rw [if_neg (by omega)]
    rfl
  | succ count ih =>
    have hvalue : (UInt32.ofNat (count + 1)).toNat = count + 1 :=
      UInt32.toNat_ofNat_of_lt' hcount
    rw [Script.advances, run_cons, step_advance, hvalue, ih (by omega)]
    -- A score that was just raised is above all values that are still to come.
    by_cases hscore : score = (count + 1 : Nat)
    · rw [if_pos hscore, if_neg (by omega), if_pos (by omega)]
    · rw [if_neg hscore]
      by_cases hbelow : 1 ≤ score ∧ score ≤ count
      · rw [if_pos hbelow, if_pos (by omega)]
      · rw [if_neg hbelow, if_neg (by omega)]

end Playback

/-! ## Arranged commands -/

/-- Camera commands for these ticks, which increase up to `lastTick`. The counting block that
belongs to them counts up to a word. -/
structure Arranged (cameras : List Command) (ticks : List UInt32) (lastTick : UInt32) : Prop where
  map_rule : cameras.map Command.rule = ticks.map fun tick => .place (tick.toNat + 1)
  increasing : ticks.Pairwise (· < ·)
  le_lastTick : ∀ tick ∈ ticks, tick ≤ lastTick
  lastTick_lt : lastTick.toNat + 2 < 2 ^ 32

/-- Filtering a list with increasing keys twice, up to a bound and right behind it. -/
theorem filter_append_filter {α : Type} {key : α → Nat} {xs : List α}
    (h : xs.Pairwise fun x y => key x < key y) (bound : Nat) :
    xs.filter (fun x => key x ≤ bound) ++ xs.filter (fun x => key x = bound + 1) =
      xs.filter fun x => key x ≤ bound + 1 := by
  induction xs with
  | nil => rfl
  | cons x xs ih =>
    obtain ⟨hx, hxs⟩ := List.pairwise_cons.1 h
    have hrest := ih hxs
    by_cases hle : key x ≤ bound
    · have hsucc : key x ≤ bound + 1 := by omega
      have hne : key x ≠ bound + 1 := by omega
      rw [List.filter_cons_of_pos (by simp [hle]), List.filter_cons_of_neg (by simp [hne]),
        List.filter_cons_of_pos (by simp [hsucc]), List.cons_append, hrest]
    · have hnone : xs.filter (fun y => key y ≤ bound) = [] := by
        rw [List.filter_eq_nil_iff]
        intro y hy
        have := hx y hy
        rw [decide_eq_true_iff]
        omega
      rw [hnone, List.nil_append] at hrest
      rw [List.filter_cons_of_neg (by simp [hle]), hnone, List.nil_append]
      by_cases heq : key x = bound + 1
      · rw [List.filter_cons_of_pos (by simp [heq]), List.filter_cons_of_pos (by simp [heq]),
          hrest]
      · have hsucc : ¬ key x ≤ bound + 1 := by omega
        rw [List.filter_cons_of_neg (by simp [heq]), List.filter_cons_of_neg (by simp [hsucc]),
          hrest]

namespace Arranged

variable {cameras : List Command} {ticks : List UInt32} {lastTick : UInt32} {command : Command}

theorem exists_tick (h : Arranged cameras ticks lastTick) (hcommand : command ∈ cameras) :
    ∃ tick ∈ ticks, command.isCamera = true ∧ command.gate = tick.toNat + 1 := by
  have hrule : command.rule ∈ cameras.map Command.rule := List.mem_map_of_mem hcommand
  rw [h.map_rule] at hrule
  obtain ⟨tick, htick, heq⟩ := List.mem_map.1 hrule
  exact ⟨tick, htick, Command.rule_eq_place_iff.1 heq.symm⟩

theorem isCamera (h : Arranged cameras ticks lastTick) :
    ∀ command ∈ cameras, command.isCamera = true := by
  intro command hcommand
  obtain ⟨tick, -, hcamera, -⟩ := h.exists_tick hcommand
  exact hcamera

theorem gate_le (h : Arranged cameras ticks lastTick) (hcommand : command ∈ cameras) :
    command.gate ≤ lastTick.toNat + 1 := by
  obtain ⟨tick, htick, -, hgate⟩ := h.exists_tick hcommand
  have hle := UInt32.le_iff_toNat_le.1 (h.le_lastTick tick htick)
  omega

theorem pairwise_gate (h : Arranged cameras ticks lastTick) :
    cameras.Pairwise fun command command' => command.gate < command'.gate := by
  have hrules : (cameras.map Command.rule).Pairwise fun rule rule' => rule.gate < rule'.gate := by
    rw [h.map_rule, List.pairwise_map]
    refine h.increasing.imp fun hlt => ?_
    exact Nat.succ_lt_succ (UInt32.lt_iff_toNat_lt.1 hlt)
  rw [List.pairwise_map] at hrules
  exact hrules

/-- One run. -/
theorem run_eq (h : Arranged cameras ticks lastTick) (score : Int) (fired : List Command) :
    Playback.run Command.rule? (cameras ++ Script.advances (lastTick.toNat + 1))
        ⟨score, fired⟩ =
      ⟨if 1 ≤ score ∧ score ≤ lastTick.toNat + 1 then score + 1 else score,
        fired ++ cameras.filter (·.firesAt score)⟩ := by
  have hlt := h.lastTick_lt
  rw [Playback.run_append, Playback.run_cameras h.isCamera, Playback.run_advances (by omega)]
  push_cast
  rfl

theorem filter_firesAt (h : Arranged cameras ticks lastTick) (score : Nat) :
    cameras.filter (·.firesAt score) = cameras.filter fun command => command.gate = score := by
  apply List.filter_congr
  intro command hcommand
  rw [Command.firesAt, h.isCamera command hcommand, Bool.true_and]
  simp only [Int.natCast_inj, eq_comm]

/-- Any number of runs from the start. -/
theorem runs_eq (h : Arranged cameras ticks lastTick) (count : Nat) :
    Playback.runs Command.rule? (cameras ++ Script.advances (lastTick.toNat + 1)) count
        (.start 1) =
      ⟨((min (1 + count) (lastTick.toNat + 2) : Nat) : Int),
        cameras.filter fun command => command.gate ≤ count⟩ := by
  induction count with
  | zero =>
    have hnone : cameras.filter (fun command => command.gate ≤ 0) = [] := by
      rw [List.filter_eq_nil_iff]
      intro command hcommand
      obtain ⟨tick, -, -, hgate⟩ := h.exists_tick hcommand
      rw [hgate, decide_eq_true_iff]
      omega
    rw [Playback.runs, Playback.start, hnone, Nat.min_eq_left (by omega)]
    rfl
  | succ count ih =>
    -- Behind the last tick the score waits for no camera, as no gate is beyond `count` either.
    have hfires :
        cameras.filter (fun command => command.gate = min (1 + count) (lastTick.toNat + 2)) =
          cameras.filter fun command => command.gate = count + 1 := by
      apply List.filter_congr
      intro command hcommand
      have hle := h.gate_le hcommand
      rw [decide_eq_decide]
      omega
    rw [Playback.runs, ih, h.run_eq, h.filter_firesAt, hfires,
      filter_append_filter h.pairwise_gate]
    congr 1
    split
    · omega
    · omega

theorem filter_gate_eq_singleton (h : Arranged cameras ticks lastTick)
    (hcommand : command ∈ cameras) :
    cameras.filter (fun other => other.gate = command.gate) = [command] := by
  obtain ⟨before, behind, hsplit⟩ := List.append_of_mem hcommand
  have hpairwise := h.pairwise_gate
  rw [hsplit, List.pairwise_append, List.pairwise_cons] at hpairwise
  obtain ⟨-, ⟨hbehind, -⟩, hbefore⟩ := hpairwise
  have hnone : before.filter (fun other => other.gate = command.gate) = [] := by
    rw [List.filter_eq_nil_iff]
    intro other hother
    have hlt := hbefore other hother command List.mem_cons_self
    simp [Nat.ne_of_lt hlt]
  have hnone' : behind.filter (fun other => other.gate = command.gate) = [] := by
    rw [List.filter_eq_nil_iff]
    intro other hother
    have hlt := hbehind other hother
    simp [Nat.ne_of_gt hlt]
  rw [hsplit, List.filter_append, hnone, List.nil_append, List.filter_cons_of_pos (by simp),
    hnone']

theorem filter_firesAt_eq_singleton (h : Arranged cameras ticks lastTick)
    (hcommand : command ∈ cameras) :
    cameras.filter (·.firesAt command.gate) = [command] := by
  rw [h.filter_firesAt, h.filter_gate_eq_singleton hcommand]

theorem filter_firesAt_eq_nil (h : Arranged cameras ticks lastTick) {score : Int}
    (hscore : ∀ command ∈ cameras, score ≠ command.gate) :
    cameras.filter (·.firesAt score) = [] := by
  rw [List.filter_eq_nil_iff]
  intro command hcommand hfires
  rw [Command.firesAt, h.isCamera command hcommand, Bool.true_and, decide_eq_true_iff] at hfires
  exact hscore command hcommand hfires

/-- When the last tick has been played, everything has. -/
theorem filter_gate_eq_filter_isCamera (h : Arranged cameras ticks lastTick) {count : Nat}
    (hcount : lastTick.toNat + 1 ≤ count) :
    cameras.filter (fun command => command.gate ≤ count) = cameras.filter Command.isCamera := by
  apply List.filter_congr
  intro command hcommand
  have hle := h.gate_le hcommand
  rw [h.isCamera command hcommand, decide_eq_true (by omega)]

theorem filterMap_tick? (h : Arranged cameras ticks lastTick) :
    cameras.filterMap Command.tick? = ticks := by
  have hrule := h.map_rule
  clear h
  induction cameras generalizing ticks with
  | nil => rw [List.map_eq_nil_iff.1 hrule.symm, List.filterMap_nil]
  | cons command cameras ih =>
    obtain ⟨tick, rest, rfl, hhead, hrest⟩ := List.map_eq_cons_iff.1 hrule.symm
    cases command with
    | camera tick' pose ease =>
      have htick : tick = tick' := UInt32.toNat_inj.1 (Nat.succ.inj (Rule.place.inj hhead))
      rw [List.filterMap_cons_some (b := tick) (by rw [htick, Command.tick?]), ih hrest.symm]
    | advance value => cases hhead

end Arranged

namespace Script

/-! ## Compiled scripts -/

theorem mem_cameras_of_mem {cameras : List Command} {count : Nat} {tick : UInt32} {pose : Pose}
    {ease : Bool} (h : .camera tick pose ease ∈ cameras ++ advances count) :
    .camera tick pose ease ∈ cameras := by
  rcases List.mem_append.1 h with h | h
  · exact h
  · obtain ⟨value, -, -, heq⟩ := mem_advances h
    cases heq

theorem filter_isCamera_advances (count : Nat) :
    (advances count).filter Command.isCamera = [] := by
  rw [List.filter_eq_nil_iff]
  intro command hcommand
  obtain ⟨value, -, -, rfl⟩ := mem_advances hcommand
  simp

theorem filterMap_tick?_advances (count : Nat) :
    (advances count).filterMap Command.tick? = [] := by
  rw [List.filterMap_eq_nil_iff]
  intro command hcommand
  obtain ⟨value, -, -, rfl⟩ := mem_advances hcommand
  rfl

theorem eq_advances_of_map_rule_eq {commands : List Command} {count : Nat}
    (h : commands.map Command.rule = (advances count).map Command.rule) :
    commands = advances count := by
  induction count generalizing commands with
  | zero => exact List.map_eq_nil_iff.1 h
  | succ count ih =>
    obtain ⟨command, rest, rfl, hhead, hrest⟩ := List.map_eq_cons_iff.1 h
    rw [ih hrest, advances]
    cases command with
    | camera tick pose ease => cases hhead
    | advance value => rw [UInt32.toNat_inj.1 (Rule.set.inj hhead).1]

variable {settings : Settings} {counter : String} {keyframes : List Keyframe} {script : Script}
  {commands : List Command}

/-- Whatever commands the lines of a compiled script are the texts of, they are arranged. -/
theorem exists_arranged (h : (compile settings counter keyframes).result = .ok script)
    (hread : commands.mapM (Command.text settings.template counter) = .ok script.commands) :
    ∃ cameras, commands = cameras ++ advances (script.lastTick.toNat + 1) ∧
      Arranged cameras (settings.timeline keyframes).keys script.lastTick := by
  obtain ⟨hlast, hlt, htexts⟩ := result_compile_eq_ok_iff.1 h
  have hrules := Command.map_rule_eq_of_mapM_eq hread htexts
  rw [commandsOf, List.map_append] at hrules
  obtain ⟨cameras, rest, rfl, hcameras, hrest⟩ := List.map_eq_append_iff.1 hrules
  refine ⟨cameras, by rw [eq_advances_of_map_rule_eq hrest], ?_, ?_, ?_, hlt⟩
  · rw [hcameras]
    exact map_rule_cameraCommands fun t sample hs => Settings.index_lt hs
  · exact Timeline.pairwise_keys _
  · intro tick htick
    exact (Timeline.lastTick?_eq_some_iff.1 hlast).2 (Std.TreeMap.mem_keys.1 htick)

/-- The run of the lines of a script and that of the commands they are the texts of are in step. -/
theorem inStep_runs {lines : List String}
    (h : commands.mapM (Command.text settings.template counter) = .ok lines) (score : Int)
    (count : Nat) :
    Playback.InStep (fun command line => command.text settings.template counter = .ok line)
      (Playback.runs Command.rule? commands count (.start score))
      (Playback.runs (Rule.ofLine counter) lines count (.start score)) := by
  have hrule : ∀ (command : Command) (line : String),
      command.text settings.template counter = .ok line →
      command.rule? = Rule.ofLine counter line :=
    fun command line htext => (Command.ofLine_of_text htext).symm
  exact (Playback.InStep.start _ score).runs hrule (Except.mapM_eq_ok_iff.1 h) count

/-- **A script plays every tick once and counts by one.** The line of a camera command waits for
the score above its tick and places the camera; the line of an advance command waits for its value
and sets the score to the next one. The lines of a compiled script are the texts of some commands,
and whatever commands they are the texts of, a player who is moved by the lines alone sees this:

* One run fires the line of the camera command of the tick below the score, if there is one, and
  raises the score by one as long as it is not behind `lastTick + 1`.
* From the start the score counts the runs up to `lastTick + 2`, and when it has come there
  the line of every camera command has fired once, by increasing tick. -/
theorem playback_of_compile (h : (compile settings counter keyframes).result = .ok script) :
    (∀ tick pose ease line,
      (Command.camera tick pose ease).text settings.template counter = .ok line →
      Rule.ofLine counter line = some (.place (tick.toNat + 1))) ∧
    (∀ value line, (Command.advance value).text settings.template counter = .ok line →
      Rule.ofLine counter line = some (.set value.toNat (value.toNat + 1))) ∧
    (∃ commands : List Command,
      commands.mapM (Command.text settings.template counter) = .ok script.commands) ∧
    ∀ commands : List Command,
      commands.mapM (Command.text settings.template counter) = .ok script.commands →
      (∀ score : Int,
        (Playback.run (Rule.ofLine counter) script.commands (.start score)).score =
          (if 1 ≤ score ∧ score ≤ script.lastTick.toNat + 1 then score + 1 else score) ∧
        (∀ tick pose ease line, .camera tick pose ease ∈ commands →
          (Command.camera tick pose ease).text settings.template counter = .ok line →
          score = tick.toNat + 1 →
          (Playback.run (Rule.ofLine counter) script.commands (.start score)).fired = [line]) ∧
        ((∀ tick pose ease, .camera tick pose ease ∈ commands → score ≠ tick.toNat + 1) →
          (Playback.run (Rule.ofLine counter) script.commands (.start score)).fired = [])) ∧
      (∀ count : Nat,
        (Playback.runs (Rule.ofLine counter) script.commands count (.start 1)).score =
          min (1 + (count : Int)) (script.lastTick.toNat + 2)) ∧
      (∀ count : Nat, script.lastTick.toNat + 1 ≤ count →
        (commands.filter Command.isCamera).mapM (Command.text settings.template counter) =
          .ok (Playback.runs (Rule.ofLine counter) script.commands count (.start 1)).fired) ∧
      commands.filterMap Command.tick? = (settings.timeline keyframes).keys ∧
      (commands.filterMap Command.tick?).Pairwise (· < ·) := by
  refine ⟨fun tick pose ease line => Command.ofLine_of_text,
    fun value line => Command.ofLine_of_text, ⟨_, (result_compile_eq_ok_iff.1 h).2.2⟩,
    fun commands hread => ?_⟩
  have hruns (score : Int) (count : Nat) := inStep_runs hread score count
  obtain ⟨cameras, rfl, harranged⟩ := exists_arranged h hread
  have hticks : (cameras ++ advances (script.lastTick.toNat + 1)).filterMap Command.tick? =
      (settings.timeline keyframes).keys := by
    rw [List.filterMap_append, filterMap_tick?_advances, List.append_nil,
      harranged.filterMap_tick?]
  refine ⟨fun score => ?_, fun count => ?_, fun count hcount => ?_, hticks, ?_⟩
  · have hrun : Playback.InStep _ (Playback.run Command.rule? _ (.start score))
        (Playback.run (Rule.ofLine counter) script.commands (.start score)) := hruns score 1
    rw [Playback.start, harranged.run_eq, List.nil_append] at hrun
    refine ⟨hrun.score_eq.symm, fun tick pose ease line hmem hline hscore => ?_, fun hnone => ?_⟩
    · have hgate : score = (Command.camera tick pose ease).gate := hscore
      have hfired := hrun.fired
      rw [hgate, harranged.filter_firesAt_eq_singleton (mem_cameras_of_mem hmem)] at hfired
      obtain ⟨line', behind, hline', hbehind, heq⟩ := List.forall₂_cons_left_iff.1 hfired
      rw [hgate, heq, List.forall₂_nil_left_iff.1 hbehind, Except.ok.inj (hline'.symm.trans hline)]
    · have hfired := hrun.fired
      rw [harranged.filter_firesAt_eq_nil] at hfired
      · exact List.forall₂_nil_left_iff.1 hfired
      · intro command hcommand
        obtain ⟨tick, pose, ease, rfl⟩ := Command.isCamera_iff.1 (harranged.isCamera command hcommand)
        exact hnone tick pose ease (List.mem_append_left _ hcommand)
  · rw [← (hruns 1 count).score_eq, harranged.runs_eq]
    change ((min (1 + count) (script.lastTick.toNat + 2) : Nat) : Int) = _
    omega
  · have hfired := (hruns 1 count).fired
    rw [harranged.runs_eq] at hfired
    rw [List.filter_append, filter_isCamera_advances, List.append_nil,
      ← harranged.filter_gate_eq_filter_isCamera hcount]
    exact Except.mapM_eq_ok_iff.2 hfired
  · rw [hticks]
    exact harranged.increasing

/-- Two keyframes with a gap between their ticks. -/
theorem playback_two_keyframes :
    ∃ script, (compile {} "s" [{ frame := 3 }, { frame := 0 }]).result = .ok script ∧
      (Playback.run (Rule.ofLine "s") script.commands (.start 2)).score = 3 ∧
      (Playback.run (Rule.ofLine "s") script.commands (.start 2)).fired = [] ∧
      (Playback.runs (Rule.ofLine "s") script.commands 7 (.start 1)).score = 4 ∧
      ∃ commands : List Command,
        commands.mapM (Command.text {} "s") = .ok script.commands ∧
        (commands.filter Command.isCamera).mapM (Command.text {} "s") =
          .ok (Playback.runs (Rule.ofLine "s") script.commands 7 (.start 1)).fired ∧
        commands.filterMap Command.tick? = [0, 2] := by
  have hlast : (({} : Settings).timeline [{ frame := 3 }, { frame := 0 }]).lastTick? = some 2 := by
    decide +kernel
  have hkeys : (({} : Settings).timeline [{ frame := 3 }, { frame := 0 }]).keys = [0, 2] := by
    decide +kernel
  have hexists : ∃ script, (compile {} "s" [{ frame := 3 }, { frame := 0 }]).result = .ok script :=
    exists_result_compile hlast (by decide)
  obtain ⟨script, h⟩ := hexists
  have htick : script.lastTick = 2 :=
    Option.some.inj ((result_compile_eq_ok_iff.1 h).1.symm.trans hlast)
  obtain ⟨-, -, ⟨commands, hread⟩, hplayback⟩ := playback_of_compile h
  obtain ⟨hrun, hscore, hfired, hticks, -⟩ := hplayback commands hread
  obtain ⟨hnext, -, hnone⟩ := hrun 2
  have hscore := hscore 7
  have hfired := hfired 7 (by rw [htick]; decide)
  rw [htick] at hscore hnext
  rw [hkeys] at hticks
  refine ⟨script, h, hnext, hnone ?_, hscore, commands, hread, hfired, hticks⟩
  intro tick pose ease hmem heq
  have htick : tick ∈ commands.filterMap Command.tick? := List.mem_filterMap.2 ⟨_, hmem, rfl⟩
  rw [hticks] at htick
  simp only [List.mem_cons, List.not_mem_nil, or_false] at htick
  rcases htick with rfl | rfl
  · exact absurd heq (by decide)
  · exact absurd heq (by decide)

end Script

end CameraScript
