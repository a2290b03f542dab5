import CameraScript.Proofs.Overflow

/-!
# What a script takes from file order

Of the keyframes on one tick the first in file order is played. But for easing, a script depends
on nothing else in the order of the keyframes.

* `SameFirsts`: two tracks with the same ticks and the same first keyframe on each of them.
  `SameFirsts.of_perm`: a track and a rearrangement of it, where no two keyframes share a tick.
  `sameFirsts_played`: a track and what is left of it without the keyframes that are not played.
* `Template.PlaceAlike`: two lines that place the camera alike, with or without easing.
* `Script.forall₂_cameraCommands_of_sameFirsts`: the camera commands of two such tracks.
* `Script.compile_of_sameFirsts`: their scripts.
-/

namespace CameraScript

open Motion

/-! ## Tracks with the same first keyframes -/

/-- The first keyframe in file order on a tick. -/
def Settings.first? (settings : Settings) (keyframes : List Keyframe) (tick : UInt32) :
    Option Keyframe :=
  keyframes.find? fun keyframe => settings.timebase.tick keyframe.frame = tick

/-- The tracks are on the same ticks, and each tick has the same first keyframe in both. -/
structure SameFirsts (settings : Settings) (keyframes keyframes' : List Keyframe) : Prop where
  ticks_eq : settings.ticks keyframes = settings.ticks keyframes'
  first?_eq : ∀ tick ∈ settings.ticks keyframes,
    settings.first? keyframes tick = settings.first? keyframes' tick

section Tracks

variable {settings : Settings} {keyframes keyframes' keyframes'' : List Keyframe} {tick : UInt32}

theorem Settings.isSome_first?_iff :
    (settings.first? keyframes tick).isSome ↔ tick ∈ settings.ticks keyframes := by
  simp only [first?, List.find?_isSome, decide_eq_true_iff]
  rfl

/-- The ticks of a track are known from its first keyframes. -/
theorem sameFirsts_of_first?_eq
    (h : ∀ tick, settings.first? keyframes tick = settings.first? keyframes' tick) :
    SameFirsts settings keyframes keyframes' where
  ticks_eq := by
    ext tick
    rw [← Settings.isSome_first?_iff, ← Settings.isSome_first?_iff, h]
  first?_eq tick _ := h tick

theorem SameFirsts.trans (h : SameFirsts settings keyframes keyframes')
    (h' : SameFirsts settings keyframes' keyframes'') :
    SameFirsts settings keyframes keyframes'' where
  ticks_eq := h.ticks_eq.trans h'.ticks_eq
  first?_eq tick htick :=
    (h.first?_eq tick htick).trans (h'.first?_eq tick (h.ticks_eq ▸ htick))

/-! ### Rearranged tracks -/

/-- A keyframe that shares its tick with no other is the first one on it. -/
theorem Settings.first?_eq_some_of_nodup
    (hdistinct : (keyframes.map fun keyframe => settings.timebase.tick keyframe.frame).Nodup)
    {keyframe : Keyframe} (hmem : keyframe ∈ keyframes) :
    settings.first? keyframes (settings.timebase.tick keyframe.frame) = some keyframe := by
  obtain ⟨before, behind, rfl⟩ := List.append_of_mem hmem
  rw [List.map_append, List.map_cons, List.nodup_append] at hdistinct
  obtain ⟨-, -, hbefore⟩ := hdistinct
  rw [first?, List.find?_eq_some_iff_append]
  refine ⟨by simp, before, behind, rfl, fun other hother => ?_⟩
  have hne := hbefore _ (List.mem_map_of_mem hother) _ List.mem_cons_self
  simpa using hne

theorem SameFirsts.of_perm (hperm : keyframes.Perm keyframes')
    (hdistinct : (keyframes.map fun keyframe => settings.timebase.tick keyframe.frame).Nodup) :
    SameFirsts settings keyframes keyframes' where
  ticks_eq := by
    ext tick
    exact exists_congr fun keyframe => and_congr_left fun _ => hperm.mem_iff
  first?_eq := by
    rintro tick ⟨keyframe, hmem, rfl⟩
    rw [Settings.first?_eq_some_of_nodup hdistinct hmem,
      Settings.first?_eq_some_of_nodup ((hperm.map _).nodup hdistinct) (hperm.mem_iff.1 hmem)]

/-! ### Tracks without the keyframes that are not played -/

/-- Whether the keyframe at this position is the one that is sampled for its tick. -/
def Settings.isSampled (settings : Settings) (keyframes : List Keyframe) (entry : Keyframe × Nat) :
    Bool :=
  (settings.timeline keyframes)[settings.timebase.tick entry.1.frame]?.any (·.index = entry.2)

/-- The keyframes that are sampled, in file order. -/
def Settings.played (settings : Settings) (keyframes : List Keyframe) : List Keyframe :=
  (keyframes.zipIdx.filter (settings.isSampled keyframes)).map Prod.fst

theorem Settings.first?_played :
    settings.first? (settings.played keyframes) tick =
      (keyframes.zipIdx.find? fun entry => settings.isSampled keyframes entry ∧
        settings.timebase.tick entry.1.frame = tick).map Prod.fst := by
  rw [first?, played, List.find?_map, List.find?_filter]
  simp only [Function.comp_apply, decide_eq_true_iff]

theorem sameFirsts_played : SameFirsts settings keyframes (settings.played keyframes) := by
  refine sameFirsts_of_first?_eq fun tick => ?_
  rw [Settings.first?_played]
  cases hsample : (settings.timeline keyframes)[tick]? with
  | none =>
    have hnone : ∀ keyframe ∈ keyframes, settings.timebase.tick keyframe.frame ≠ tick := by
      intro keyframe hmem htick
      have hkey := Settings.mem_keys_timeline_iff.2 ⟨keyframe, hmem, htick⟩
      rw [Std.TreeMap.mem_keys, Std.TreeMap.mem_iff_isSome_getElem?, hsample] at hkey
      cases hkey
    rw [List.find?_eq_none.2, Settings.first?, List.find?_eq_none.2, Option.map_none]
    · intro keyframe hmem
      simpa using hnone keyframe hmem
    · intro entry hentry
      have hne := hnone entry.1 (List.fst_mem_of_mem_zipIdx hentry)
      simp [hne]
  | some sample =>
    obtain ⟨⟨hlt, htick⟩, hleast⟩ := Settings.isLeast_index hsample
    have hfind : (keyframes.zipIdx.find? fun entry => settings.isSampled keyframes entry ∧
        settings.timebase.tick entry.1.frame = tick) =
          some (keyframes[sample.index], sample.index) := by
      rw [List.find?_eq_some_iff_getElem]
      refine ⟨?_, sample.index, by simpa using hlt, by simp, fun j hj => ?_⟩
      · simp [Settings.isSampled, htick, hsample]
      · have hne : settings.timebase.tick keyframes[j].frame ≠ tick := fun heq =>
          Nat.not_lt.2 (hleast ⟨Nat.lt_trans hj hlt, heq⟩) hj
        simp [hne]
    rw [hfind, Settings.first?, Settings.find?_eq_of_sample hsample, List.getElem?_eq_getElem hlt]
    rfl

end Tracks

/-! ## Scripts -/

/-- The lines place the camera alike: at one tick and in one pose, each with or without easing. -/
def Template.PlaceAlike (template : Template) (counter line line' : String) : Prop :=
  ∃ tick pose ease ease', (Command.camera tick pose ease).text template counter = .ok line ∧
    (Command.camera tick pose ease').text template counter = .ok line'

namespace Script

variable {settings : Settings} {counter : String} {keyframes keyframes' : List Keyframe}

theorem keys_timeline_eq_of_sameFirsts (h : SameFirsts settings keyframes keyframes') :
    (settings.timeline keyframes).keys = (settings.timeline keyframes').keys := by
  refine (Timeline.pairwise_keys _).eq_of_mem_iff (Timeline.pairwise_keys _) fun tick => ?_
  have hmem : tick ∈ settings.ticks keyframes ↔ tick ∈ settings.ticks keyframes' := by
    rw [h.ticks_eq]
  exact Settings.mem_keys_timeline_iff.trans (hmem.trans Settings.mem_keys_timeline_iff.symm)

theorem lastTick?_eq_of_sameFirsts (h : SameFirsts settings keyframes keyframes') :
    (settings.timeline keyframes).lastTick? = (settings.timeline keyframes').lastTick? := by
  rw [Timeline.lastTick?, Timeline.lastTick?, keys_timeline_eq_of_sameFirsts h]

/-- The camera commands of two such tracks are for the same ticks and poses. -/
theorem forall₂_cameraCommands_of_sameFirsts (h : SameFirsts settings keyframes keyframes') :
    List.Forall₂ (fun command command' => ∃ tick pose ease ease',
        command = .camera tick pose ease ∧ command' = .camera tick pose ease')
      (cameraCommands settings.transform keyframes (settings.timeline keyframes))
      (cameraCommands settings.transform keyframes' (settings.timeline keyframes')) := by
  have hkeys := keys_timeline_eq_of_sameFirsts h
  rw [List.forall₂_iff_get]
  refine ⟨by rw [length_cameraCommands, length_cameraCommands, hkeys], fun k hk hk' => ?_⟩
  rw [length_cameraCommands] at hk
  obtain ⟨tick, htick⟩ : ∃ tick, (settings.timeline keyframes).keys[k]? = some tick :=
    ⟨_, List.getElem?_eq_getElem hk⟩
  obtain ⟨keyframe, sample, hfind, -, hcommand⟩ := getElem?_cameraCommands htick
  obtain ⟨keyframe', sample', hfind', -, hcommand'⟩ := getElem?_cameraCommands (hkeys ▸ htick)
  have hkeyframe : keyframe = keyframe' := by
    have hmem : tick ∈ settings.ticks keyframes :=
      Settings.mem_keys_timeline_iff.1 (List.mem_of_getElem? htick)
    exact Option.some.inj (hfind.symm.trans ((h.first?_eq tick hmem).trans hfind'))
  subst hkeyframe
  obtain ⟨_, hget⟩ := List.getElem?_eq_some_iff.1 hcommand
  obtain ⟨_, hget'⟩ := List.getElem?_eq_some_iff.1 hcommand'
  exact ⟨_, _, _, _, hget, hget'⟩

/-- The lines of commands that go in pairs go in pairs. -/
theorem forall₂_of_forall₂_text {template : Template} {R : Command → Command → Prop}
    {S : String → String → Prop} {commands commands' : List Command} {lines lines' : List String}
    (hpairs : List.Forall₂ R commands commands')
    (hlines : List.Forall₂ (fun command line => command.text template counter = .ok line)
      commands lines)
    (hlines' : List.Forall₂ (fun command line => command.text template counter = .ok line)
      commands' lines')
    (h : ∀ command command' line line', R command command' →
      command.text template counter = .ok line → command'.text template counter = .ok line' →
      S line line') :
    List.Forall₂ S lines lines' := by
  induction hpairs generalizing lines lines' with
  | nil =>
    cases hlines
    cases hlines'
    exact .nil
  | cons hhead _ ih =>
    cases hlines with
    | cons hline hlines =>
      cases hlines' with
      | cons hline' hlines' => exact .cons (h _ _ _ _ hhead hline hline') (ih hlines hlines')

/-- **File order.** Tracks on the same ticks, with the same first keyframe on each, are compiled
or fail alike. Their scripts have as many lines and end with the same counting block, and before
it they place the camera alike, line by line; only the easing may differ. -/
theorem compile_of_sameFirsts (counter : String) (h : SameFirsts settings keyframes keyframes') :
    (∀ fault, (compile settings counter keyframes).result = .error fault ↔
      (compile settings counter keyframes').result = .error fault) ∧
    ((∃ script, (compile settings counter keyframes).result = .ok script) ↔
      ∃ script', (compile settings counter keyframes').result = .ok script') ∧
    ∀ script script', (compile settings counter keyframes).result = .ok script →
      (compile settings counter keyframes').result = .ok script' →
      script.lastTick = script'.lastTick ∧
      script.commands.length = script'.commands.length ∧
      ∃ cameras cameras' block, script.commands = cameras ++ block ∧
        script'.commands = cameras' ++ block ∧
        (advances (script.lastTick.toNat + 1)).mapM (Command.text settings.template counter) =
          .ok block ∧
        List.Forall₂ (settings.template.PlaceAlike counter) cameras cameras' := by
  have hlastTick := lastTick?_eq_of_sameFirsts h
  obtain ⟨herror, hok⟩ :=
    Except.eq_error_iff_and_exists_ok_iff (result_compile_or_failure? settings counter keyframes)
  obtain ⟨herror', hok'⟩ :=
    Except.eq_error_iff_and_exists_ok_iff (result_compile_or_failure? settings counter keyframes')
  refine ⟨fun fault => ?_, ?_, fun script script' hscript hscript' => ?_⟩
  · rw [herror, herror', hlastTick]
  · rw [hok, hok', hlastTick]
  · obtain ⟨hlast, -, htexts⟩ := result_compile_eq_ok_iff.1 hscript
    obtain ⟨hlast', -, htexts'⟩ := result_compile_eq_ok_iff.1 hscript'
    have hsame : script.lastTick = script'.lastTick :=
      Option.some.inj (hlast.symm.trans (hlastTick.trans hlast'))
    obtain ⟨cameras, block, hcameras, hblock, hcommands⟩ :=
      Except.mapM_append_eq_ok_iff.1 htexts
    obtain ⟨cameras', block', hcameras', hblock', hcommands'⟩ :=
      Except.mapM_append_eq_ok_iff.1 htexts'
    rw [← hsame] at hblock'
    cases hblock.symm.trans hblock'
    have hpairs : List.Forall₂ (settings.template.PlaceAlike counter) cameras cameras' := by
      refine forall₂_of_forall₂_text (forall₂_cameraCommands_of_sameFirsts h)
        (Except.mapM_eq_ok_iff.1 hcameras) (Except.mapM_eq_ok_iff.1 hcameras') ?_
      rintro _ _ line line' ⟨tick, pose, ease, ease', rfl, rfl⟩ hline hline'
      exact ⟨tick, pose, ease, ease', hline, hline'⟩
    refine ⟨hsame, ?_, cameras, cameras', block, hcommands.symm, hcommands'.symm, hblock, hpairs⟩
    rw [← hcommands, ← hcommands', List.length_append, List.length_append, hpairs.length_eq]

/-- The tracks that are compared here: one with a keyframe that is not played, and one without it
and in another order. -/
theorem sameFirsts_unorderedKeyframes :
    SameFirsts {} unorderedKeyframes [{ frame := 0 }, { frame := 30 }, { frame := 3 }] := by
  have hplayed : ({} : Settings).played unorderedKeyframes =
      [{ frame := 30 }, { frame := 3 }, { frame := 0 }] := by decide +kernel
  have hperm : [({ frame := 30 } : Keyframe), { frame := 3 }, { frame := 0 }].Perm
      [{ frame := 0 }, { frame := 30 }, { frame := 3 }] := by decide
  refine sameFirsts_played.trans ?_
  rw [hplayed]
  exact .of_perm hperm (by decide +kernel)

/-- In the first track the tick `0` is reached without easing, in the second with it. -/
theorem compile_unorderedKeyframes :
    SameFirsts {} unorderedKeyframes [{ frame := 0 }, { frame := 30 }, { frame := 3 }] ∧
      suppressedTicks (({} : Settings).timeline unorderedKeyframes) = [0] ∧
      suppressedTicks (({} : Settings).timeline
        [{ frame := 0 }, { frame := 30 }, { frame := 3 }]) = [] ∧
      ∃ script script', (compile {} "s" unorderedKeyframes).result = .ok script ∧
        (compile {} "s" [{ frame := 0 }, { frame := 30 }, { frame := 3 }]).result = .ok script' ∧
        script.lastTick = script'.lastTick ∧
        ∃ cameras cameras' block, script.commands = cameras ++ block ∧
          script'.commands = cameras' ++ block ∧
          List.Forall₂ (({} : Template).PlaceAlike "s") cameras cameras' := by
  have hlast : (({} : Settings).timeline unorderedKeyframes).lastTick? = some 20 := by
    decide +kernel
  obtain ⟨script, hscript⟩ : ∃ script, (compile {} "s" unorderedKeyframes).result = .ok script :=
    exists_result_compile hlast (by decide)
  obtain ⟨-, hok, hscripts⟩ := compile_of_sameFirsts "s" sameFirsts_unorderedKeyframes
  obtain ⟨script', hscript'⟩ := hok.1 ⟨script, hscript⟩
  obtain ⟨hsame, -, cameras, cameras', block, hcommands, hcommands', -, hpairs⟩ :=
    hscripts script script' hscript hscript'
  exact ⟨sameFirsts_unorderedKeyframes, by decide +kernel, by decide +kernel, script, script',
    hscript, hscript', hsame, cameras, cameras', block, hcommands, hcommands', hpairs⟩

end Script

end CameraScript
