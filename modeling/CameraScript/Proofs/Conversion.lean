import CameraScript.Conversion
import CameraScript.Proofs.CameraOnly
import CameraScript.Proofs.Compilation
import CameraScript.Proofs.FileTree

/-!
# Conversions in a tree of files

A conversion reads one file and writes one. Whatever goes wrong before the write succeeds, it
leaves the tree as it was.

* `FileTree.converted`: the log and result of a conversion, and the tree that it leaves.
* `FileTree.converted_of_read_error`, `FileTree.converted_of_compile_error`,
  `FileTree.converted_of_write_error`, `FileTree.converted_of_write`: the four ways it can go.
* `Path.songDirectory`: the directory that the script of a counter is written into.
* `FileTree.conversion_all_or_nothing`: what is left where a conversion fails, and what where
  it succeeds.
-/

namespace CameraScript

/-- The directory of the script of a counter. A conversion does not make it. -/
def Path.songDirectory (packRoot counter : String) : String :=
  join (join (join packRoot "functions") "songs") counter

theorem Path.script_eq (packRoot counter : String) :
    script packRoot counter = join (songDirectory packRoot counter) "camera.mcfunction" := rfl

theorem Path.songDirectory_ne_empty (packRoot counter : String) :
    songDirectory packRoot counter ≠ "" :=
  join_ne_empty_of_base (join_ne_empty_of_part (by decide))

namespace FileTree

variable {tree after : FileTree} {settings : Settings} {counter input path : String}
  {contents : Bytes} {script : Script} {fault : Fault} {e : FileError}
  {result : Except FileError Bytes}

theorem exists_write_script_iff {packRoot : String} :
    (∃ after, tree.write (Path.script packRoot counter) contents = .ok after) ↔
      ∃ directory, tree.place (Path.songDirectory packRoot counter) = .ok directory ∧
        tree.node? directory = some .directory ∧
        tree.node? (directory ++ ["camera.mcfunction"]) ≠ some .directory := by
  rw [Path.script_eq]
  exact exists_write_join_iff (Path.songDirectory_ne_empty packRoot counter) (by decide)
    (by decide) (by decide)

/-! ## Access in a run -/

/-- What follows a step goes on in the tree that the step leaves. -/
theorem run_bind_eq {α β : Type} {step : StateM FileTree α} {a : α}
    (h : step.run tree = (a, after)) (next : α → StateM FileTree β) :
    (step >>= next).run tree = (next a).run after := by
  rw [StateT.run_bind, h]
  rfl

theorem run_read (h : tree.read path = result) :
    (Files.read path : StateM FileTree (Except FileError Bytes)).run tree = (result, tree) := by
  rw [← h]
  rfl

theorem run_get (tree : FileTree) : (get : StateM FileTree FileTree).run tree = (tree, tree) := rfl

theorem run_write (tree : FileTree) (path : String) (contents : Bytes) :
    (Files.write path contents : StateM FileTree (Except FileError Unit)).run tree =
      match tree.write path contents with
      | .ok after => (.ok (), after)
      | .error e => (.error e, tree) := by
  rw [Files.write, instFilesStateM]
  dsimp only
  rw [run_bind_eq (run_get tree)]
  cases tree.write path contents with
  | ok after => rfl
  | error e => rfl

theorem run_write_of_error (h : tree.write path contents = .error e) :
    (Files.write path contents : StateM FileTree (Except FileError Unit)).run tree =
      (.error e, tree) := by
  rw [run_write, h]

theorem run_write_of_ok (h : tree.write path contents = .ok after) :
    (Files.write path contents : StateM FileTree (Except FileError Unit)).run tree =
      (.ok (), after) := by
  rw [run_write, h]

/-! ## A conversion -/

/-- What a conversion reports and comes to in a tree, and the tree behind it. -/
def converted (tree : FileTree) (settings : Settings) (counter input : String) :
    Logged String × FileTree :=
  (convert settings counter input : StateM FileTree (Logged String)).run tree

theorem converted_of_read_error (hread : tree.read input = .error e) :
    tree.converted settings counter input = (.fail (.file e), tree) := by
  rw [converted, convert, run_bind_eq (run_read hread)]
  rfl

theorem converted_of_compile_error (hread : tree.read input = .ok contents)
    (hcompile : (Script.ofBytes settings counter contents).result = .error fault) :
    tree.converted settings counter input =
      (⟨(Script.ofBytes settings counter contents).events, .error fault⟩, tree) := by
  rw [converted, convert, run_bind_eq (run_read hread)]
  dsimp only
  rw [hcompile]
  rfl

theorem converted_of_write_error (hread : tree.read input = .ok contents)
    (hcompile : (Script.ofBytes settings counter contents).result = .ok script)
    (hwrite : tree.write (Path.script settings.packRoot counter) script.text.toUTF8.toList =
      .error e) :
    tree.converted settings counter input =
      (⟨(Script.ofBytes settings counter contents).events, .error (.file e)⟩, tree) := by
  rw [converted, convert, run_bind_eq (run_read hread)]
  dsimp only
  rw [hcompile]
  dsimp only
  rw [run_bind_eq (run_write_of_error hwrite)]
  rfl

theorem converted_of_write (hread : tree.read input = .ok contents)
    (hcompile : (Script.ofBytes settings counter contents).result = .ok script)
    (hwrite : tree.write (Path.script settings.packRoot counter) script.text.toUTF8.toList =
      .ok after) :
    tree.converted settings counter input =
      (⟨(Script.ofBytes settings counter contents).events ++
        [.wrote (Path.script settings.packRoot counter)],
        .ok (Path.script settings.packRoot counter)⟩, after) := by
  rw [converted, convert, run_bind_eq (run_read hread)]
  dsimp only
  rw [hcompile]
  dsimp only
  rw [run_bind_eq (run_write_of_ok hwrite)]
  rfl

/-- A conversion is stopped by reading, compiling or writing, or it writes its script. -/
theorem converted_cases (tree : FileTree) (settings : Settings) (counter input : String) :
    (∃ fault, (tree.converted settings counter input).1.result = .error fault ∧
      (tree.converted settings counter input).2 = tree) ∨
    ∃ contents script, tree.read input = .ok contents ∧
      (Script.ofBytes settings counter contents).result = .ok script ∧
      tree.write (Path.script settings.packRoot counter) script.text.toUTF8.toList =
        .ok (tree.converted settings counter input).2 ∧
      (tree.converted settings counter input).1.result =
        .ok (Path.script settings.packRoot counter) := by
  cases hread : tree.read input with
  | error e =>
    rw [converted_of_read_error hread]
    exact .inl ⟨_, rfl, rfl⟩
  | ok contents =>
    cases hcompile : (Script.ofBytes settings counter contents).result with
    | error fault =>
      rw [converted_of_compile_error hread hcompile]
      exact .inl ⟨_, rfl, rfl⟩
    | ok script =>
      cases hwrite : tree.write (Path.script settings.packRoot counter)
        script.text.toUTF8.toList with
      | error e =>
        rw [converted_of_write_error hread hcompile hwrite]
        exact .inl ⟨_, rfl, rfl⟩
      | ok after =>
        rw [converted_of_write hread hcompile hwrite]
        exact .inr ⟨contents, script, rfl, hcompile, hwrite, rfl⟩

theorem converted_snd_of_error
    (h : (tree.converted settings counter input).1.result = .error fault) :
    (tree.converted settings counter input).2 = tree := by
  rcases converted_cases tree settings counter input with ⟨_, -, htree⟩ | ⟨_, _, _, _, _, hok⟩
  · exact htree
  · cases h.symm.trans hok

/-- **All or nothing.** A conversion ends with the failure of reading its input, else with that
of compiling it, else with that of opening its output, and leaves the tree as it was in each of
these cases. Otherwise it makes or replaces one file, the script of what the input held before,
and nothing else changes. The output can be opened where its directory is there and no directory
is in its place; none is made. -/
theorem conversion_all_or_nothing (tree : FileTree) (settings : Settings)
    (counter input : String) :
    (∀ e, tree.read input = .error e →
      (tree.converted settings counter input).1.result = .error (.file e) ∧
        (tree.converted settings counter input).2 = tree) ∧
      (∀ contents fault, tree.read input = .ok contents →
        (Script.ofBytes settings counter contents).result = .error fault →
        (tree.converted settings counter input).1.result = .error fault ∧
          (tree.converted settings counter input).2 = tree) ∧
      (∀ contents script e, tree.read input = .ok contents →
        (Script.ofBytes settings counter contents).result = .ok script →
        tree.write (Path.script settings.packRoot counter) script.text.toUTF8.toList = .error e →
        (tree.converted settings counter input).1.result = .error (.file e) ∧
          (tree.converted settings counter input).2 = tree) ∧
      (∀ contents script after, tree.read input = .ok contents →
        (Script.ofBytes settings counter contents).result = .ok script →
        tree.write (Path.script settings.packRoot counter) script.text.toUTF8.toList = .ok after →
        ∃ path, (tree.converted settings counter input).1.result = .ok path) ∧
      (∀ fault, (tree.converted settings counter input).1.result = .error fault →
        (tree.converted settings counter input).2 = tree) ∧
      (∀ path, (tree.converted settings counter input).1.result = .ok path →
        path = Path.script settings.packRoot counter ∧
        ∃ contents script, tree.read input = .ok contents ∧
          (Script.ofBytes settings counter contents).result = .ok script ∧
          tree.ReplacedAt (tree.converted settings counter input).2 path
            ("\n".intercalate script.commands).toUTF8.toList) ∧
      ∀ contents, (∃ after,
          tree.write (Path.script settings.packRoot counter) contents = .ok after) ↔
        ∃ directory, tree.place (Path.songDirectory settings.packRoot counter) = .ok directory ∧
          tree.node? directory = some .directory ∧
          tree.node? (directory ++ ["camera.mcfunction"]) ≠ some .directory := by
  refine ⟨fun e hread => ?_, fun contents fault hread hcompile => ?_,
    fun contents script e hread hcompile hwrite => ?_,
    fun contents script after hread hcompile hwrite => ?_,
    fun fault hfault => converted_snd_of_error hfault, fun path hpath => ?_,
    fun contents => exists_write_script_iff⟩
  · rw [converted_of_read_error hread]
    exact ⟨rfl, rfl⟩
  · rw [converted_of_compile_error hread hcompile]
    exact ⟨rfl, rfl⟩
  · rw [converted_of_write_error hread hcompile hwrite]
    exact ⟨rfl, rfl⟩
  · rw [converted_of_write hread hcompile hwrite]
    exact ⟨_, rfl⟩
  · rcases converted_cases tree settings counter input with
      ⟨_, herror, -⟩ | ⟨contents, script, hread, hcompile, hwrite, hok⟩
    · cases hpath.symm.trans herror
    · cases hpath.symm.trans hok
      exact ⟨rfl, contents, script, hread, hcompile, replacedAt_of_write hwrite⟩

/-- A motion file with one keyframe. -/
def singleTrack : Bytes := Motion.File.encode [] [{ frame := 30 }]

theorem exists_script_singleTrack (packRoot counter : String) :
    ∃ script, (Script.ofBytes { packRoot } counter singleTrack).result = .ok script := by
  have htrack : (Motion.Track.ofBytes singleTrack).result = .ok [{ frame := 30 }] := by
    decide +kernel
  have hlast : (({ packRoot } : Settings).timeline [{ frame := 30 }]).lastTick? = some 20 := by
    change (({} : Settings).timeline [{ frame := 30 }]).lastTick? = some 20
    decide +kernel
  rw [Script.result_ofBytes, htrack]
  exact Script.exists_result_compile hlast (by decide)

/-- A pack in which a motion file lies where its own script belongs. -/
def trackInPlace : FileTree where
  nodes :=
    [(["BP"], .directory), (["BP", "functions"], .directory),
      (["BP", "functions", "songs"], .directory), (["BP", "functions", "songs", "s"], .directory),
      (["BP", "functions", "songs", "s", "camera.mcfunction"], .file singleTrack)]

/-- The file is replaced by its script. For another counter there is no directory, and the tree
stays as it was. -/
theorem conversion_trackInPlace :
    (∃ script, (Script.ofBytes { packRoot := "BP" } "s" singleTrack).result = .ok script ∧
      (trackInPlace.converted { packRoot := "BP" } "s"
        "BP/functions/songs/s/camera.mcfunction").1.result =
          .ok "BP/functions/songs/s/camera.mcfunction" ∧
      trackInPlace.ReplacedAt (trackInPlace.converted { packRoot := "BP" } "s"
        "BP/functions/songs/s/camera.mcfunction").2 "BP/functions/songs/s/camera.mcfunction"
        ("\n".intercalate script.commands).toUTF8.toList) ∧
      (trackInPlace.converted { packRoot := "BP" } "t"
        "BP/functions/songs/s/camera.mcfunction").1.result = .error (.file .notFound) ∧
      (trackInPlace.converted { packRoot := "BP" } "t"
        "BP/functions/songs/s/camera.mcfunction").2 = trackInPlace := by
  have hread : trackInPlace.read "BP/functions/songs/s/camera.mcfunction" = .ok singleTrack := by
    decide +kernel
  obtain ⟨-, -, -, hok, -, hpath, hopen⟩ := conversion_all_or_nothing trackInPlace
    { packRoot := "BP" } "s" "BP/functions/songs/s/camera.mcfunction"
  obtain ⟨-, -, hfails, -⟩ := conversion_all_or_nothing trackInPlace
    { packRoot := "BP" } "t" "BP/functions/songs/s/camera.mcfunction"
  constructor
  · obtain ⟨script, hscript⟩ := exists_script_singleTrack "BP" "s"
    obtain ⟨after, hwrite⟩ := (hopen script.text.toUTF8.toList).2
      ⟨["BP", "functions", "songs", "s"], by decide +kernel, by decide +kernel, by decide +kernel⟩
    obtain ⟨path, hresult⟩ := hok _ script after hread hscript hwrite
    obtain ⟨rfl, contents, script', hread', hscript', hreplaced⟩ := hpath path hresult
    cases hread.symm.trans hread'
    exact ⟨script', hscript', hresult, hreplaced⟩
  · obtain ⟨script, hscript⟩ := exists_script_singleTrack "BP" "t"
    have hplace : trackInPlace.place (Path.script "BP" "t") = .error .notFound := by
      decide +kernel
    exact hfails _ script _ hread hscript (write_of_place_error hplace)

end FileTree

end CameraScript
