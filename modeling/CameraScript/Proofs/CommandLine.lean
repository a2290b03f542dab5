import CameraScript.CommandLine
import CameraScript.Proofs.Conversion

/-!
# The command line in a tree of files

A run with an input, a song and perhaps a settings file makes one conversion and shows how it
ended. Settings that cannot be read count as none.

* `CommandLine.Request.ofArguments_pair`, `CommandLine.Request.ofArguments_settings`: what
  arguments that are no options ask for.
* `FileTree.loaded`, `FileTree.ran`: the settings in a file, and a run of the program.
* `FileTree.ran_settings_of_ok`, `FileTree.ran_settings_of_error`: a run with a settings file.
* `CommandLine.Shows`: what the exit code, the failure text and the files of a run say about its
  conversion.
* `FileTree.ran_falls_back`: a run with a settings file is one with these settings, or with the
  default ones.
-/

namespace CameraScript

namespace CommandLine

variable {input song path text : String}

/-! ## Arguments -/

/-- An argument that does not start with a dash is the value of an option or positional. -/
theorem Arguments.take_eq (h : text.toList.head? ≠ some '-') {arguments : Arguments}
    (hended : arguments.ended = false) :
    arguments.take text =
      if arguments.pending then .ok { arguments with settings := some text, pending := false }
      else arguments.takePositional text := by
  unfold take
  rw [hended]
  cases htext : text.toList with
  | nil => rfl
  | cons c rest =>
    have hc : c ≠ '-' := by
      rintro rfl
      exact h (by rw [htext]; rfl)
    simp [hc]

theorem Arguments.foldlM_take_pair (hinput : input.toList.head? ≠ some '-')
    (hsong : song.toList.head? ≠ some '-') :
    [input, song].foldlM Arguments.take {} = .ok { positional := [input, song] } := by
  rw [List.foldlM_cons, Except.bind_eq_ok_iff]
  refine ⟨{ positional := [input] }, take_eq hinput rfl, ?_⟩
  rw [List.foldlM_cons, Except.bind_eq_ok_iff]
  exact ⟨{ positional := [input, song] }, take_eq hsong rfl, rfl⟩

theorem Request.ofArguments_pair (hinput : input.toList.head? ≠ some '-')
    (hsong : song.toList.head? ≠ some '-') :
    ofArguments [input, song] = .convert { input, song, settings := none } := by
  rw [ofArguments, Arguments.foldlM_take_pair hinput hsong]
  rfl

theorem Request.ofArguments_settings (hinput : input.toList.head? ≠ some '-')
    (hsong : song.toList.head? ≠ some '-') (hpath : path.toList.head? ≠ some '-') :
    ofArguments [input, song, "-c", path] = .convert { input, song, settings := some path } := by
  have hfold : ([input, song] ++ ["-c", path]).foldlM Arguments.take {} =
      .ok { positional := [input, song], options := 1, settings := some path } := by
    rw [List.foldlM_append, Except.bind_eq_ok_iff]
    refine ⟨_, Arguments.foldlM_take_pair hinput hsong, ?_⟩
    rw [List.foldlM_cons, Except.bind_eq_ok_iff]
    refine ⟨{ positional := [input, song], options := 1, pending := true }, rfl, ?_⟩
    rw [List.foldlM_cons, Except.bind_eq_ok_iff]
    exact ⟨_, Arguments.take_eq hpath rfl, rfl⟩
  rw [List.cons_append, List.cons_append, List.nil_append] at hfold
  rw [ofArguments, hfold]
  rfl

/-! ## Reports -/

/-- What went wrong, and what that was caused by. -/
def causeChain : Fault → List String
  | .file cause => [(Fault.file cause).message, cause.message]
  | fault => [fault.message]

/-- A chain of causes, each on a line of its own. They are numbered if there are several. -/
def chainText : (chain : List String) → String
  | [cause] => "    " ++ cause ++ "\n"
  | chain =>
    String.join (chain.zipIdx.map fun (cause, i) => "    " ++ i.repr ++ ": " ++ cause ++ "\n")

theorem chainText_causeChain (fault : Fault) : chainText (causeChain fault) = causes fault := by
  cases fault with
  | file cause =>
    have hone : Nat.toDigits 10 1 = ['1'] := by decide
    rw [← String.toList_inj]
    simp [causeChain, chainText, causes, String.join, hone]
  | _ => rfl

/-- Only a failure to access a file has a cause of its own. -/
theorem causeChain_of_ne_file {fault : Fault} (h : ∀ cause, fault ≠ .file cause) :
    causeChain fault = [fault.message] := by
  cases fault with
  | file cause => exact absurd rfl (h cause)
  | _ => rfl

theorem Report.exitCode_ofResult_eq_zero_iff {result : Except Fault String} :
    (Report.ofResult input result).exitCode = 0 ↔ ∃ output, result = .ok output := by
  cases result with
  | ok output => exact ⟨fun _ => ⟨output, rfl⟩, fun _ => rfl⟩
  | error fault =>
    rw [ofResult]
    split <;> simp

theorem Report.settingsFault_ofResult (input : String) (result : Except Fault String) :
    (Report.ofResult input result).settingsFault = none := by
  cases result with
  | ok output => rfl
  | error fault =>
    rw [ofResult]
    split <;> rfl

/-- What a run shows of a conversion of `input` in `tree`. The files are those that the
conversion leaves. The exit code is `0` where it succeeds. Otherwise, unless it stops the
program, the exit code is `1`, all files are as before, and the failure text names the input and
the chain of causes. -/
structure Shows (tree : FileTree) (input : String) (conversion : Logged String × FileTree)
    (ran : Report × FileTree) : Prop where
  tree_eq : ran.2 = conversion.2
  exitCode_eq_zero_iff : ran.1.exitCode = 0 ↔ ∃ output, conversion.1.result = .ok output
  succeeds : ∀ output, conversion.1.result = .ok output → ran.1.failure = none
  fails : ∀ fault, conversion.1.result = .error fault → fault.isAbort = false →
    ran.1.exitCode = 1 ∧ ran.2 = tree ∧
      ran.1.failure = some ("Error: failed to convert " ++ input ++ "\n\nCaused by:\n"
        ++ chainText (causeChain fault))

/-- A word on the settings shows nothing of the conversion. -/
theorem Shows.with_settingsFault {tree after : FileTree} {conversion : Logged String × FileTree}
    {report : Report} (h : Shows tree input conversion (report, after))
    (settingsFault : Option Fault) :
    Shows tree input conversion ({ report with settingsFault }, after) :=
  ⟨h.tree_eq, h.exitCode_eq_zero_iff, h.succeeds, h.fails⟩

end CommandLine

open CommandLine

namespace FileTree

variable {tree : FileTree} {input song path : String} {settings : Settings} {fault : Fault}
  {result : Except Fault Settings}

/-! ## Runs -/

/-- The settings in a file of a tree. -/
def loaded (tree : FileTree) (path : String) : Except Fault Settings :=
  ((Settings.load path : StateM FileTree (Except Fault Settings)).run tree).1

/-- A run of the program in a tree, and the tree behind it. -/
def ran (tree : FileTree) (arguments : List String) : Report × FileTree :=
  (run arguments : StateM FileTree Report).run tree

theorem run_load_eq (tree : FileTree) (path : String) :
    (Settings.load path : StateM FileTree (Except Fault Settings)).run tree =
      ((tree.read path).mapError .file >>= Settings.ofBytes, tree) := by
  rw [Settings.load, run_bind_eq (run_read rfl)]
  cases tree.read path with
  | error e => rfl
  | ok contents => rfl

theorem loaded_eq (tree : FileTree) (path : String) :
    tree.loaded path = (tree.read path).mapError .file >>= Settings.ofBytes := by
  rw [loaded, run_load_eq]

theorem run_load (h : tree.loaded path = result) :
    (Settings.load path : StateM FileTree (Except Fault Settings)).run tree = (result, tree) := by
  rw [← h, loaded_eq, run_load_eq]

theorem run_runConversion (tree : FileTree) (invocation : Invocation) (settings : Settings) :
    (runConversion invocation settings : StateM FileTree Report).run tree =
      (.ofResult invocation.input
        (tree.converted settings invocation.song invocation.input).1.result,
        (tree.converted settings invocation.song invocation.input).2) := by
  rw [runConversion, StateT.run_bind]
  rfl

theorem ran_pair (hinput : input.toList.head? ≠ some '-') (hsong : song.toList.head? ≠ some '-') :
    tree.ran [input, song] =
      (.ofResult input (tree.converted {} song input).1.result,
        (tree.converted {} song input).2) := by
  rw [ran, run, Request.ofArguments_pair hinput hsong]
  exact run_runConversion tree _ {}

theorem ran_settings_of_ok (hinput : input.toList.head? ≠ some '-')
    (hsong : song.toList.head? ≠ some '-') (hpath : path.toList.head? ≠ some '-')
    (hload : tree.loaded path = .ok settings) :
    tree.ran [input, song, "-c", path] =
      (.ofResult input (tree.converted settings song input).1.result,
        (tree.converted settings song input).2) := by
  rw [ran, run, Request.ofArguments_settings hinput hsong hpath]
  dsimp only
  rw [runInvocation, run_bind_eq (run_load hload)]
  exact run_runConversion tree _ settings

theorem ran_settings_of_error (hinput : input.toList.head? ≠ some '-')
    (hsong : song.toList.head? ≠ some '-') (hpath : path.toList.head? ≠ some '-')
    (hload : tree.loaded path = .error fault) :
    tree.ran [input, song, "-c", path] =
      ({ (tree.ran [input, song]).1 with settingsFault := some fault },
        (tree.ran [input, song]).2) := by
  rw [ran_pair hinput hsong, ran, run, Request.ofArguments_settings hinput hsong hpath]
  dsimp only
  rw [runInvocation, run_bind_eq (run_load hload)]
  dsimp only
  rw [run_bind_eq (run_runConversion tree _ {})]
  rfl

/-! ## What a run shows -/

theorem shows_ofResult (tree : FileTree) (settings : Settings) (song input : String) :
    Shows tree input (tree.converted settings song input)
      (Report.ofResult input (tree.converted settings song input).1.result,
        (tree.converted settings song input).2) where
  tree_eq := rfl
  exitCode_eq_zero_iff := Report.exitCode_ofResult_eq_zero_iff
  succeeds output h := by
    rw [h]
    rfl
  fails fault h habort := by
    have htree := converted_snd_of_error h
    rw [h, Report.ofResult, habort, chainText_causeChain]
    exact ⟨rfl, htree, rfl⟩

/-- **Falling back to the default settings.** Take three arguments that are no options. A run with
a settings file that cannot be read, or does not hold settings, ends as one without: with the same
exit code, failure text and files. All that is added is why the settings could not be read. A run
with settings makes the conversion with them. Each of these runs shows how its conversion ended. -/
theorem ran_falls_back (tree : FileTree) (hinput : input.toList.head? ≠ some '-')
    (hsong : song.toList.head? ≠ some '-') (hpath : path.toList.head? ≠ some '-') :
    (∀ fault, tree.loaded path = .error fault →
      tree.ran [input, song, "-c", path] =
        ({ (tree.ran [input, song]).1 with settingsFault := some fault },
          (tree.ran [input, song]).2)) ∧
      (tree.ran [input, song]).1.settingsFault = none ∧
      Shows tree input (tree.converted {} song input) (tree.ran [input, song]) ∧
      (∀ fault, tree.loaded path = .error fault →
        Shows tree input (tree.converted {} song input) (tree.ran [input, song, "-c", path])) ∧
      (∀ settings, tree.loaded path = .ok settings →
        (tree.ran [input, song, "-c", path]).1.settingsFault = none ∧
          Shows tree input (tree.converted settings song input)
            (tree.ran [input, song, "-c", path])) ∧
      (∀ cause : FileError,
        causeChain (.file cause) = ["io error: " ++ cause.message, cause.message]) ∧
      ∀ fault, (∀ cause, fault ≠ .file cause) → causeChain fault = [fault.message] := by
  refine ⟨fun fault hload => ran_settings_of_error hinput hsong hpath hload, ?_, ?_,
    fun fault hload => ?_, fun settings hload => ?_, fun cause => rfl,
    fun fault hfault => causeChain_of_ne_file hfault⟩
  · rw [ran_pair hinput hsong]
    exact Report.settingsFault_ofResult _ _
  · rw [ran_pair hinput hsong]
    exact shows_ofResult tree {} song input
  · rw [ran_settings_of_error hinput hsong hpath hload, ran_pair hinput hsong]
    exact (shows_ofResult tree {} song input).with_settingsFault (some fault)
  · rw [ran_settings_of_ok hinput hsong hpath hload]
    exact ⟨Report.settingsFault_ofResult _ _, shows_ofResult tree settings song input⟩

/-- A track, a settings file that is no text, and a directory for the script of `s` only. -/
def songPack : FileTree where
  nodes :=
    [(["camera.vmd"], .file singleTrack), (["bad.toml"], .file [0xff]), (["packs"], .directory),
      (["packs", "BP"], .directory), (["packs", "BP", "functions"], .directory),
      (["packs", "BP", "functions", "songs"], .directory),
      (["packs", "BP", "functions", "songs", "s"], .directory)]

theorem loaded_songPack : songPack.loaded "bad.toml" = .error (.file .notUtf8) := by
  have hread : songPack.read "bad.toml" = .ok [0xff] := by decide +kernel
  have htext : String.fromUTF8? (ByteArray.mk [0xff].toArray) = none := by decide +kernel
  rw [loaded_eq, hread]
  change Settings.ofBytes [0xff] = _
  rw [Settings.ofBytes, htext]

/-- The script of `s` is written all the same, and that of `t` is not. -/
theorem ran_songPack :
    songPack.loaded "bad.toml" = .error (.file .notUtf8) ∧
      (songPack.ran ["camera.vmd", "s", "-c", "bad.toml"]).1.exitCode = 0 ∧
      (songPack.ran ["camera.vmd", "s", "-c", "bad.toml"]).1.settingsFault =
        some (.file .notUtf8) ∧
      (songPack.ran ["camera.vmd", "s", "-c", "bad.toml"]).2 =
        (songPack.ran ["camera.vmd", "s"]).2 ∧
      (songPack.ran ["camera.vmd", "t", "-c", "bad.toml"]).1.exitCode = 1 ∧
      (songPack.ran ["camera.vmd", "t", "-c", "bad.toml"]).2 = songPack ∧
      (songPack.ran ["camera.vmd", "t", "-c", "bad.toml"]).1.failure =
        some ("Error: failed to convert camera.vmd\n\nCaused by:\n" ++
          "    0: io error: No such file or directory (os error 2)\n" ++
          "    1: No such file or directory (os error 2)\n") := by
  have hread : songPack.read "camera.vmd" = .ok singleTrack := by decide +kernel
  have hruns (song : String) (hsong : song.toList.head? ≠ some '-') :=
    ran_falls_back songPack (by decide : "camera.vmd".toList.head? ≠ some '-') hsong
      (by decide : "bad.toml".toList.head? ≠ some '-')
  obtain ⟨hsame, -, -, hshows, -⟩ := hruns "s" (by decide)
  obtain ⟨-, -, -, hshows', -⟩ := hruns "t" (by decide)
  refine ⟨loaded_songPack, ?_, ?_, ?_, ?_⟩
  · obtain ⟨script, hscript⟩ := exists_script_singleTrack "./packs/BP" "s"
    obtain ⟨after, hwrite⟩ : ∃ after, songPack.write (Path.script "./packs/BP" "s")
        script.text.toUTF8.toList = .ok after :=
      exists_write_script_iff.2 ⟨["packs", "BP", "functions", "songs", "s"], by decide +kernel,
        by decide +kernel, by decide +kernel⟩
    refine (hshows _ loaded_songPack).exitCode_eq_zero_iff.2
      ⟨Path.script "./packs/BP" "s", ?_⟩
    rw [converted_of_write hread hscript hwrite]
  · rw [hsame _ loaded_songPack]
  · rw [hsame _ loaded_songPack]
  · obtain ⟨script, hscript⟩ := exists_script_singleTrack "./packs/BP" "t"
    have hplace : songPack.place (Path.script "./packs/BP" "t") = .error .notFound := by
      decide +kernel
    refine (hshows' _ loaded_songPack).fails (.file .notFound) ?_ rfl
    rw [converted_of_write_error hread hscript (write_of_place_error hplace)]

end FileTree

end CameraScript
