import CameraScript.Proofs.Conversion

/-!
# The paths of scripts

The script of a counter lies in a directory of its own below the songs of the pack. A counter is
text and may hold slashes, so this is a matter of how paths are joined.

* `Path.join_of_relative`, `Path.join_of_absolute`: the text of a joined path.
* `Path.IsInner`: a counter that gets a slash on each side. `Path.script_of_isInner`,
  `Path.script_of_absolute`: the text of the path of its script, and of the script of a counter
  that begins with a slash itself.
* `Path.intercalate_names`: a path is its names with slashes between them.
* `Path.IsPlain`: a counter of which each name leads one directory further. Others can be told
  apart as text and yet lead to one place, since an empty name and a dot lead nowhere.
* `FileTree.place_script_ne`: the scripts of plain counters lie in different places.
* `Path.scripts_apart`: two counters have two paths, and a conversion for one of them leaves the
  script of the other.
-/

namespace CameraScript

namespace Path

variable {base part packRoot counter other : String}

/-! ## Joining -/

/-- What stands between a path and a name behind it. -/
def slashBehind (base : String) : String :=
  if base = "" ∨ base.toList.getLast? = some '/' then "" else "/"

theorem isAbsolute_iff : isAbsolute part = true ↔ part.toList.head? = some '/' :=
  decide_eq_true_iff

theorem isOpen_iff : isOpen base = true ↔ base = "" ∨ base.toList.getLast? = some '/' := by
  rw [isOpen, ← String.toList_eq_nil_iff, ← List.getLast?_eq_none_iff]
  cases base.toList.getLast? with
  | none => simp
  | some c => simp

theorem join_of_absolute (h : part.toList.head? = some '/') : join base part = part :=
  if_pos (isAbsolute_iff.2 h)

theorem join_of_relative (h : part.toList.head? ≠ some '/') :
    join base part = base ++ slashBehind base ++ part := by
  rw [join, if_neg (mt isAbsolute_iff.1 h), slashBehind]
  simp only [isOpen_iff]
  split
  · rw [String.append_empty]
  · rfl

theorem slashBehind_append (hpart : part ≠ "") : slashBehind (base ++ part) = slashBehind part := by
  have hne : part.toList ≠ [] := mt String.toList_eq_nil_iff.1 hpart
  have happend : base ++ part ≠ "" := fun h => hpart (String.append_eq_empty_iff.1 h).2
  simp only [slashBehind, hpart, happend, false_or, String.toList_append,
    List.getLast?_append_of_ne_nil _ hne]

/-! ## The text of the path of a script -/

/-- The directory of all songs of a pack. -/
def songs (packRoot : String) : String := join (join packRoot "functions") "songs"

theorem songs_eq (packRoot : String) :
    songs packRoot = packRoot ++ slashBehind packRoot ++ "functions/songs" := by
  have hslash : slashBehind "functions" = "/" := by decide
  rw [songs, join_of_relative (by decide), join_of_relative (by decide),
    slashBehind_append (by decide), hslash]
  simp only [String.append_assoc]
  rfl

/-- A counter that gets a slash on each side when it is joined: it is not empty, and there is no
slash at either end. It may still be led out of the songs by dots. -/
structure IsInner (counter : String) : Prop where
  ne_empty : counter ≠ ""
  head_ne : counter.toList.head? ≠ some '/'
  getLast_ne : counter.toList.getLast? ≠ some '/'

theorem script_eq_songs (h : IsInner counter) :
    script packRoot counter = songs packRoot ++ "/" ++ (counter ++ "/camera.mcfunction") := by
  have hsongs : slashBehind (songs packRoot) = "/" := by
    rw [songs_eq, slashBehind_append (by decide)]
    decide
  have hcounter : slashBehind counter = "/" := if_neg fun hopen => hopen.elim h.ne_empty h.getLast_ne
  change join (join (songs packRoot) counter) "camera.mcfunction" = _
  rw [join_of_relative (by decide), join_of_relative h.head_ne, slashBehind_append h.ne_empty,
    hsongs, hcounter]
  simp only [String.append_assoc]
  rfl

theorem script_of_isInner (packRoot : String) (h : IsInner counter) :
    script packRoot counter =
      packRoot ++ slashBehind packRoot ++ "functions/songs/" ++ counter ++ "/camera.mcfunction" := by
  rw [script_eq_songs h, songs_eq]
  simp only [String.append_assoc]
  rfl

theorem script_inj (packRoot : String) (h : IsInner counter) (h' : IsInner other) :
    script packRoot counter = script packRoot other ↔ counter = other := by
  rw [script_eq_songs h, script_eq_songs h', String.append_right_inj, String.append_left_inj]

/-- A counter that begins with a slash leaves the pack. -/
theorem script_of_absolute (packRoot : String) (h : counter.toList.head? = some '/') :
    script packRoot counter = counter ++ slashBehind counter ++ "camera.mcfunction" := by
  change join (join (songs packRoot) counter) "camera.mcfunction" = _
  rw [join_of_absolute h, join_of_relative (by decide)]

/-! ## Names -/

theorem namesFrom_ne_nil (done text : List Char) : namesFrom done text ≠ [] := by
  induction text generalizing done with
  | nil => exact List.cons_ne_nil _ _
  | cons c rest ih =>
    rw [namesFrom]
    split
    · exact List.cons_ne_nil _ _
    · exact ih (c :: done)

theorem intercalate_namesFrom (done text : List Char) :
    ['/'].intercalate ((namesFrom done text).map String.toList) = done.reverse ++ text := by
  induction text generalizing done with
  | nil => simp [namesFrom]
  | cons c rest ih =>
    rw [namesFrom]
    split
    · next hc =>
      have hne : (namesFrom [] rest).map String.toList ≠ [] := by
        simpa using namesFrom_ne_nil [] rest
      rw [List.map_cons, List.intercalate_cons_of_ne_nil hne, ih, hc]
      simp
    · rw [ih]
      simp

/-- A path is its names with slashes between them. -/
theorem intercalate_names (path : String) : "/".intercalate (names path) = path := by
  apply String.toList_injective
  rw [String.toList_intercalate, names]
  exact intercalate_namesFrom [] path.toList

theorem names_injective {path path' : String} (h : names path = names path') : path = path' := by
  rw [← intercalate_names path, h, intercalate_names]

/-- Each name of the path leads one directory further. -/
def IsPlain (path : String) : Prop :=
  ∀ name ∈ names path, name ≠ "" ∧ name ≠ "." ∧ name ≠ ".."

instance (path : String) : Decidable (IsPlain path) :=
  inferInstanceAs (Decidable (∀ name ∈ names path, name ≠ "" ∧ name ≠ "." ∧ name ≠ ".."))

theorem names_append_slash (base part : String) :
    names (base ++ "/" ++ part) = names base ++ names part := by
  rw [names, toList_append_slash, namesFrom_append_slash]
  rfl

theorem IsPlain.isInner (h : IsPlain counter) : IsInner counter := by
  have hempty : "" ∉ names counter := fun hmem => (h "" hmem).1 rfl
  refine ⟨?_, fun hhead => ?_, fun hlast => ?_⟩
  · rintro rfl
    exact hempty (by decide)
  · obtain ⟨rest, hrest⟩ := List.head?_eq_some_iff.1 hhead
    apply hempty
    rw [names, hrest]
    exact List.mem_cons_self
  · obtain ⟨front, hfront⟩ := List.getLast?_eq_some_iff.1 hlast
    apply hempty
    rw [names, hfront, namesFrom_append_slash]
    exact List.mem_append_right _ (List.mem_singleton.2 rfl)

end Path

namespace FileTree

variable {tree : FileTree} {place start : Place} {base part packRoot counter other : String}

/-! ## The place of a script -/

/-- A path that can be followed to its end can be followed to each of its slashes. -/
theorem exists_place_of_append_slash (hbase : base ≠ "")
    (h : tree.place (base ++ "/" ++ part) = .ok place) :
    ∃ parent, tree.place base = .ok parent ∧
      (Path.names part).foldlM tree.enter parent = .ok place := by
  have htext := Path.toList_append_slash base part
  have hne : base.toList ≠ [] := mt String.toList_eq_nil_iff.1 hbase
  have habsolute : Path.isAbsolute (base ++ "/" ++ part) = Path.isAbsolute base := by
    rw [Path.isAbsolute, htext, List.head?_append_of_ne_nil _ hne]
    rfl
  unfold FileTree.place at h ⊢
  split at h
  · cases h
  next hnul =>
  split at h
  · cases h
  rw [habsolute, Path.names_append_slash, List.foldlM_append, Except.bind_eq_ok_iff] at h
  obtain ⟨parent, hparent, hplace⟩ := h
  refine ⟨parent, ?_, hplace⟩
  have hnul' : ¬ base.toList.contains '\x00' = true := by
    intro hmem
    apply hnul
    rw [List.contains_iff_mem] at hmem ⊢
    rw [htext]
    exact List.mem_append_left _ hmem
  rw [if_neg hnul', if_neg hbase]
  exact hparent

theorem eq_append_of_foldlM_enter {names : List String}
    (hplain : ∀ name ∈ names, name ≠ "" ∧ name ≠ "." ∧ name ≠ "..")
    (h : names.foldlM tree.enter start = .ok place) : place = start ++ names := by
  induction names generalizing start with
  | nil =>
    cases h
    rw [List.append_nil]
  | cons name names ih =>
    obtain ⟨hempty, hdot, hdots⟩ := hplain name List.mem_cons_self
    rw [List.foldlM_cons, Except.bind_eq_ok_iff] at h
    obtain ⟨next, hnext, hplace⟩ := h
    obtain ⟨-, rfl⟩ := enter_eq_ok_iff.1 hnext
    rw [ih (fun name hname => hplain name (List.mem_cons_of_mem _ hname)) hplace,
      if_neg (not_or.2 ⟨hempty, hdot⟩), if_neg hdots, List.append_assoc, List.singleton_append]

/-- The names of a plain counter are the directories between the songs and the script. -/
theorem exists_place_songs (h : Path.IsPlain counter)
    (hplace : tree.place (Path.script packRoot counter) = .ok place) :
    ∃ parent, tree.place (Path.songs packRoot) = .ok parent ∧
      place = parent ++ (Path.names counter ++ ["camera.mcfunction"]) := by
  rw [Path.script_eq_songs h.isInner] at hplace
  have hsongs : Path.songs packRoot ≠ "" :=
    Path.join_ne_empty_of_part (by decide)
  obtain ⟨parent, hparent, hfold⟩ := exists_place_of_append_slash hsongs hplace
  have hnames : Path.names (counter ++ "/camera.mcfunction") =
      Path.names counter ++ ["camera.mcfunction"] := by
    have hfile : Path.names "camera.mcfunction" = ["camera.mcfunction"] := by decide
    rw [← hfile, ← Path.names_append_slash, String.append_assoc]
    rfl
  refine ⟨parent, hparent, eq_append_of_foldlM_enter ?_ (hnames ▸ hfold)⟩
  intro name hname
  rcases List.mem_append.1 hname with hname | hname
  · exact h name hname
  · rw [List.mem_singleton] at hname
    subst hname
    decide

/-- The scripts of two plain counters lie in two places, if they lie anywhere. -/
theorem place_script_ne (h : Path.IsPlain counter) (h' : Path.IsPlain other)
    (hne : counter ≠ other) (hplace : tree.place (Path.script packRoot counter) = .ok place) :
    tree.place (Path.script packRoot other) ≠ tree.place (Path.script packRoot counter) := by
  rw [hplace]
  intro hother
  obtain ⟨parent, hparent, rfl⟩ := exists_place_songs h hplace
  obtain ⟨parent', hparent', heq⟩ := exists_place_songs h' hother
  cases hparent.symm.trans hparent'
  have hnames := List.append_cancel_right (List.append_cancel_left heq)
  exact hne (Path.names_injective hnames)

/-- A conversion for one counter leaves the script of another. -/
theorem read_converted_iff (tree : FileTree) (settings : Settings) (input : String)
    (h : Path.IsPlain counter) (h' : Path.IsPlain other) (hne : counter ≠ other)
    (found : Bytes) :
    (tree.converted settings counter input).2.read (Path.script settings.packRoot other) =
        .ok found ↔
      tree.read (Path.script settings.packRoot other) = .ok found := by
  rcases converted_cases tree settings counter input with ⟨_, -, htree⟩ | ⟨_, _, _, _, hwrite, _⟩
  · rw [htree]
  · have hreplaced := replacedAt_of_write hwrite
    obtain ⟨place, hplace, -⟩ := hreplaced.exists_place
    exact hreplaced.read_iff _ found (place_script_ne h h' hne hplace)

end FileTree

namespace Path

/-- **Songs do not overwrite each other.** The path of the script of an inner counter is the pack,
the songs in it, the counter and the name of the script, so that two such counters have two paths.
A counter that begins with a slash is a directory of its own, whatever the pack is. In a tree of
files a conversion for one plain counter leaves the script of another. -/
theorem scripts_apart :
    (∀ packRoot counter, IsInner counter →
      script packRoot counter =
        packRoot ++ slashBehind packRoot ++ "functions/songs/" ++ counter
          ++ "/camera.mcfunction") ∧
      (∀ packRoot counter other, IsInner counter → IsInner other →
        (script packRoot counter = script packRoot other ↔ counter = other)) ∧
      (∀ packRoot counter, counter.toList.head? = some '/' →
        script packRoot counter = counter ++ slashBehind counter ++ "camera.mcfunction") ∧
      ∀ (tree : FileTree) settings input counter other, IsPlain counter → IsPlain other →
        counter ≠ other → ∀ found,
          ((tree.converted settings counter input).2.read (script settings.packRoot other) =
              .ok found ↔
            tree.read (script settings.packRoot other) = .ok found) :=
  ⟨fun packRoot _ => script_of_isInner packRoot, fun packRoot _ _ => script_inj packRoot,
    fun packRoot _ => script_of_absolute packRoot,
    fun tree settings input _ _ => tree.read_converted_iff settings input⟩

/-- A pack with directories for two songs, and the script of one of them. -/
def twoSongs : FileTree where
  nodes :=
    [(["camera.vmd"], .file FileTree.singleTrack), (["BP"], .directory),
      (["BP", "functions"], .directory), (["BP", "functions", "songs"], .directory),
      (["BP", "functions", "songs", "s"], .directory),
      (["BP", "functions", "songs", "t"], .directory),
      (["BP", "functions", "songs", "t", "camera.mcfunction"], .file [0x74])]

/-- The script of one song is written, and that of the other is as it was. -/
theorem scripts_apart_twoSongs :
    IsPlain "s" ∧ IsPlain "t" ∧
      (∃ path, (twoSongs.converted { packRoot := "BP" } "s" "camera.vmd").1.result = .ok path) ∧
      (twoSongs.converted { packRoot := "BP" } "s" "camera.vmd").2.read
        "BP/functions/songs/t/camera.mcfunction" = .ok [0x74] ∧
      IsInner "act/one" ∧ IsInner "act/two" ∧
      script "BP/" "act/one" = "BP/functions/songs/act/one/camera.mcfunction" ∧
      script "BP/" "act/one" ≠ script "BP/" "act/two" ∧
      script "BP" "/act" = "/act/camera.mcfunction" := by
  obtain ⟨htext, hinj, habsolute, hkeeps⟩ := scripts_apart
  have hs : IsPlain "s" := by decide
  have ht : IsPlain "t" := by decide
  have hone : IsInner "act/one" := ⟨by decide, by decide, by decide⟩
  have htwo : IsInner "act/two" := ⟨by decide, by decide, by decide⟩
  have hother : script "BP" "t" = "BP/functions/songs/t/camera.mcfunction" :=
    htext "BP" "t" ht.isInner
  refine ⟨hs, ht, ?_, ?_, hone, htwo, htext "BP/" _ hone, ?_, habsolute "BP" "/act" (by decide)⟩
  · obtain ⟨compiled, hcompiled⟩ := FileTree.exists_script_singleTrack "BP" "s"
    have hread : twoSongs.read "camera.vmd" = .ok FileTree.singleTrack := by decide +kernel
    have hopen : ∃ after, twoSongs.write (script "BP" "s") compiled.text.toUTF8.toList =
        .ok after :=
      FileTree.exists_write_script_iff.2 ⟨["BP", "functions", "songs", "s"],
        by decide +kernel, by decide +kernel, by decide +kernel⟩
    obtain ⟨after, hwrite⟩ := hopen
    rw [FileTree.converted_of_write hread hcompiled hwrite]
    exact ⟨_, rfl⟩
  · rw [← hother]
    exact (hkeeps twoSongs { packRoot := "BP" } "camera.vmd" "s" "t" hs ht (by decide) [0x74]).2
      (by decide +kernel)
  · exact (hinj "BP/" _ _ hone htwo).not.2 (by decide)

end Path

end CameraScript
