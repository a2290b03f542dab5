import CameraScript.FileTree
import CameraScript.Proofs.Outcome

/-!
# Reading and writing in a tree of files

A write by path changes what lies at one place, or nothing. A path is followed through
directories, and no directory is made or lost by a write, so all paths lead where they did.

* `FileTree.place_put_eq_ok_iff`: a file that is put where no directory is diverts no path.
* `FileTree.ReplacedAt`: a tree and what becomes of it when one file is made or replaced.
  `FileTree.replacedAt_of_write`: this is what a write does.
* `FileTree.place_join`: a name in a directory leads into the place of the directory.
* `FileTree.exists_write_join_iff`: a file can be written exactly where its directory is there
  and no directory has its name.
-/

namespace CameraScript

/-- Steps that succeed alike succeed alike one after the other. -/
theorem Except.foldlM_eq_ok_iff_of_step {ε α β : Type} {f g : β → α → Except ε β}
    (h : ∀ b a c, f b a = .ok c ↔ g b a = .ok c) {xs : List α} {b c : β} :
    xs.foldlM f b = .ok c ↔ xs.foldlM g b = .ok c := by
  induction xs generalizing b with
  | nil => exact Iff.rfl
  | cons x xs ih =>
    rw [List.foldlM_cons, List.foldlM_cons, bind_eq_ok_iff, bind_eq_ok_iff]
    exact exists_congr fun next => and_congr (h b x next) ih

/-! ## Names in a directory -/

namespace Path

variable {base part : String}

theorem namesFrom_append_slash (done text rest : List Char) :
    namesFrom done (text ++ '/' :: rest) = namesFrom done text ++ namesFrom [] rest := by
  induction text generalizing done with
  | nil => rfl
  | cons c text ih =>
    rw [List.cons_append, namesFrom, namesFrom]
    split
    · rw [ih, List.cons_append]
    · exact ih (c :: done)

theorem namesFrom_of_notMem {text : List Char} (h : '/' ∉ text) (done : List Char) :
    namesFrom done text = [String.ofList (done.reverse ++ text)] := by
  induction text generalizing done with
  | nil => rw [namesFrom, List.append_nil]
  | cons c text ih =>
    rw [namesFrom, if_neg (Ne.symm (List.ne_of_not_mem_cons h)),
      ih (List.not_mem_of_not_mem_cons h), List.reverse_cons, List.append_assoc]
    rfl

theorem join_ne_empty_of_part (h : part ≠ "") : join base part ≠ "" := by
  unfold join
  split
  · exact h
  split
  · exact fun heq => h (String.append_eq_empty_iff.1 heq).2
  · exact fun heq => h (String.append_eq_empty_iff.1 heq).2

theorem join_ne_empty_of_base (h : base ≠ "") : join base part ≠ "" := by
  unfold join
  split
  · next habsolute =>
    rintro rfl
    exact absurd habsolute (by decide)
  split
  · exact fun heq => h (String.append_eq_empty_iff.1 heq).1
  · intro heq
    exact h (String.append_eq_empty_iff.1 (String.append_eq_empty_iff.1 heq).1).1

theorem isAbsolute_of_slash_notMem (h : '/' ∉ part.toList) : isAbsolute part = false := by
  unfold isAbsolute
  rw [decide_eq_false_iff_not]
  exact fun hhead => h (List.mem_of_head? hhead)

theorem toList_append_slash (base part : String) :
    (base ++ "/" ++ part).toList = base.toList ++ '/' :: part.toList := by
  rw [String.toList_append, String.toList_append, List.append_assoc]
  rfl

theorem toList_join (h : '/' ∉ part.toList) :
    (join base part).toList =
      if isOpen base then base.toList ++ part.toList else base.toList ++ '/' :: part.toList := by
  have habsolute : ¬ isAbsolute part = true := by simp [isAbsolute_of_slash_notMem h]
  rw [join, if_neg habsolute]
  split
  · exact String.toList_append
  · exact toList_append_slash base part

theorem exists_eq_append_slash (hbase : base ≠ "") (hopen : isOpen base = true) :
    ∃ front, base.toList = front ++ ['/'] := by
  unfold isOpen at hopen
  cases hlast : base.toList.getLast? with
  | none =>
    rw [List.getLast?_eq_none_iff, String.toList_eq_nil_iff] at hlast
    exact absurd hlast hbase
  | some c =>
    rw [hlast, Option.all_some, decide_eq_true_iff] at hopen
    subst hopen
    exact List.getLast?_eq_some_iff.1 hlast

/-- A name in a directory is the last one of the path. It takes the place of the empty name behind
a slash at the end. -/
theorem names_join (hbase : base ≠ "") (h : '/' ∉ part.toList) :
    names (join base part) = names base ++ [part] ∨
      ∃ front, names base = front ++ [""] ∧ names (join base part) = front ++ [part] := by
  have hpart : namesFrom [] part.toList = [part] := by
    rw [namesFrom_of_notMem h, List.reverse_nil, List.nil_append, String.ofList_toList]
  have hjoin : (join base part).toList = _ := toList_join h
  unfold names
  rw [hjoin]
  split
  · next hopen =>
    -- Behind the slash at the end of `base` there is one more name, which is empty.
    obtain ⟨front, hfront⟩ := exists_eq_append_slash hbase hopen
    refine .inr ⟨namesFrom [] front, ?_, ?_⟩
    · rw [hfront, namesFrom_append_slash]
      rfl
    · rw [hfront, List.append_assoc, List.singleton_append, namesFrom_append_slash, hpart]
  · refine .inl ?_
    rw [namesFrom_append_slash, hpart]

end Path

namespace FileTree

variable {tree after : FileTree} {path base name : String} {place other : Place}
  {contents : Bytes}

/-! ## Following paths -/

/-- From a place that is no directory no name leads on, and all fail alike. -/
theorem exists_enter_eq_error {parent : Place} (h : tree.node? parent ≠ some .directory) :
    ∃ e, ∀ name, tree.enter parent name = .error e := by
  unfold enter
  cases hnode : tree.node? parent with
  | none => exact ⟨.notFound, fun _ => rfl⟩
  | some node =>
    cases node with
    | file contents => exact ⟨.notDirectory, fun _ => rfl⟩
    | directory => exact absurd hnode h

theorem enter_of_directory {parent : Place} (h : tree.node? parent = some .directory)
    (name : String) :
    tree.enter parent name = .ok (if name = "" ∨ name = "." then parent
      else if name = ".." then parent.dropLast
      else parent ++ [name]) := by
  rw [enter, h]
  dsimp only
  split
  · rfl
  split
  · rfl
  · rfl

theorem enter_eq_ok_iff {parent : Place} :
    tree.enter parent name = .ok place ↔
      tree.node? parent = some .directory ∧
        (if name = "" ∨ name = "." then parent
          else if name = ".." then parent.dropLast
          else parent ++ [name]) = place := by
  by_cases h : tree.node? parent = some .directory
  · rw [enter_of_directory h, Except.ok.injEq]
    exact (and_iff_right h).symm
  · obtain ⟨e, herror⟩ := exists_enter_eq_error h
    rw [herror]
    exact iff_of_false nofun fun hok => h hok.1

/-- A path may be taken apart at its slashes: an empty name stays where it is. -/
theorem enter_empty_bind (parent : Place) (name : String) :
    (tree.enter parent "" >>= fun place => tree.enter place name) = tree.enter parent name := by
  by_cases h : tree.node? parent = some .directory
  · rw [enter_of_directory h "", if_pos (.inl rfl)]
    rfl
  · obtain ⟨e, herror⟩ := exists_enter_eq_error h
    rw [herror, herror]
    rfl

theorem node?_put_eq_directory_iff (h : tree.node? place ≠ some .directory) :
    (tree.put place (.file contents)).node? other = some .directory ↔
      tree.node? other = some .directory := by
  have hne : place ≠ [] := by
    rintro rfl
    exact h rfl
  rw [node?_put hne]
  split
  · next heq =>
    subst heq
    simp [h]
  · exact Iff.rfl

theorem place_put_eq_ok_iff (h : tree.node? place ≠ some .directory) :
    (tree.put place (.file contents)).place path = .ok other ↔ tree.place path = .ok other := by
  -- A path through the changed place itself fails in both trees, but not alike: a file that is
  -- made turns a missing directory into something that is none.
  have hstep (parent : Place) (name : String) (next : Place) :
      (tree.put place (.file contents)).enter parent name = .ok next ↔
        tree.enter parent name = .ok next := by
    rw [enter_eq_ok_iff, enter_eq_ok_iff, node?_put_eq_directory_iff h]
  unfold FileTree.place
  split
  · simp
  split
  · simp
  · exact Except.foldlM_eq_ok_iff_of_step hstep

/-! ## Reading and writing -/

theorem read_eq_ok_iff :
    tree.read path = .ok contents ↔
      ∃ place, tree.place path = .ok place ∧ tree.node? place = some (.file contents) := by
  rw [read, Except.bind_eq_ok_iff]
  refine exists_congr fun place => and_congr_right fun _ => ?_
  split
  · next found hfound =>
    rw [hfound, Option.some.injEq, Node.file.injEq]
    exact Iff.of_eq (Except.ok.injEq found contents)
  · next hdirectory =>
    rw [hdirectory]
    exact iff_of_false nofun nofun
  · next hnone =>
    rw [hnone]
    exact iff_of_false nofun nofun

theorem write_of_place_error {e : FileError} (h : tree.place path = .error e) :
    tree.write path contents = .error e := by
  rw [write, h]
  rfl

theorem write_eq_ok_iff :
    tree.write path contents = .ok after ↔
      ∃ place, tree.place path = .ok place ∧ tree.node? place ≠ some .directory ∧
        tree.put place (.file contents) = after := by
  rw [write, Except.bind_eq_ok_iff]
  refine exists_congr fun place => and_congr_right fun _ => ?_
  split
  · next hnode => exact iff_of_false nofun fun h => h.1 hnode
  · next hnode =>
    constructor
    · intro h
      exact ⟨hnode, Except.ok.inj h⟩
    · intro h
      exact congrArg Except.ok h.2

/-- The second tree has a file with these contents at `path`, and is otherwise the first: at
every other place lies what lay there, and a path that leads elsewhere is read as before. -/
structure ReplacedAt (tree after : FileTree) (path : String) (contents : Bytes) : Prop where
  read_eq : after.read path = .ok contents
  workingDirectory_eq : after.workingDirectory = tree.workingDirectory
  exists_place : ∃ place, tree.place path = .ok place ∧ after.place path = .ok place ∧
    ∀ other, other ≠ place → after.node? other = tree.node? other
  read_iff : ∀ other found, tree.place other ≠ tree.place path →
    (after.read other = .ok found ↔ tree.read other = .ok found)

/-- **A write** changes one file and nothing else. -/
theorem replacedAt_of_write (h : tree.write path contents = .ok after) :
    tree.ReplacedAt after path contents := by
  obtain ⟨place, hplace, hnode, rfl⟩ := write_eq_ok_iff.1 h
  have hne : place ≠ [] := by
    rintro rfl
    exact hnode rfl
  have hplace' : (tree.put place (.file contents)).place path = .ok place :=
    (place_put_eq_ok_iff hnode).2 hplace
  refine ⟨?_, rfl, ⟨place, hplace, hplace', fun other hother => ?_⟩, fun other found hother => ?_⟩
  · rw [read_eq_ok_iff]
    exact ⟨place, hplace', by rw [node?_put hne, if_pos rfl]⟩
  · rw [node?_put hne, if_neg hother]
  · rw [read_eq_ok_iff, read_eq_ok_iff]
    refine exists_congr fun found => ?_
    rw [place_put_eq_ok_iff hnode]
    refine and_congr_right fun hfound => ?_
    have hfound' : found ≠ place := by
      rintro rfl
      exact hother (hfound.trans hplace.symm)
    rw [node?_put hne, if_neg hfound']

/-! ## Files in a directory -/

theorem foldlM_names_join (start : Place) (hbase : base ≠ "") (hslash : '/' ∉ name.toList) :
    (Path.names (Path.join base name)).foldlM tree.enter start =
      (Path.names base).foldlM tree.enter start >>= fun parent => tree.enter parent name := by
  rcases Path.names_join hbase hslash with hnames | ⟨front, hfront, hnames⟩
  · rw [hnames, List.foldlM_append]
    simp only [List.foldlM_cons, List.foldlM_nil, bind_pure]
  · rw [hnames, hfront, List.foldlM_append, List.foldlM_append, bind_assoc]
    simp only [List.foldlM_cons, List.foldlM_nil, bind_pure, enter_empty_bind]

theorem place_join (hbase : base ≠ "") (hslash : '/' ∉ name.toList)
    (hnul : '\x00' ∉ name.toList) :
    tree.place (Path.join base name) =
      tree.place base >>= fun parent => tree.enter parent name := by
  have hjoin : (Path.join base name).toList = _ := Path.toList_join hslash
  have hcontains : (Path.join base name).toList.contains '\x00' = base.toList.contains '\x00' := by
    rw [hjoin]
    split <;> simp [hnul]
  have habsolute : Path.isAbsolute (Path.join base name) = Path.isAbsolute base := by
    have hne : base.toList ≠ [] := by simpa using hbase
    unfold Path.isAbsolute
    rw [hjoin]
    split <;> rw [List.head?_append_of_ne_nil _ hne]
  unfold FileTree.place
  rw [hcontains, habsolute, if_neg hbase, if_neg (Path.join_ne_empty_of_base hbase)]
  split
  · rfl
  · exact foldlM_names_join _ hbase hslash

/-- A file can be written into a directory that is there, unless a directory has its name. -/
theorem exists_write_join_iff (hbase : base ≠ "") (hslash : '/' ∉ name.toList)
    (hnul : '\x00' ∉ name.toList) (hdots : name ≠ "" ∧ name ≠ "." ∧ name ≠ "..") :
    (∃ after, tree.write (Path.join base name) contents = .ok after) ↔
      ∃ parent, tree.place base = .ok parent ∧ tree.node? parent = some .directory ∧
        tree.node? (parent ++ [name]) ≠ some .directory := by
  have henter (parent place : Place) : tree.enter parent name = .ok place ↔
      tree.node? parent = some .directory ∧ parent ++ [name] = place := by
    rw [enter_eq_ok_iff]
    simp [hdots]
  simp only [write_eq_ok_iff, place_join hbase hslash hnul, Except.bind_eq_ok_iff, henter]
  constructor
  · rintro ⟨_, _, ⟨parent, hparent, hdirectory, rfl⟩, hnode, -⟩
    exact ⟨parent, hparent, hdirectory, hnode⟩
  · rintro ⟨parent, hparent, hdirectory, hnode⟩
    exact ⟨_, _, ⟨parent, hparent, hdirectory, rfl⟩, hnode, rfl⟩

end FileTree

end CameraScript
