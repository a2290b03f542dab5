import CameraScript.Files
import CameraScript.Path

/-!
# Trees of files

* `FileTree`: directories and files by their place, which is the list of names from the
  root, and the working directory that relative paths start from.
* `FileTree.place`: the place that a path leads to.
* `FileTree.read`, `FileTree.write`: access by path.
* `FileTree.node?_put`: a changed tree differs at the changed place only.
-/

namespace CameraScript

inductive Node
  | directory
  | file (contents : Bytes)
  deriving DecidableEq, Repr

abbrev Place := List String

structure FileTree where
  nodes : List (Place × Node) := []
  workingDirectory : Place := []

namespace FileTree

/-! ## Places -/

/-- What lies at a place. The root is always a directory. -/
def node? (tree : FileTree) : Place → Option Node
  | [] => some .directory
  | place => tree.nodes.lookup place

/-- The tree with `node` at a place other than the root. -/
def put (tree : FileTree) (place : Place) (node : Node) : FileTree :=
  { tree with nodes := (place, node) :: tree.nodes.filter (·.1 ≠ place) }

theorem lookup_filter_ne {nodes : List (Place × Node)} {place other : Place}
    (h : other ≠ place) :
    (nodes.filter (·.1 ≠ place)).lookup other = nodes.lookup other := by
  induction nodes with
  | nil => rfl
  | cons entry nodes ih =>
    obtain ⟨found, node⟩ := entry
    by_cases hf : found = place
    · have hne : (other == found) = false := by simpa [hf] using h
      rw [List.filter_cons_of_neg (by simpa using hf), List.lookup_cons, hne, ih]
    · rw [List.filter_cons_of_pos (by simpa using hf), List.lookup_cons, List.lookup_cons, ih]

theorem node?_put {tree : FileTree} {place : Place} {node : Node} (h : place ≠ [])
    (other : Place) :
    (tree.put place node).node? other = if other = place then some node else tree.node? other := by
  cases other with
  | nil => simp [node?, Ne.symm h]
  | cons name names =>
    by_cases ho : name :: names = place
    · simp [node?, put, ho]
    · have hne : (name :: names == place) = false := by simpa using ho
      simp only [node?, put, List.lookup_cons, hne, if_neg ho]
      exact lookup_filter_ne ho

/-! ## Paths -/

/-- The place of `name` seen from a place, which has to be a directory. -/
def enter (tree : FileTree) (place : Place) (name : String) : Except FileError Place :=
  match tree.node? place with
  | none => .error .notFound
  | some (.file _) => .error .notDirectory
  | some .directory =>
    if name = "" ∨ name = "." then .ok place
    else if name = ".." then .ok place.dropLast
    else .ok (place ++ [name])

/-- The place that a path leads to. There may be nothing there yet. -/
def place (tree : FileTree) (path : String) : Except FileError Place :=
  if path.toList.contains '\x00' then .error .nulInPath
  else if path = "" then .error .notFound
  else
    let start := if Path.isAbsolute path then [] else tree.workingDirectory
    (Path.names path).foldlM tree.enter start

def read (tree : FileTree) (path : String) : Except FileError Bytes := do
  match tree.node? (← tree.place path) with
  | some (.file contents) => return contents
  | some .directory => throw .isDirectory
  | none => throw .notFound

/-- The tree with a file made or replaced. -/
def write (tree : FileTree) (path : String) (contents : Bytes) : Except FileError FileTree := do
  let place ← tree.place path
  match tree.node? place with
  | some .directory => throw .isDirectory
  | _ => return tree.put place (.file contents)

instance : Files (StateM FileTree) where
  read path := do return (← get).read path
  write path contents := do
    match (← get).write path contents with
    | .ok tree =>
      set tree
      return .ok ()
    | .error e => return .error e

end FileTree

end CameraScript
