/-!
# Paths

Paths are Unicode text, with slashes between the names. Nothing is simplified. A file system may
also have names of bytes that encode no text; there are no paths to these here.

* `Path.join`: a path inside another one. An absolute path stands for itself.
* `Path.script`: where the script of a counter lies in a pack.
* `Path.names`: the names of a path.
-/

namespace CameraScript.Path

def isAbsolute (path : String) : Bool := path.toList.head? = some '/'

/-- Whether a name may follow directly. -/
def isOpen (path : String) : Bool := path.toList.getLast?.all (· = '/')

def join (base part : String) : String :=
  if isAbsolute part then part
  else if isOpen base then base ++ part
  else base ++ "/" ++ part

def script (packRoot counter : String) : String :=
  join (join (join (join packRoot "functions") "songs") counter) "camera.mcfunction"

/-! ## Names -/

/-- The names in a text that goes on a name begun by `done`, which is kept backwards. -/
def namesFrom (done : List Char) : (text : List Char) → List String
  | [] => [String.ofList done.reverse]
  | c :: rest =>
    if c = '/' then String.ofList done.reverse :: namesFrom [] rest
    else namesFrom (c :: done) rest

/-- The names between the slashes. There is an empty one where a slash has nothing beside
it. -/
def names (path : String) : List String := namesFrom [] path.toList

end CameraScript.Path
