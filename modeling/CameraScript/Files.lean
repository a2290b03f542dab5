import CameraScript.Bytes
import CameraScript.Fault

/-!
# Access to files

* `Files m`: the two things that runs in `m` do with files. Each is done in one step: a
  write that fails changes nothing.
-/

namespace CameraScript

class Files (m : Type → Type) where
  read : (path : String) → m (Except FileError Bytes)
  write : (path : String) → (contents : Bytes) → m (Except FileError Unit)

end CameraScript
