import CameraScript.Files
import CameraScript.Path
import CameraScript.Script
import CameraScript.Settings.Document

/-!
# Converting files

* `Settings.load`: the settings in a file.
* `convert`: compiles a motion file and writes the script into its pack. Nothing is written
  if anything before fails.
-/

namespace CameraScript

variable {m : Type → Type} [Monad m] [Files m]

def Settings.ofBytes (contents : Bytes) : Except Fault Settings :=
  match String.fromUTF8? (ByteArray.mk contents.toArray) with
  | some text => Settings.ofText text
  | none => .error (.file .notUtf8)

def Settings.load (path : String) : m (Except Fault Settings) := do
  match ← Files.read path with
  | .ok contents => return Settings.ofBytes contents
  | .error e => return .error (.file e)

/-- The path of the script, and the log of the run. -/
def convert (settings : Settings) (counter input : String) : m (Logged String) := do
  match ← Files.read input with
  | .error e => return .fail (.file e)
  | .ok contents =>
    let run := Script.ofBytes settings counter contents
    match run.result with
    | .error fault => return ⟨run.events, .error fault⟩
    | .ok script =>
      let path := Path.script settings.packRoot counter
      match ← Files.write path script.text.toUTF8.toList with
      | .error e => return ⟨run.events, .error (.file e)⟩
      | .ok () => return ⟨run.events ++ [.wrote path], .ok path⟩

end CameraScript
