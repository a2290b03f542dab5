import CameraScript.Command
import CameraScript.Timeline

/-!
# Settings

* `Settings`: what decides how keyframes become commands, and where the script belongs.
-/

namespace CameraScript

structure Settings where
  /-- The pack that the script is written into. -/
  packRoot : String := "./packs/BP"
  timebase : Timebase := {}
  transform : Transform := {}
  template : Template := {}

end CameraScript
