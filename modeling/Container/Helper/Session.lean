import Container.Helper.Service
import Container.Helper.Settings
import Container.Privileged.InProcess

set_option autoImplicit false

/-!
# A helper from beginning to end

A helper reads its settings, makes sure that it has the privilege to do its work, listens, and
serves one engine.

## Main definitions

* `HelperSession.prepare` — all that comes before listening is done.
* `HelperSession.run` — a whole session.
-/

namespace Container.HelperSession

variable {σ : Type}

/-- The variable that names the document with the settings. -/
def settingsVariable : String := "SHROUD_HELPER_CONFIG"

/-- Removes what an earlier helper left at the path of the socket. -/
def removeStale (sys : System σ) (socket : Path) : Act σ Unit := do
  match ← sys.removeFile socket with
  | .ok () => return
  | .error fault => if fault.isNotFound then return else Act.fail (.io fault)

/-- Reads the settings, takes hold of the operations, and listens. -/
def prepare (sys : System σ) (env : Environment) (closed : Slot σ Bool) :
    Act σ (HelperSettings × Privileged σ) := do
  sys.report .info .helperMain "shroud-helper starting"
  let settings ← HelperSettings.load sys env ((env.get? settingsVariable).map Path.mk)
  sys.report .info .helperMain "configuration loaded"
    [("socket", .marked settings.socketPath.quoted)]
  let ops ← Privileged.openInProcess sys closed
  if let some parent := settings.socketPath.parent? then
    Act.call (sys.makeDirs parent) .io
  removeStale sys settings.socketPath
  Act.call (sys.listen settings.socketPath) .io
  Act.call (sys.setMode settings.socketPath settings.socketMode) .io
  sys.report .info .helperMain "listening" [("socket", .marked settings.socketPath.quoted)]
  return (settings, ops)

/-- A whole session, in which these events happen once the helper listens. The answer is where
the helper came to, and all that it sent. -/
def run (sys : System σ) (env : Environment) (closed entered : Slot σ Bool)
    (events : List ServiceEvent) : Act σ (Service × Bytes) := do
  let (settings, ops) ← prepare sys env closed
  let (service, answers) ←
    Service.run sys settings.socketPath ⟨ops, entered⟩ .listening events
  sys.report .info .helperMain "engine session finished"
  return (service, answers)

end Container.HelperSession
