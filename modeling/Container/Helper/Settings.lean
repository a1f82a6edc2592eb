import Container.Config.Basic
import Container.Datum.Record
import Container.System

set_option autoImplicit false

/-!
# Settings of a helper

Where a helper listens, and who may connect there.

## Main definitions

* `HelperSettings` — the settings, with `HelperSettings.default`.
* `HelperSettings.load` — the settings in a document, or the default ones.
* `defaultSocket` — where a helper listens unless told otherwise.
-/

namespace Container

open Datum

variable {σ : Type}

/-- Where a helper listens unless told otherwise. -/
def defaultSocket (env : Environment) : Path :=
  env.pathOr "SHROUD_HELPER_SOCKET" "/run/shroud/helper.sock"

/-- Where a helper listens, and the permission bits of its socket. -/
structure HelperSettings where
  socketPath : Path
  socketMode : UInt32
  deriving DecidableEq

namespace HelperSettings

/-- The settings used where nothing is said: only the owner may connect. -/
def default (env : Environment) : HelperSettings := ⟨defaultSocket env, 0o600⟩

/-- The form of the settings. -/
def shape : Shape := ⟨"struct HelperConfig",
  [.of "socket_path" readPath .defaulted, .of "socket_mode" readUInt32 .defaulted]⟩

/-- The settings. -/
def read (default : HelperSettings) (d : Datum) : Reading HelperSettings := do
  let found ← shape.collect .json d
  let socketPath ← found.withDefault "socket_path" default.socketPath readPath
  let socketMode ← found.withDefault "socket_mode" default.socketMode readUInt32
  return ⟨socketPath, socketMode⟩

/-- The value of the settings. -/
def toDatum? (settings : HelperSettings) : Option Datum := do
  return .record [("socket_path", ← ofPath? settings.socketPath),
    ("socket_mode", .nat settings.socketMode.toNat)]

/-- The settings in a document, or the default ones where there is none. -/
def load (sys : System σ) (env : Environment) : Option Path → Act σ HelperSettings
  | none => return default env
  | some path => do
    let content ← Act.call (sys.readFile path) .io
    match Json.parse (read (default env)) content with
    | .ok settings => return settings
    | .error error => Act.fail (.document (.unreadable error))

end HelperSettings
end Container
