import Container.Config.Recipe
import Container.Environment

set_option autoImplicit false

/-!
# Container descriptions

What a container is: which program runs in it, what its root is made of, which hooks run while
it is set up, and which resources it holds that have to be given back.

## Main definitions

* `Program`, `Identity` — the program of a container, and whose it is.
* `Layout` — the directories in which the root is put together.
* `Config` — everything the engine has to know.
* `Description` — a whole container, with `Description.fault?` for what it must not lack.
-/

namespace Container

/-- A program with its arguments, the first of which is its own path, and its environment as a
list of settings `NAME=VALUE`. -/
structure Program where
  arguments : List String
  environment : List String
  deriving DecidableEq

/-- Who a container is: its id, the name of the engine it is made for, and its program. -/
structure Identity where
  containerId : String
  engineName : String
  program : Program
  deriving DecidableEq

/-- The network namespaces made for a container. -/
structure Network where
  namespaces : List String
  deriving DecidableEq

/-- The control group made for a container. -/
structure Cgroup where
  path : Path
  deriving DecidableEq

/-- A path of the host that is also seen inside the container. -/
structure Bind where
  source : Path
  target? : Option Path
  deriving DecidableEq

/-- Where a bound path is seen inside the container: where it is on the host, unless said
otherwise. -/
def Bind.destination (bind : Bind) : Path := bind.target?.getD bind.source

/-- The directory in which the root of a container is put together, and the one from which it
is entered. -/
structure Layout where
  sessionDir : Path
  finalDir : Path
  deriving DecidableEq

namespace Layout

/-- The directories used where a description names none. -/
def default (env : Environment) : Layout where
  sessionDir := env.pathOr "SHROUD_SESSION_DIR" "/var/lib/shroud/mnt/session"
  finalDir := env.pathOr "SHROUD_FINAL_DIR" "/var/lib/shroud/mnt/final"

/-- Where the overlay of an encrypted root is mounted. -/
def overlayMount (layout : Layout) : Path := layout.sessionDir.join "final"

/-- Where an encrypted root itself is mounted. -/
def rootfsMount (layout : Layout) : Path := layout.sessionDir.join "rootfs"

end Layout

/-- Everything the engine has to know about a container. -/
structure Config where
  /-- The directory that becomes the root. -/
  rootfs : Path
  /-- The file that the root came from. -/
  image : Path
  recipe : Recipe
  network? : Option Network
  cgroup? : Option Cgroup
  /-- The encrypted device behind the root. -/
  cryptDevice? : Option Path
  /-- Whether cleaning up removes the image. -/
  deleteImage : Bool
  /-- Whether there is a record of the running container. -/
  hasRecord : Bool
  /-- Whether the network was set up with raised privilege. -/
  fakeroot : Bool
  /-- Whether the container sees directories for temporary files. -/
  mountTmp : Bool
  /-- Whether these are its own rather than those of the host. -/
  contain : Bool
  binds : List Bind
  layout : Layout

/-- The configuration in force where a description says nothing. -/
def Config.default (env : Environment) : Config where
  rootfs := .empty
  image := .empty
  recipe := .empty
  network? := none
  cgroup? := none
  cryptDevice? := none
  deleteImage := false
  hasRecord := false
  fakeroot := false
  mountTmp := false
  contain := false
  binds := []
  layout := .default env

/-- A whole container. -/
structure Description where
  identity : Identity
  config : Config

/-- What a description must not lack. -/
inductive Description.Fault where
  | noContainerId
  | noEngineName
  deriving DecidableEq

/-- The wording of what a description lacks. -/
def Description.Fault.message : Description.Fault → String
  | .noContainerId => "container_id is empty"
  | .noEngineName => "engine_name is empty"

/-- The first thing that a description lacks. -/
def Description.fault? (description : Description) : Option Description.Fault :=
  if description.identity.containerId.isEmpty then some .noContainerId
  else if description.identity.engineName.isEmpty then some .noEngineName
  else none

/-! ## Building a configuration -/

namespace Config

/-- Adds a script to a phase. -/
def withScript (config : Config) (phase script : String) : Config :=
  { config with recipe := config.recipe.push phase script }

/-- Sees a path of the host inside the container. -/
def withBind (config : Config) (source : Path) (target? : Option Path) : Config :=
  { config with binds := config.binds ++ [⟨source, target?⟩] }

/-- Decides on the directories for temporary files. -/
def withTmp (config : Config) (mount contain : Bool) : Config :=
  { config with mountTmp := mount, contain := contain }

end Config
end Container
