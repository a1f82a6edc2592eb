import Container.Hook
import Container.Mount.Apply

set_option autoImplicit false

/-!
# Creating a container

The root of a container is put together by privileged operations and then entered. Every step
has to succeed, except for the mounts that a container can do without; mounts made before a
step that fails are left for cleaning up.

## Main definitions

* `Engine` — a container with the shell that its hooks run through.
* `Engine.checked` — what has to hold before anything is done.
* `Engine.create` — the whole creation.
-/

namespace Container

variable {σ : Type}

/-- A container, and the shell that its hooks run through. -/
structure Engine where
  identity : Identity
  config : Config
  shell : Path := Hook.defaultShell

namespace Engine

/-- The name of this engine. Descriptions made for another one are refused. -/
def engineName : String := "shroud"

/-- Fails if the description is made for another engine. -/
def checkName (engine : Engine) : Act σ Unit :=
  if engine.identity.engineName = engineName then return
  else Act.fail (.engineMismatch engineName engine.identity.engineName)

/-- Fails if the root is not a directory. -/
def checkRootfs (sys : System σ) (engine : Engine) : Act σ Unit := do
  let rootfs := engine.config.rootfs
  let info ← Act.call (sys.stat rootfs) (.stat rootfs)
  if info.isDir then return else Act.fail (.notADirectory rootfs)

/-- The mounts of the container, where everything that has to hold before does. -/
def checked (sys : System σ) (engine : Engine) : Act σ MountPlan := do
  engine.checkName
  engine.checkRootfs sys
  match MountPlan.forContainer engine.config with
  | .ok plan => return plan
  | .error fault => Act.fail (.config fault)

/-- Changes the working directory. -/
def changeDir (sys : System σ) (path : Path) : Act σ Unit :=
  Act.call (sys.changeDir path) (.chdir path)

/-- Runs the hooks of a phase. -/
def runHooks (sys : System σ) (engine : Engine) (phase : String) : Act σ Unit :=
  Hook.runPhase sys engine.shell phase (engine.config.recipe.scripts phase)

/-- Makes the directories for temporary files, for a container that has its own. -/
def makeTmpDirs (sys : System σ) (engine : Engine) : Act σ Unit :=
  if engine.config.mountTmp && engine.config.contain then
    (MountPlan.tmpSources engine.config).forM fun (source, _) => Act.call (sys.makeDirs source) .io
  else return

/-- Enters the root. The capability is not needed after that. -/
def enter (sys : System σ) (ops : Privileged σ) (engine : Engine) : Act σ Unit := do
  let session := engine.config.layout.sessionDir
  sys.report .debug .creation "chdir into session directory" [("dir", .shown session.display)]
  changeDir sys session
  sys.report .debug .creation "chroot into session directory" [("dir", .shown session.display)]
  let _ ← ops.chroot session
  changeDir sys "/"
  ops.close

/-- Puts the root of the container together and enters it. -/
def create (sys : System σ) (ops : Privileged σ) (engine : Engine) : Act σ Unit := do
  let plan ← engine.checked sys
  engine.runHooks sys Phase.pre
  engine.makeTmpDirs sys
  sys.report .debug .creation "mounting image directory"
    [("rootfs", .shown engine.config.rootfs.display)]
  plan.apply sys ops
  engine.runHooks sys Phase.setup
  engine.enter sys ops
  sys.report .info .creation "container created"
    [("container", .shown engine.identity.containerId)]

end Engine
end Container
