import Container.Engine.Creation
import Container.Teardown.Cgroup
import Container.Teardown.Crypt
import Container.Teardown.Network
import Container.Teardown.Registry

set_option autoImplicit false

/-!
# Cleaning up after a container

Whatever a container may have come to hold is given back in a fixed order of steps. A step that
fails is noted and the next one is taken, except for the record of the container: it has to
agree with what is running, so cleaning up ends when it cannot be removed.

## Main definitions

* `CleanupStep` — the steps, with `CleanupStep.order` and `CleanupStep.isAbortive`.
* `Teardown` — those by whom things are given back.
* `CleanupReport` — what became of each step.
* `Engine.cleanup` — the whole of it.
-/

namespace Container

variable {σ : Type}

/-- A step of cleaning up. -/
inductive CleanupStep where
  | image | network | cgroup | record | crypt
  deriving DecidableEq

namespace CleanupStep

/-- The steps in the order in which they are taken. -/
def order : List CleanupStep := [.image, .network, .cgroup, .record, .crypt]

/-- The name of a step. -/
def name : CleanupStep → String
  | .image => "image"
  | .network => "network"
  | .cgroup => "cgroup"
  | .record => "instance"
  | .crypt => "crypt"

/-- Whether cleaning up ends when a step fails. -/
def isAbortive : CleanupStep → Bool
  | .record => true
  | _ => false

/-- Whether a container needs a step. -/
def applies (config : Config) : CleanupStep → Bool
  | .image => config.deleteImage
  | .network => config.network?.isSome
  | .cgroup => config.cgroup?.isSome
  | .record => config.hasRecord
  | .crypt => config.cryptDevice?.isSome

end CleanupStep

/-- Those by whom things are given back. Finding a record answers how to remove it. -/
structure Teardown (σ : Type) where
  elevation : Elevation σ
  deleteNetwork : Network → Act σ Unit
  removeCgroup : Cgroup → Act σ Unit
  findRecord : String → String → Act σ (Act σ Unit)
  crypt : CryptTeardown.Steps σ

/-- A step that was taken, and why it failed if it did. -/
structure StepOutcome where
  step : CleanupStep
  failure? : Option Failure

/-- The steps that were taken, in order, and how the container itself had ended. -/
structure CleanupReport where
  status : ExitStatus
  outcomes : List StepOutcome

namespace CleanupReport

/-- The steps that were taken. -/
def attempted (report : CleanupReport) : List CleanupStep := report.outcomes.map (·.step)

/-- The steps that failed. -/
def failures (report : CleanupReport) : List StepOutcome :=
  report.outcomes.filter (·.failure?.isSome)

/-- Whether no step failed. -/
def isClean (report : CleanupReport) : Bool := report.failures.isEmpty

end CleanupReport

namespace Engine

/-- Removes the image, which may be a file or a directory, or gone already. -/
def removeImage (sys : System σ) (engine : Engine) : Act σ Unit := do
  let image := engine.config.image
  sys.report .info .cleanup "cleaning up image" [("image", .shown image.display)]
  let removed ← match ← sys.linkStat image with
    | .ok info => if info.isDir then sys.removeTree image else sys.removeFile image
    | .error fault => pure (.error fault)
  match removed with
  | .ok () => return
  | .error fault =>
    if fault.isNotFound then
      sys.report .debug .cleanup "image already gone" [("image", .shown image.display)]
    else Act.fail (.io fault)

/-- Takes a step. -/
def runStep (sys : System σ) (teardown : Teardown σ) (engine : Engine) :
    CleanupStep → Act σ Unit
  | .image => engine.removeImage sys
  | .network =>
    match engine.config.network? with
    | none => return
    | some network =>
      if engine.config.fakeroot then
        teardown.elevation.bracket sys (teardown.deleteNetwork network)
      else teardown.deleteNetwork network
  | .cgroup =>
    match engine.config.cgroup? with
    | none => return
    | some cgroup => teardown.removeCgroup cgroup
  | .record => do
    let delete ← teardown.findRecord engine.identity.containerId Registry.engineKind
    delete
  | .crypt =>
    match engine.config.cryptDevice? with
    | none => return
    | some device =>
      CryptTeardown.release sys teardown.elevation teardown.crypt engine.config.layout device

/-- Takes steps one after the other, and answers what became of each. -/
def runSteps (sys : System σ) (teardown : Teardown σ) (engine : Engine) :
    List CleanupStep → Act σ (List StepOutcome)
  | [] => return []
  | step :: steps => do
    match ← (engine.runStep sys teardown step).guarded with
    | .ok () => return ⟨step, none⟩ :: (← engine.runSteps sys teardown steps)
    | .error f =>
      if step.isAbortive then Act.fail (.cleanup step.name f)
      else
        sys.report .error .cleanup "cleanup step failed"
          [("step", .text step.name), ("error", .shown f.message)]
        return ⟨step, some f⟩ :: (← engine.runSteps sys teardown steps)

/-- Gives back whatever the container may have come to hold. `fatal?` is why the container
failed, if it did, and `status` how its process ended. -/
def cleanup (sys : System σ) (teardown : Teardown σ) (engine : Engine) (fatal? : Option Failure)
    (status : ExitStatus) : Act σ CleanupReport := do
  if let some f := fatal? then
    sys.report .warn .cleanup "cleaning up after container failure" [("error", .shown f.message)]
  sys.report .debug .cleanup "cleaning up container"
    [("container", .shown engine.identity.containerId), ("status", .shown status.message)]
  let steps := CleanupStep.order.filter (·.applies engine.config)
  return ⟨status, ← engine.runSteps sys teardown steps⟩

end Engine
end Container
