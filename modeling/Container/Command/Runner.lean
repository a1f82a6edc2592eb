import Container.Command.Arguments
import Container.Config.Load
import Container.Engine.Cleanup
import Container.Engine.Start
import Container.Helper.Settings
import Container.Privileged.InProcess
import Container.Privileged.Remote

set_option autoImplicit false

/-!
# Running a command

Each task is carried out in this process: creating a container and starting its program turn
the process into the program. A container that cannot be created is cleaned up at once by the
task that would have run it.

## Main definitions

* `TaskFault` — why a task fails, with `TaskFault.message`.
* `TaskFault.exitCode` — the exit code it leads to.
* `Runner.create`, `Runner.cleanup`, `Runner.perform` — the tasks.
* `Runner.finish` — a task with its exit code.
-/

namespace Container

variable {σ : Type}

/-- What was being done when a task failed. -/
inductive TaskContext where
  | loading (document : Path)
  | connecting (socket : Path)

/-- The wording of what was being done. -/
def TaskContext.message : TaskContext → String
  | .loading document => s!"loading container description {document.display}"
  | .connecting socket => s!"connecting to helper at {socket.display}"

/-- Why a task fails. -/
inductive TaskFault where
  | failure (context? : Option TaskContext) (f : Failure)
  /-- The root of this process is not that of the container. -/
  | notEntered (containerId : String)
  /-- The root of this process cannot be looked at. -/
  | rootUnknown (fault : IoFault)

namespace TaskFault

/-- The failure of the library behind a fault, if there is one. -/
def failure? : TaskFault → Option Failure
  | .failure _ f => some f
  | _ => none

/-- The wording of a fault: what was being done, what went wrong, and what lies behind it. -/
def message : TaskFault → String
  | .failure context? f =>
    ": ".intercalate ((context?.map TaskContext.message).toList ++ f.message :: f.causes)
  | .notEntered containerId =>
    s!"container {containerId} was not entered: " ++
      "the privileged helper must share this process's filesystem context"
  | .rootUnknown fault => fault.message

/-- The exit code after a fault. A hook has one of its own. -/
def exitCode (fault : TaskFault) : Nat :=
  match fault.failure? with
  | some f => if f.isHook then 255 else 1
  | none => 1

end TaskFault

namespace Runner

/-- A task, which breaks down only where something it relies on does. -/
abbrev TaskAct (σ : Type) := ExceptT TaskFault (Act σ)

/-- Carries out part of a task in a context. -/
def within {α : Type} (context? : Option TaskContext) (act : Act σ α) : TaskAct σ α := do
  match ← (act.guarded : Act σ _) with
  | .ok a => return a
  | .error f => throw (.failure context? f)

/-- Carries out part of a task and hands over its result or its fault. -/
def attempt {α : Type} (act : TaskAct σ α) : TaskAct σ (Except TaskFault α) :=
  ExceptT.lift (ExceptT.run act)

/-- The places in the state that the operations of a process need. -/
structure Places (σ : Type) where
  /-- Whether the operations of this process were closed. -/
  closed : Slot σ Bool
  /-- Whether the connection to the helper is open. -/
  isOpen : Slot σ Bool

/-- Loads the container that a task is about. -/
def load (sys : System σ) (env : Environment) (document : Path) : TaskAct σ Engine := do
  let description ← within (some (.loading document)) (Description.load sys env document)
  return { identity := description.identity, config := description.config }

/-- Takes hold of the privileged operations. -/
def openOperations (sys : System σ) (env : Environment) (places : Places σ) :
    Privileges → TaskAct σ (Privileged σ)
  | .inProcess => within none (Privileged.openInProcess sys places.closed)
  | .helper socket? => do
    let socket := socket?.getD (defaultSocket env)
    let remote ← within (some (.connecting socket)) (Remote.connect sys places.isOpen socket)
    return remote.privileged

/-- The file that a path leads to, if there is one. -/
def fileAt? (sys : System σ) (path : Path) : StateM σ (Option FileId) := do
  match ← sys.stat path with
  | .ok info => return some info.id
  | .error _ => return none

/-- Makes sure that the root of this process is the file that the root of the container was. -/
def checkEntered (sys : System σ) (engine : Engine) (before? : Option FileId) : TaskAct σ Unit := do
  match ← (sys.stat "/" : StateM σ _), before? with
  | .error fault, _ => throw (.rootUnknown fault)
  | .ok _, none => return
  | .ok root, some before =>
    if root.id = before then return else throw (.notEntered engine.identity.containerId)

/-- Creates a container and makes sure that this process is inside it. -/
def create (sys : System σ) (env : Environment) (places : Places σ) (engine : Engine)
    (privileges : Privileges) : TaskAct σ Unit := do
  let before? ← (fileAt? sys engine.config.rootfs : StateM σ _)
  let ops ← openOperations sys env places privileges
  within none (engine.create sys ops)
  checkEntered sys engine before?

/-- Those by whom things are given back: the programs and calls of the system. -/
def teardown (sys : System σ) (user : Nat) (registry : Registry) : Teardown σ where
  elevation := .ofSystem sys user
  deleteNetwork := NetworkTeardown.deleteAll sys NetworkTeardown.defaultProgram
  removeCgroup := CgroupTeardown.remove sys
  findRecord containerId kind := do
    let found ← registry.find sys containerId kind
    return Registry.delete sys found
  crypt := ⟨CryptTeardown.detach sys, CryptTeardown.closeDevice sys⟩

/-- Cleans up after a container and reports what is left behind. -/
def cleanup (sys : System σ) (engine : Engine) (fatal? : Option Failure) (status : ExitStatus)
    (registryRoot : Path) : TaskAct σ Unit := do
  let user ← (sys.userId : StateM σ _)
  let report ← within none
    (engine.cleanup sys (teardown sys user ⟨registryRoot⟩) fatal? status)
  for outcome in report.failures do
    if let some f := outcome.failure? then
      (sys.report .warn .commandLine "left behind"
        [("step", .text outcome.step.name), ("error", .shown f.message)] : StateM σ Unit)
  (sys.report .info .commandLine "cleanup finished"
    [("attempted", .number report.outcomes.length), ("clean", .truth report.isClean)] :
      StateM σ Unit)

/-- Cleans up after a container that could not be created. A failure of that is reported, and
what went wrong first remains the reason. -/
def abandon (sys : System σ) (engine : Engine) (fault : TaskFault) : TaskAct σ Unit := do
  match ← attempt (cleanup sys engine fault.failure? (.ofInt 0) Registry.defaultRoot) with
  | .ok () => throw fault
  | .error later =>
    (sys.report .error .commandLine "cleanup after failed creation"
      [("error", .text later.message)] : StateM σ Unit)
    throw fault

/-- Carries out a task. -/
def perform (sys : System σ) (env : Environment) (places : Places σ) : Task → TaskAct σ Unit
  | .create document privileges => do
    let engine ← load sys env document
    create sys env places engine privileges
  | .start document => do
    let engine ← load sys env document
    within none (engine.start sys)
  | .run document privileges => do
    let engine ← load sys env document
    match ← attempt (create sys env places engine privileges) with
    | .ok () => within none (engine.start sys)
    | .error fault => abandon sys engine fault
  | .cleanup document status registryRoot => do
    let engine ← load sys env document
    cleanup sys engine none status registryRoot

/-- Carries out a task and answers the exit code. -/
def finish (sys : System σ) (env : Environment) (places : Places σ) (task : Task) : Act σ Nat := do
  match ← (perform sys env places task).run with
  | .ok () => return 0
  | .error fault =>
    sys.report .error .commandLine "shroud failed" [("error", .text fault.message)]
    return fault.exitCode

end Runner
end Container
