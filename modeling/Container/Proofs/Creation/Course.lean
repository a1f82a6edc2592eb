import Container.Engine.Creation
import Container.Proofs.Ledger

set_option autoImplicit false

/-!
# The course of a creation

Once it is known that a container can be created, its creation is a list of steps, taken one
after the other. This module spells the list out and shows that creating a container is taking
the steps of that list: whatever is proved of one step carries over to a creation by induction
on the list.

## Main definitions

* `CreationStep` — a step, with `CreationStep.perform` for taking it.
* `Engine.preparation` — the steps up to the change of the root.
* `Engine.course` — all steps.
* `hookOutcome`, `mountOutcome` — what an answer means for a step.
* `Engine.refusal?` — why a creation is not begun.

## Main results

* `Engine.create_eq_course` — creating a container is taking the steps of its course.
* `CreationStep.perform_hook`, `CreationStep.perform_mount`, … — what a step comes to.
* `Engine.run_checked` — a creation is begun unless there is a reason not to.
-/

namespace Container

variable {σ τ : Type}

/-- A step of creating a container. -/
inductive CreationStep where
  | hook (label script : String)
  | makeDirs (path : Path)
  | mount (step : MountStep)
  | changeDir (path : Path)
  | chroot (path : Path)
  | close
  deriving DecidableEq

/-- Takes a step. -/
def CreationStep.perform (sys : System σ) (ops : Privileged σ) (shell : Path) :
    CreationStep → Act σ Unit
  | .hook label script => Hook.run sys shell label script
  | .makeDirs path => Act.call (sys.makeDirs path) .io
  | .mount step => MountPlan.applyStep sys ops step
  | .changeDir path => Engine.changeDir sys path
  | .chroot path => do let _ ← ops.chroot path
  | .close => ops.close

namespace Engine

/-- The hooks of a phase, in the order of its scripts. -/
def hookSteps (engine : Engine) (phase : String) : List CreationStep :=
  let scripts := engine.config.recipe.scripts phase
  ((Hook.labels phase scripts.length).zip scripts).map fun (label, script) => .hook label script

/-- The directories for temporary files, which only a container with its own of them needs. -/
def tmpDirSteps (engine : Engine) : List CreationStep :=
  let session := engine.config.layout.sessionDir
  if engine.config.mountTmp ∧ engine.config.contain then
    [.makeDirs (session.join "tmp"), .makeDirs (session.join "var_tmp")]
  else []

/-- Everything that comes before the change of the root. -/
def preparation (engine : Engine) (plan : MountPlan) : List CreationStep :=
  engine.hookSteps Phase.pre ++ engine.tmpDirSteps ++ plan.steps.map .mount ++
    engine.hookSteps Phase.setup ++ [.changeDir engine.config.layout.sessionDir]

/-- The steps of a creation. -/
def course (engine : Engine) (plan : MountPlan) : List CreationStep :=
  engine.preparation plan ++
    [.chroot engine.config.layout.sessionDir, .changeDir "/", .close]

/-- Why a creation is not begun, if the root looks like this. The first reason counts. -/
def refusal? (engine : Engine) (root : Except IoFault FileInfo) : Option Failure :=
  if engine.identity.engineName ≠ "shroud" then
    some (.engineMismatch "shroud" engine.identity.engineName)
  else
    match root with
    | .error fault => some (.stat engine.config.rootfs fault)
    | .ok info =>
      if ¬ info.isDir then some (.notADirectory engine.config.rootfs)
      else
        match MountPlan.forContainer engine.config with
        | .error fault => some (.config fault)
        | .ok _ => none

/-! ## Creating is taking steps -/

variable {sys : System σ}

/-- The scripts of a phase are run step by step. -/
theorem runPhase_eq (ops : Privileged σ) (shell : Path) (phase : String) (scripts : List String) :
    Hook.runPhase sys shell phase scripts =
      (((Hook.labels phase scripts.length).zip scripts).map fun (label, script) =>
        CreationStep.hook label script).forM (CreationStep.perform sys ops shell) := by
  simp only [Hook.runPhase, List.forM_eq_forM, List.forM_map]
  rfl

/-- Hooks are steps. -/
theorem runHooks_eq (ops : Privileged σ) (engine : Engine) (phase : String) :
    engine.runHooks sys phase =
      (engine.hookSteps phase).forM (CreationStep.perform sys ops engine.shell) :=
  runPhase_eq ops engine.shell phase _

/-- Making the directories for temporary files is steps. -/
theorem makeTmpDirs_eq (ops : Privileged σ) (engine : Engine) :
    engine.makeTmpDirs sys =
      engine.tmpDirSteps.forM (CreationStep.perform sys ops engine.shell) := by
  unfold makeTmpDirs tmpDirSteps
  by_cases hm : engine.config.mountTmp <;> by_cases hc : engine.config.contain <;>
    simp [hm, hc, MountPlan.tmpSources, CreationStep.perform]

/-- Carrying a mount plan out is steps. -/
theorem apply_eq (ops : Privileged σ) (shell : Path) (plan : MountPlan) :
    plan.apply sys ops =
      (plan.steps.map .mount).forM (CreationStep.perform sys ops shell) := by
  simp only [MountPlan.apply, List.forM_eq_forM, List.forM_map]
  rfl

/-- **Creating a container** is taking the steps of its course, once it has been checked that it
can be created. -/
theorem create_eq_course (hsys : sys.IsSilent) (ops : Privileged σ) (engine : Engine) :
    engine.create sys ops = engine.checked sys >>= fun plan =>
      (engine.course plan).forM (CreationStep.perform sys ops engine.shell) := by
  unfold create
  congr 1
  funext plan
  rw [runHooks_eq ops, makeTmpDirs_eq ops, apply_eq ops engine.shell, runHooks_eq ops]
  simp only [course, preparation, enter, List.forM_eq_forM, List.forM_append, List.forM_cons,
    List.forM_nil, hsys.report, CreationStep.perform, bind_assoc]
  simp

end Engine

/-! ## What a step comes to -/

/-- What the answer of the shell means for a hook. -/
def hookOutcome (label : String) : Except IoFault ExitStatus → Except Stop Unit
  | .ok status =>
    if status.isSuccess then .ok () else .error (.failed (.hook label (.ended status)))
  | .error fault => .error (.failed (.hook label (.notStarted fault)))

/-- What the answer to a mount means for its step. Where the mount is not required, its failure
is passed over. -/
def mountOutcome (step : MountStep) : Except Stop Int32 → Except Stop Unit
  | .ok _ => .ok ()
  | .error (.failed f) => if step.required then .error (.failed (step.blame f)) else .ok ()
  | .error .panicked => .error .panicked

namespace CreationStep

variable {sys : System σ} (hsys : sys.IsSilent) (ops : Privileged σ) (shell : Path) (s : σ)
include hsys

/-- A hook comes to what the answer of the shell means. -/
theorem perform_hook (label script : String) :
    (hook label script).perform sys ops shell s =
      (hookOutcome label (sys.run (Hook.command shell script) s).1,
        (sys.run (Hook.command shell script) s).2) := by
  simp only [perform, Hook.run, hsys.report, Act.run_bind, Act.run_call, Act.run_lift]
  rcases hrun : sys.run (Hook.command shell script) s with ⟨fault | status, s'⟩
  · simp [hrun, hookOutcome]
  · cases hstatus : status.isSuccess <;>
      simp [hrun, hookOutcome, hstatus]

/-- A mount comes to what its answer means. -/
theorem perform_mount (step : MountStep) :
    (mount step).perform sys ops shell s =
      (mountOutcome step (ops.mount step.request s).1, (ops.mount step.request s).2) := by
  simp only [perform, MountPlan.applyStep, hsys.report, Act.run_bind, Act.run_guarded]
  rcases hmount : ops.mount step.request s with ⟨(f | _) | code, s'⟩
  · cases hrequired : step.required <;> simp [hmount, mountOutcome, hrequired]
  · simp [hmount, mountOutcome]
  · simp [hmount, mountOutcome]

omit hsys

/-- A directory is made or not. -/
theorem perform_makeDirs (path : Path) :
    (makeDirs path).perform sys ops shell s =
      ((sys.makeDirs path s).1.mapError fun fault => .failed (.io fault),
        (sys.makeDirs path s).2) := by
  rw [perform, Act.run_call]

/-- The working directory is changed or not. -/
theorem perform_changeDir (path : Path) :
    (changeDir path).perform sys ops shell s =
      ((sys.changeDir path s).1.mapError fun errno => .failed (.chdir path errno),
        (sys.changeDir path s).2) := by
  rw [perform, Engine.changeDir, Act.run_call]

/-- Whatever number a change of the root answers with, it was made. -/
theorem perform_chroot (path : Path) :
    (chroot path).perform sys ops shell s =
      ((ops.chroot path s).1.map fun _ => (), (ops.chroot path s).2) := by
  rw [perform, Act.run_bind]
  rcases ops.chroot path s with ⟨stop | code, s'⟩ <;> rfl

end CreationStep

/-! ## Whether a creation is begun -/

namespace Engine


/-- The state after it was checked whether a container can be created: the root was looked at,
unless the name of the engine is wrong already. -/
def afterCheck (sys : System σ) (engine : Engine) (s : σ) : σ :=
  if engine.identity.engineName = engineName then (sys.stat engine.config.rootfs s).2 else s

/-- A creation is begun with a plan unless there is a reason not to. -/
theorem run_checked (sys : System σ) (engine : Engine) (s : σ) :
    match engine.refusal? (sys.stat engine.config.rootfs s).1 with
    | some f => engine.checked sys s = (.error (.failed f), engine.afterCheck sys s)
    | none => ∃ plan, MountPlan.forContainer engine.config = .ok plan ∧
        engine.checked sys s = (.ok plan, engine.afterCheck sys s) := by
  unfold refusal? checked checkName checkRootfs afterCheck
  by_cases hname : engine.identity.engineName = "shroud"
  · simp only [hname, engineName]
    rcases hstat : sys.stat engine.config.rootfs s with ⟨fault | info, s'⟩
    · simp [hstat]
    · cases hdir : info.isDir with
      | false => simp [hstat, hdir]
      | true =>
        cases hplan : MountPlan.forContainer engine.config with
        | error fault => simp [hstat, hdir]
        | ok plan => simp [hstat, hdir]
  · simp [hname, engineName]

end Engine
end Container
