import Container.Mount.Plan
import Container.Privileged.Operations

set_option autoImplicit false

/-!
# Carrying out a mount plan

The mounts of a plan are made one after the other, up to the first required one that fails.
Mounts made before stay where they are.

## Main definitions

* `MountPlan.applyStep` — one mount.
* `MountPlan.apply` — all of them.
-/

namespace Container

variable {σ : Type}

/-- A failed mount is reported with the label of its step; any other failure is not. -/
def MountStep.blame (step : MountStep) : Failure → Failure
  | .mount fault => .mount (.step step.label fault)
  | f => f

namespace MountPlan

/-- Makes the mount of a step. -/
def applyStep (sys : System σ) (ops : Privileged σ) (step : MountStep) : Act σ Unit := do
  sys.report .debug .mounts "mounting" [("step", .shown step.label),
    ("source", .shown step.request.source.display), ("target", .shown step.request.target.display)]
  match ← (ops.mount step.request).guarded with
  | .ok _ => return
  | .error f =>
    if step.required then Act.fail (step.blame f)
    else
      sys.report .warn .mounts "optional mount skipped"
        [("step", .shown step.label), ("error", .shown f.message)]

/-- Makes the mounts of a plan in order. -/
def apply (sys : System σ) (ops : Privileged σ) (plan : MountPlan) : Act σ Unit :=
  plan.steps.forM (applyStep sys ops)

end MountPlan
end Container
