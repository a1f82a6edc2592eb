import Container.Mount.Flags
import Container.Privileged.Operations

set_option autoImplicit false

/-!
# Privileged operations in this process

A process that may administer the system mounts and changes its root itself.

## Main definitions

* `System.mountNow`, `System.changeRootNow` — the calls with their failures.
* `Privileged.inProcess` — the operations, which are refused once closed.
* `Privileged.openInProcess` — the operations, if the process may have them.
-/

namespace Container

variable {σ : Type}

/-- Mounts something. Flags without a meaning are left out. -/
def System.mountNow (sys : System σ) (request : MountRequest) : Act σ Unit :=
  Act.call (sys.mount { request with flags := request.flags &&& MountFlags.known })
    fun errno => .mount (.refused request.source request.target errno)

/-- Changes the root of this process. -/
def System.changeRootNow (sys : System σ) (path : Path) : Act σ Unit :=
  Act.call (sys.changeRoot path) fun errno => .chroot (.refused path errno)

namespace Privileged

/-- Fails if the operations were closed. -/
def ensureOpen (closed : Slot σ Bool) : Act σ Unit := do
  if ← closed.read then Act.fail (.channel .operationsClosed)

/-- The operations, done by the system calls of this process. -/
def inProcess (sys : System σ) (closed : Slot σ Bool) : Privileged σ where
  mount request := do
    ensureOpen closed
    sys.mountNow request
    return 0
  chroot path := do
    ensureOpen closed
    sys.changeRootNow path
    return 0
  close := do
    ensureOpen closed
    closed.modify fun _ => true

/-- The operations of this process, for one that may administer the system. -/
def openInProcess (sys : System σ) (closed : Slot σ Bool) : Act σ (Privileged σ) := do
  if ← sys.isAdministrator then
    closed.modify fun _ => false
    return inProcess sys closed
  else Act.fail (.privilege .notAdministrator)

end Privileged
end Container
