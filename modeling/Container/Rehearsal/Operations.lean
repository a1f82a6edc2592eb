import Container.Privileged.Operations
import Container.Rehearsal.World

set_option autoImplicit false

/-!
# Privileged operations in a rehearsal

The operations answer as a script says. They may also put things into the tree of the host, as
a mount does, and write down what they were asked for.

## Main definitions

* `OperationScript` — how the operations answer.
* `OperationScript.operations` — the operations.
-/

namespace Container

/-- How operations answer, by how many there were before of the same kind. -/
structure OperationScript where
  mount : Nat → Except Stop Int32
  chroot : Nat → Except Stop Int32
  close : Except Stop Unit
  /-- What comes into the tree during a mount. -/
  effect : Nat → List Furnishing
  /-- The file in which the operations are written down. -/
  trace? : Option Path

namespace OperationScript

open Rehearsal (note)

/-- The script by which everything succeeds. -/
def plain : OperationScript where
  mount _ := .ok 0
  chroot _ := .ok 0
  close := .ok ()
  effect _ := []
  trace? := none

/-- Writes an operation down. -/
def writeDown (script : OperationScript) (line : Bytes) : StateM Rehearsal Unit :=
  match script.trace? with
  | none => return
  | some path => Rehearsal.hostPlace.run do
      match ← Host.openOutput (← get).view path false with
      | .ok stream => Host.write stream (line ++ Utf8.bytes "\n")
      | .error _ => return

/-- Is asked for a mount. -/
def mountNext (script : OperationScript) (request : MountRequest) : Act Rehearsal Int32 := do
  note (.mount request)
  let index := (← get).mounts
  modify fun r => { r with mounts := index + 1, host := r.host.furnish (script.effect index) }
  script.writeDown (Utf8.bytes "mount " ++ request.target.bytes)
  ExceptT.mk (pure (script.mount index))

/-- Is asked for a change of the root. -/
def chrootNext (script : OperationScript) (path : Path) : Act Rehearsal Int32 := do
  note (.chroot path)
  let index := (← get).chroots
  modify fun r => { r with chroots := index + 1 }
  script.writeDown (Utf8.bytes "chroot " ++ path.bytes)
  ExceptT.mk (pure (script.chroot index))

/-- Is asked to give the capability back. -/
def closeNow (script : OperationScript) : Act Rehearsal Unit := do
  note .close
  script.writeDown (Utf8.bytes "close")
  ExceptT.mk (pure script.close)

/-- The operations. -/
def operations (script : OperationScript) : Privileged Rehearsal :=
  ⟨script.mountNext, script.chrootNext, script.closeNow⟩

end OperationScript
end Container
