import Container.System

set_option autoImplicit false

/-!
# Privileged operations

Putting the root of a container together takes mounts and a change of the root, for which
privilege is needed. Whoever can provide these operations, in whatever way, is a `Privileged`.

## Main definitions

* `Privileged` — mounting, changing the root, and giving the capability back.
-/

namespace Container

/-- Mounting, changing the root, and giving the capability back. The first two answer with a
result code. -/
structure Privileged (σ : Type) where
  mount : MountRequest → Act σ Int32
  chroot : Path → Act σ Int32
  close : Act σ Unit

end Container
