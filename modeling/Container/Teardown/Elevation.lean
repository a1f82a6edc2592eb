import Container.System

set_option autoImplicit false

/-!
# Raised privilege

Some of what is given back takes privilege that the process holds only in reserve. It is raised
for a section of work and given up again when the section ends, in whatever way it ends.

## Main definitions

* `Elevation` — raising privilege and giving it up.
* `Elevation.bracket` — work between the two.
* `Elevation.ofSystem` — privilege kept in the saved user of a process.
-/

namespace Container

variable {σ α : Type}

/-- Raising privilege and giving it up. -/
structure Elevation (σ : Type) where
  raise : Act σ Unit
  restore : Act σ Unit

namespace Elevation

/-- Gives privilege up. That it cannot be given up is reported, but is not the fault of the
work before. -/
def giveUp (sys : System σ) (elevation : Elevation σ) : Act σ Unit := do
  match ← elevation.restore.guarded with
  | .ok () => return
  | .error f =>
    sys.report .error .privilege "failed to drop privileges after privileged section"
      [("error", .shown f.message)]

/-- What a section comes to: work that breaks down fails for that reason. -/
def settle : Except Stop α → Except Stop α
  | .error .panicked => .error (.failed (.privilege .sectionPanicked))
  | r => r

/-- Work with raised privilege, which is given up whatever the work comes to. If it cannot be
raised, the work is not begun. -/
def bracket (sys : System σ) (elevation : Elevation σ) (work : Act σ α) : Act σ α := fun s =>
  match elevation.raise s with
  | (.error stop, s) => (settle (.error stop), s)
  | (.ok (), s) =>
    let (_, s) := sys.report .debug .privilege "privilege escalated" [] s
    let (result, s) := work s
    match giveUp sys elevation s with
    | (.ok (), s) => (settle result, s)
    | (.error stop, s) => (settle (.error stop), s)

/-- The privilege of user zero, kept as the saved user of the process. It is raised on a thread of
its own, so no other work of the process ever has it. -/
def ofSystem (sys : System σ) (user : Nat) : Elevation σ where
  raise := do
    Act.call sys.startThread fun fault => .privilege (.threadNotStarted fault)
    setIds user 0 user
  restore := setIds user user 0
where
  /-- Sets the three users. -/
  setIds (real effective saved : Nat) : Act σ Unit :=
    Act.call (sys.setUserIds real effective saved) fun errno =>
      .privilege (.refused real effective saved errno)

end Elevation
end Container
