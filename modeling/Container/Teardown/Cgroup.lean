import Container.System

set_option autoImplicit false

/-!
# Giving a control group back

A control group is a directory whose files belong to the system and go away with it. So its
directories are removed, the inner ones first, and no file is ever touched.

## Main definitions

* `CgroupTeardown.forEachDir` — does something to each directory among some entries.
* `CgroupTeardown.removeTree` — removes a directory after those inside it.
* `CgroupTeardown.remove` — removes a control group.
-/

namespace Container.CgroupTeardown

variable {σ : Type}

/-- Removes a directory that may have gone already. -/
def removeEmpty (sys : System σ) (path : Path) : Act σ Unit := do
  match ← sys.removeDir path with
  | .ok () => return
  | .error fault =>
    if fault.isNotFound then return else Act.fail (.cgroup (.notRemoved path fault))

/-- Goes through the entries of a directory and does something to each directory among them, up to
the first entry that cannot be read. -/
def forEachDir (entries : List (Except IoFault DirEntry)) (act : DirEntry → Act σ Unit) :
    Act σ Unit :=
  entries.forM fun
    | .ok entry => if entry.isDir then act entry else return
    | .error fault => Act.fail (.io fault)

/-- Where every entry can be read, that is done to each directory among them. -/
theorem forEachDir_readable (entries : List DirEntry) (act : DirEntry → Act σ Unit) :
    forEachDir (entries.map .ok) act = (entries.filter (·.isDir)).forM act := by
  unfold forEachDir
  induction entries with
  | nil => rfl
  | cons entry entries ih =>
    simp only [List.forM_eq_forM] at ih
    cases hdir : entry.isDir <;> simp [hdir, ih]

/-- Removes a directory after those inside it, which lie at most `depth` deep. Where there is
nothing, nothing is to be done. -/
def removeTree (sys : System σ) : Nat → Path → Act σ Unit
  | 0, path => removeEmpty sys path
  | depth + 1, path => do
    match ← sys.listDir path with
    | .error fault =>
      if fault.isNotFound then return else Act.fail (.cgroup (.unreadable path fault))
    | .ok entries =>
      forEachDir entries fun entry => removeTree sys depth (path.join ⟨entry.name⟩)
      removeEmpty sys path

/-- Removes a control group with those inside it. -/
def remove (sys : System σ) (cgroup : Cgroup) : Act σ Unit := do
  sys.report .debug .cgroups "removing cgroup" [("cgroup", .shown cgroup.path.display)]
  removeTree sys (sys.depthBound (← get)) cgroup.path

end Container.CgroupTeardown
