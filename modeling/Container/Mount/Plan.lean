import Container.Failure
import Container.Mount.Flags

set_option autoImplicit false

/-!
# Mount plans

The root of a container is put together in the final directory by a fixed sequence of mounts:
the image, what every container sees of the system, directories for temporary files, the paths
the description asks for, and at last the whole tree on the session directory. Later mounts
lie inside earlier ones, so their order matters.

## Main definitions

* `MountStep`, `MountPlan` — the sequence.
* `MountPlan.contained?` — a destination inside the root, if it is one.
* `MountPlan.forContainer` — the sequence for a configuration.
-/

namespace Container

/-- One mount of the sequence. Where it is not required its failure is passed over. -/
structure MountStep where
  label : String
  request : MountRequest
  required : Bool
  deriving DecidableEq

/-- The mounts that make the root of a container, in order. -/
structure MountPlan where
  steps : List MountStep
  deriving DecidableEq

namespace MountStep

/-- A mount of a part of the file tree, with everything below it. -/
def bindTree (label : String) (source target : Path) : MountStep :=
  ⟨label, ⟨source, target, "",
    MountFlags.bind ||| MountFlags.noSetUser ||| MountFlags.recursive, ""⟩,
    true⟩

/-- A step that may fail. -/
def optional (step : MountStep) : MountStep := { step with required := false }

end MountStep

namespace MountPlan

/-- The mounts that every container has, in order. -/
def systemSteps (rootfs finalDir : Path) : List MountStep := [
  ⟨"image directory", ⟨rootfs, finalDir, "",
    MountFlags.bind ||| MountFlags.noSetUser ||| MountFlags.noDevices, "errors=remount-ro"⟩, true⟩,
  .bindTree "proc" "/proc" (finalDir.join "proc"),
  ⟨"sys", ⟨"sysfs", finalDir.join "sys", "sysfs", MountFlags.noSetUser, ""⟩, true⟩,
  ⟨"/home", ⟨"/home", finalDir.join "home", "", MountFlags.bind, ""⟩, true⟩,
  .bindTree "/dev" "/dev" (finalDir.join "dev"),
  .bindTree "/etc/resolv.conf" "/etc/resolv.conf" (finalDir.join "etc/resolv.conf"),
  .bindTree "/etc/hosts" "/etc/hosts" (finalDir.join "etc/hosts")]

/-- Where the directories for temporary files come from, and where in the root they are seen. -/
def tmpSources (config : Config) : List (Path × String) :=
  if config.contain then
    [(config.layout.sessionDir.join "tmp", "tmp"),
      (config.layout.sessionDir.join "var_tmp", "var/tmp")]
  else [("/tmp", "tmp"), ("/var/tmp", "var/tmp")]

/-- The mounts for temporary files. A container can do without them. -/
def tmpSteps (config : Config) : List MountStep :=
  if config.mountTmp then
    (tmpSources config).map fun (source, target) =>
      (MountStep.bindTree ("/" ++ target) source (config.layout.finalDir.join target)).optional
  else []

/-- The names of a destination inside the root. A step to a parent directory could lead out of
it, so there are none then. -/
def containedNames? : List Path.Component → Option (List Path.Component)
  | [] => some []
  | .name n :: rest => (.name n :: ·) <$> containedNames? rest
  | .root :: rest | .current :: rest => containedNames? rest
  | .parent :: _ => none

/-- A destination as a path below the root, if it stays inside. -/
def contained? (destination : Path) : Option Path :=
  Path.ofComponents <$> containedNames? destination.components

/-- The mount of a bound path. -/
def bindStep (finalDir : Path) (bind : Bind) : Except ConfigFault MountStep :=
  match contained? bind.destination with
  | some relative => .ok (.bindTree bind.source.display bind.source (finalDir.join relative))
  | none => .error (.escapes bind.destination)

/-- The last mount, of the whole tree on the directory from which the container is entered. -/
def stagingStep (layout : Layout) : MountStep :=
  ⟨"staging directory", ⟨layout.finalDir, layout.sessionDir, "",
    MountFlags.bind ||| MountFlags.recursive, ""⟩, true⟩

/-- The mounts for a configuration. Refused when a bound path would be seen outside the root. -/
def forContainer (config : Config) : Except ConfigFault MountPlan := do
  let binds ← config.binds.mapM (bindStep config.layout.finalDir)
  return ⟨systemSteps config.rootfs config.layout.finalDir ++ tmpSteps config ++ binds ++
    [stagingStep config.layout]⟩

end MountPlan
end Container
