import Container.Teardown.Elevation

set_option autoImplicit false

/-!
# Giving an encrypted device back

The device behind a root can be closed only when nothing is mounted from it any more. So the
overlay is detached, then the root itself, then the device is closed, and the first of these
that fails ends the attempt.

## Main definitions

* `CryptTeardown.deviceName` — the name under which a device is open.
* `CryptTeardown.closeDevice`, `CryptTeardown.detach` — the steps, done by the system.
* `CryptTeardown.release` — all of them, with raised privilege.
-/

namespace Container.CryptTeardown

variable {σ : Type}

/-- The name under which a device is open: the last name of its path. -/
def deviceName (device : Path) : Except CryptFault String :=
  match device.fileName?.bind Utf8.text? with
  | some name => .ok name
  | none => .error (.noDeviceName device)

/-- The program that closes devices. -/
def program : Path := "cryptsetup"

/-- The command that closes a device. -/
def command (name : String) : Command := ⟨program, ["close", name], .inherited⟩

/-- Closes a device. -/
def closeDevice (sys : System σ) (name : String) : Act σ Unit := do
  let status ← Act.call (sys.run (command name)) fun fault => .crypt (.notStarted fault)
  if status.isSuccess then return else Act.fail (.crypt (.notClosed name status))

/-- Detaches what is mounted at a path. -/
def detach (sys : System σ) (target : Path) : Act σ Unit :=
  Act.call (sys.detach target) fun errno => .mount (.notDetached target errno)

/-- The steps that take privilege: detaching what is mounted at a path, and closing a device. -/
structure Steps (σ : Type) where
  detach : Path → Act σ Unit
  closeDevice : String → Act σ Unit

/-- The steps, one after the other. -/
def steps (sys : System σ) (provided : Steps σ) (layout : Layout) (device : Path) : Act σ Unit := do
  (provided.detach layout.overlayMount).onFailure fun f =>
    sys.report .debug .crypt "error while unmounting overlay fs" [("error", .shown f.message)]
  (provided.detach layout.rootfsMount).onFailure fun f =>
    sys.report .debug .crypt "error while unmounting rootfs" [("error", .shown f.message)]
  match deviceName device with
  | .error fault => Act.fail (.crypt fault)
  | .ok name =>
    (provided.closeDevice name).onFailure fun f =>
      sys.report .debug .crypt "unable to delete crypt device"
        [("device", .text name), ("error", .shown f.message)]
    sys.report .info .crypt "crypt device closed" [("device", .text name)]

/-- Gives an encrypted device back. -/
def release (sys : System σ) (elevation : Elevation σ) (provided : Steps σ) (layout : Layout)
    (device : Path) : Act σ Unit :=
  elevation.bracket sys (steps sys provided layout device)

end Container.CryptTeardown
