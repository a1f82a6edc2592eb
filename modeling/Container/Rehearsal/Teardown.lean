import Container.Engine.Cleanup
import Container.Rehearsal.World

set_option autoImplicit false

/-!
# Giving things back in a rehearsal

## Main definitions

* `TeardownScript` — what fails.
* `TeardownScript.teardown` — those by whom things are given back.
-/

namespace Container

/-- What fails where things are given back, and how. -/
structure TeardownScript where
  raise : Option Stop
  restore : Option Stop
  network : Option Stop
  cgroup : Option Stop
  find : Option Stop
  delete : Option Stop
  closeDevice : Option Stop
  detach : Path → Option Stop

namespace TeardownScript

open Rehearsal (answer)

/-- The script by which everything succeeds. -/
def plain : TeardownScript := ⟨none, none, none, none, none, none, none, fun _ => none⟩

/-- Raising privilege and giving it up. -/
def elevation (script : TeardownScript) : Elevation Rehearsal where
  raise := answer .raise script.raise
  restore := answer .restore script.restore

/-- The steps for an encrypted device. -/
def crypt (script : TeardownScript) : CryptTeardown.Steps Rehearsal where
  detach path := answer (.detach path) (script.detach path)
  closeDevice name := answer (.closeDevice name) script.closeDevice

/-- Those by whom things are given back. -/
def teardown (script : TeardownScript) : Teardown Rehearsal where
  elevation := script.elevation
  deleteNetwork network := answer (.deleteNetwork network.namespaces) script.network
  removeCgroup cgroup := answer (.removeCgroup cgroup.path) script.cgroup
  findRecord containerId kind := do
    answer (.findRecord containerId kind) script.find
    return answer .deleteRecord script.delete
  crypt := script.crypt

end TeardownScript
end Container
