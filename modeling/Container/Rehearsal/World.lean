import Container.Host.Calls
import Container.Host.Furnish
import Container.Teardown.Registry
import Container.Wire.Frame

set_option autoImplicit false

/-!
# Rehearsals

The library can be rehearsed: it works for a host in memory, and those it relies on answer as a
script says and keep account of what they were asked for.

## Main definitions

* `Rehearsal` — the state of a rehearsal.
* `Rehearsal.Call` — what was asked for.
* `Rehearsal.system` — the host as a system.
* `Rehearsal.channel` — a connection whose other side says what it was told to say.
-/

namespace Container

/-- What those that the library relies on may be asked for. -/
inductive Rehearsal.Call where
  | mount (request : MountRequest)
  | chroot (path : Path)
  | close
  | raise
  | restore
  | deleteNetwork (namespaces : List String)
  | removeCgroup (path : Path)
  | findRecord (containerId kind : String)
  | deleteRecord
  | detach (path : Path)
  | closeDevice (name : String)
  /-- The work of a privileged section. -/
  | work
  deriving DecidableEq

/-- The state of a rehearsal. -/
structure Rehearsal where
  host : Host
  calls : Array Rehearsal.Call
  /-- How many mounts and changes of the root were asked for. -/
  mounts : Nat
  chroots : Nat
  /-- Whether the operations of this process were closed. -/
  closed : Bool
  /-- Whether the connection to a helper is open. -/
  isOpen : Bool
  /-- Whether a helper has changed the root. -/
  entered : Bool
  /-- What the other side of the connection has said, as far as it was not yet received. -/
  incoming : Bytes
  /-- What was said to the other side. -/
  sent : Bytes

namespace Rehearsal

/-- A rehearsal at its beginning. -/
def start (host : Host) : Rehearsal := ⟨host, #[], 0, 0, false, false, false, [], []⟩

/-! ## Places in the state -/

/-- The host. -/
def hostPlace : Slot Rehearsal Host where
  get r := r.host
  set host r := { r with host }

/-- Whether the operations of this process were closed. -/
def closedPlace : Slot Rehearsal Bool where
  get r := r.closed
  set closed r := { r with closed }

/-- Whether the connection to a helper is open. -/
def openPlace : Slot Rehearsal Bool where
  get r := r.isOpen
  set isOpen r := { r with isOpen }

/-- Whether a helper has changed the root. -/
def enteredPlace : Slot Rehearsal Bool where
  get r := r.entered
  set entered r := { r with entered }

/-- The host as a system. -/
def system : System Rehearsal := Host.system hostPlace

/-! ## Keeping account -/

/-- Notes that something was asked for. -/
def note (call : Call) : StateM Rehearsal Unit :=
  modify fun r => { r with calls := r.calls.push call }

/-- Is asked for something, and fails if the script says so. -/
def answer (call : Call) (fault? : Option Stop) : Act Rehearsal Unit := do
  note call
  match fault? with
  | none => return
  | some stop => throw stop

/-- Takes the account, and begins a new one. -/
def takeCalls : StateM Rehearsal (List Call) := fun r => (r.calls.toList, { r with calls := #[] })

/-! ## Connections -/

/-- A connection whose other side has said all it will say, or has even gone if `gone` says
so. -/
def channel (gone : Bool) : Channel Rehearsal where
  send bs := fun r =>
    if gone then (.error (.os .brokenPipe), r) else (.ok (), { r with sent := r.sent ++ bs })
  receive n := fun r =>
    let (result, rest) := ByteStream.receive n r.incoming
    (result, { r with incoming := rest })
  close := return .ok ()

end Rehearsal
end Container
