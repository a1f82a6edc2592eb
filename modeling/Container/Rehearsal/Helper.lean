import Container.Helper.Service
import Container.Rehearsal.Operations

set_option autoImplicit false

/-!
# A helper in a rehearsal

The engine of a rehearsal can connect to a helper, which lives in the same state: whatever the
engine sends is handled at once, and what the helper answers waits to be received.

## Main definitions

* `Encounter` — a rehearsal in which a helper listens.
* `Encounter.system` — the system as the engine sees it.
-/

namespace Container

/-- A rehearsal in which a helper listens. -/
structure Encounter where
  rehearsal : Rehearsal
  /-- Where the helper is in its life. -/
  service : Service
  /-- The root and the working directory of the helper. -/
  view : Viewpoint
  /-- The file of its socket. -/
  inode : Nat

namespace Encounter

/-- The rehearsal. -/
def rehearsalPlace : Slot Encounter Rehearsal where
  get e := e.rehearsal
  set rehearsal e := { e with rehearsal }

/-- A place in the rehearsal. -/
def placeIn {τ : Type} (place : Slot Rehearsal τ) : Slot Encounter τ where
  get e := place.get e.rehearsal
  set t e := { e with rehearsal := place.set t e.rehearsal }
  get_set t e := place.get_set t e.rehearsal
  set_get e := by simp [place.set_get]
  set_set t u e := by simp [place.set_set]

/-- The system of the helper, whose reports are not kept. -/
def helperSystem : System Rehearsal := { Rehearsal.system with log := fun _ => return }

/-- Something happens to the helper. If its operations break down, it ends. -/
def happen (socket : Path) (script : OperationScript) (event : ServiceEvent) :
    StateM Encounter Unit := fun e =>
  let view := e.rehearsal.host.view
  let atHome := { e.rehearsal with host := { e.rehearsal.host with view := e.view } }
  let step := Service.step helperSystem socket ⟨script.operations, Rehearsal.enteredPlace⟩
    e.service event
  let (result, rehearsal) := step atHome
  let (service, answers) := match result with
    | .ok (service, answers) => (service, answers)
    | .error _ => (.finished (.ok ()), [])
  ((), { e with
    service
    rehearsal := { rehearsal with
      host := { rehearsal.host with view }
      incoming := rehearsal.incoming ++ answers } })

/-- The number of the engine. -/
def engineNumber : Nat := 1

/-- Whether a path leads to the socket of a helper that listens. -/
def listensAt (p : Path) (e : Encounter) : Bool :=
  match e.service, e.rehearsal.host.tree.statAt e.rehearsal.host.view p with
  | .listening, .ok f => f.inode = e.inode
  | _, _ => false

/-- Connects to a socket. -/
def connect (socket : Path) (script : OperationScript) (base : System Encounter) (p : Path) :
    StateM Encounter (Except IoFault Unit) := do
  if (Host.socketFault? p).isNone && listensAt p (← get) then
    happen socket script (.connect engineNumber)
    return .ok ()
  else base.connect p

/-- The connection to the helper. -/
def channel (socket : Path) (script : OperationScript) : Channel Encounter where
  send bs := do
    match (← get).service with
    | .finished _ => return .error (.os .brokenPipe)
    | _ =>
      happen socket script (.receive engineNumber bs)
      return .ok ()
  receive n := rehearsalPlace.run ((Rehearsal.channel false).receive n)
  close := return .ok ()

/-- The system as the engine sees it. -/
def system (socket : Path) (script : OperationScript) : System Encounter :=
  let base := Host.system (placeIn Rehearsal.hostPlace)
  { base with
    connect := connect socket script base
    channel := channel socket script }

/-- An encounter with a helper that listens at a socket, which was made in its working
directory. -/
def begin? (rehearsal : Rehearsal) (socket : Path) : Option Encounter :=
  let (made, host) := Host.makeSocket socket rehearsal.host
  match made, host.tree.statAt host.view socket with
  | .ok (), .ok f => some ⟨{ rehearsal with host }, .listening, host.view, f.inode⟩
  | _, _ => none

end Encounter
end Container
