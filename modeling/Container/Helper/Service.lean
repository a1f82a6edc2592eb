import Container.Helper.Connection

set_option autoImplicit false

/-!
# The life of a helper

A helper serves one engine. It listens until the first one connects, then stops listening,
removes its socket while the path still leads there, and serves that engine until it goes, the
connection goes wrong, or the helper is told to shut down.

## Main definitions

* `ServiceEvent` — what can happen.
* `Service` — where the helper is in its life.
* `Service.step` — what it does about an event.
* `Service.run` — what it does about a sequence of events.
-/

namespace Container

variable {σ : Type}

/-- What can happen to a helper. Engines are told apart by number. -/
inductive ServiceEvent where
  | connect (engine : Nat)
  | receive (engine : Nat) (bs : Bytes)
  | hangUp (engine : Nat)
  | shutdown

/-- Where a helper is in its life. -/
inductive Service where
  | listening
  | serving (engine : Nat) (connection : Connection)
  | finished (result : Except ConnectionEnd Unit)

namespace Service

/-- Stops listening and removes the socket. -/
def closeListener (sys : System σ) (socket : Path) : Act σ Unit := do
  match ← sys.removeFile socket with
  | .ok () => return
  | .error fault =>
    sys.report .warn .helper "failed to remove socket" [("error", .shown fault.message)]

/-- Goes on with a connection, unless it has ended. -/
def settle (engine : Nat) (connection : Connection) : Service :=
  match connection.ended? with
  | some e => .finished (.error e)
  | none => .serving engine connection

/-- What a helper does about an event, and what it sends to the engine it serves. -/
def step (sys : System σ) (socket : Path) (d : Dispatcher σ) :
    Service → ServiceEvent → Act σ (Service × Bytes)
  | .listening, .connect engine => do
    closeListener sys socket
    sys.report .info .helper "engine connected"
    return (.serving engine .start, [])
  | .listening, .shutdown => do
    closeListener sys socket
    return (.finished (.ok ()), [])
  | .serving engine connection, .receive sender bs =>
    if sender = engine then do
      let (connection, answers) ← connection.feed sys d bs
      return (settle engine connection, answers)
    else return (.serving engine connection, [])
  | .serving engine connection, .hangUp sender =>
    if sender = engine then do
      return (.finished (← connection.hangUp sys), [])
    else return (.serving engine connection, [])
  | .serving _ _, .shutdown => return (.finished (.ok ()), [])
  | service, _ => return (service, [])

/-- What a helper does about events, one after the other, and all that it sends. -/
def run (sys : System σ) (socket : Path) (d : Dispatcher σ) (service : Service) :
    List ServiceEvent → Act σ (Service × Bytes)
  | [] => return (service, [])
  | event :: events => do
    let (service, answers) ← step sys socket d service event
    let (service, later) ← run sys socket d service events
    return (service, answers ++ later)

end Service
end Container
