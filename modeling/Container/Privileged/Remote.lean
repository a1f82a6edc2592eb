import Container.Privileged.Operations
import Container.Wire.Frame

set_option autoImplicit false

/-!
# Privileged operations by a helper

A process without privilege asks a helper, over a connection on which requests and responses
take turns. Each call sends one frame and receives one; when the connection has been closed no
call touches it again.

## Main definitions

* `Remote.call` — one request and its response.
* `Remote.ping`, `Remote.greet` — the question whether the helper is there.
* `Remote.privileged` — the operations, done by the helper.
* `Remote.connect` — a connection to the helper at a socket.
-/

namespace Container

variable {σ : Type}

/-- The engine's end of a connection to a helper, and whether it is still open. -/
structure Remote (σ : Type) where
  channel : Channel σ
  isOpen : Slot σ Bool

namespace Remote

/-- A failure on the way is a failure of the channel. -/
def onTheWay : Failure → Failure
  | .io fault => .channel (.transport fault)
  | f => f

/-- Runs a computation, blaming the channel for what fails on the way. -/
def transported {α : Type} (act : Act σ α) : Act σ α := do
  match ← act.guarded with
  | .ok a => return a
  | .error f => Act.fail (onTheWay f)

/-- One request and its response. -/
def call (remote : Remote σ) (request : Request) : Act σ Response := do
  if ← remote.isOpen.read then
    transported (remote.channel.sendFrame request.frame)
    transported (remote.channel.receiveMessage Response.decode)
  else Act.fail (.channel .connectionClosed)

/-- Fails over a response that answers no such request. -/
def unexpected {α : Type} (response : Response) : Act σ α :=
  Act.fail (.protocol (.unexpected response))

/-- Asks whether the helper is there. -/
def ping (remote : Remote σ) : Act σ Unit := do
  match ← remote.call .ping with
  | .pong => return
  | response => unexpected response

/-- Opens a conversation, which begins with that question. -/
def greet (remote : Remote σ) : Act σ Unit := do
  remote.isOpen.modify fun _ => true
  remote.ping

/-- Asks for a mount. -/
def mount (remote : Remote σ) (request : MountRequest) : Act σ Int32 := do
  match ← remote.call (.mount request) with
  | .mount code => return code
  | .error text => Act.fail (.mount (.remote request.source request.target text))
  | response => unexpected response

/-- Asks for a change of the root. -/
def chroot (remote : Remote σ) (path : Path) : Act σ Int32 := do
  match ← remote.call (.chroot path) with
  | .chroot code => return code
  | .error text => Act.fail (.chroot (.remote path text))
  | response => unexpected response

/-- Closes the connection. Where the helper hung up first, there is nothing left to close. -/
def close (remote : Remote σ) : Act σ Unit := do
  if ← remote.isOpen.read then
    remote.isOpen.modify fun _ => false
    match ← remote.channel.close with
    | .ok () => return
    | .error fault =>
      if fault.isNotConnected then return else Act.fail (.channel (.notClosed fault))
  else Act.fail (.channel .connectionClosed)

/-- The operations, done by the helper. -/
def privileged (remote : Remote σ) : Privileged σ := ⟨remote.mount, remote.chroot, remote.close⟩

/-- Connects to the helper at a socket and checks that it answers. -/
def connect (sys : System σ) (isOpen : Slot σ Bool) (socket : Path) : Act σ (Remote σ) := do
  sys.report .debug .remote "connecting to privileged helper" [("socket", .shown socket.display)]
  Act.call (sys.connect socket) fun fault => .channel (.unreachable socket fault)
  let remote := Remote.mk sys.channel isOpen
  remote.greet
  return remote

end Remote
end Container
