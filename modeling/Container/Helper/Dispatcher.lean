import Container.Privileged.Operations

set_option autoImplicit false

/-!
# Answering requests

The helper performs each request and answers it. Once it has changed the root of the engine,
it performs nothing any more.

## Main definitions

* `Dispatcher` — the operations, and whether the root has been changed.
* `Dispatcher.handle` — the answer to a request.
-/

namespace Container

variable {σ : Type}

/-- The operations that requests are performed by, and whether the root has been changed. -/
structure Dispatcher (σ : Type) where
  ops : Privileged σ
  entered : Slot σ Bool

namespace Dispatcher

/-- The answer to a request that comes too late. -/
def enteredMessage : String := "container root already entered"

/-- The answer to a request that could not be performed. -/
def failed (sys : System σ) (f : Failure) : Act σ Response := do
  sys.report .warn .helper "request failed" [("error", .shown f.message)]
  return .error f.message

/-- Performs a request while the root has not been changed. -/
def perform (sys : System σ) (d : Dispatcher σ) : Request → Act σ Response
  | .mount request => do
    sys.report .debug .helper "mount" [("source", .shown request.source.display),
      ("target", .shown request.target.display), ("fstype", .shown request.fstype)]
    match ← (d.ops.mount request).guarded with
    | .ok code => return .mount code
    | .error f => failed sys f
  | .chroot path => do
    sys.report .debug .helper "chroot" [("path", .shown path.display)]
    match ← (d.ops.chroot path).guarded with
    | .ok code =>
      d.entered.modify fun _ => true
      return .chroot code
    | .error f => failed sys f
  | .ping => return .pong

/-- Answers a request. -/
def handle (sys : System σ) (d : Dispatcher σ) (request : Request) : Act σ Response := do
  if ← d.entered.read then
    sys.report .warn .helper "request after chroot refused" [("request", .marked request.shown)]
    return .error enteredMessage
  else perform sys d request

end Dispatcher
end Container
