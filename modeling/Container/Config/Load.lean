import Container.Config.Document
import Container.System

set_option autoImplicit false

/-!
# Loading a container description

A description is loaded from a file, and refused where it lacks what it must not lack.

## Main definitions

* `Description.parse` — a description out of the bytes of a document.
* `Description.load` — a description out of a file.
-/

namespace Container.Description

variable {σ : Type}

/-- The description in the bytes of a document. -/
def parse (env : Environment) (content : Bytes) : Except Failure Description :=
  match Json.parse (read (.default env)) content with
  | .error error => .error (.document (.unreadable error))
  | .ok description =>
    match description.fault? with
    | some fault => .error (.config (.lacking fault))
    | none => .ok description

/-- The description in a file. -/
def load (sys : System σ) (env : Environment) (path : Path) : Act σ Description := do
  let content ← Act.call (sys.readFile path) .io
  match parse env content with
  | .ok description => return description
  | .error f => Act.fail f

end Container.Description
