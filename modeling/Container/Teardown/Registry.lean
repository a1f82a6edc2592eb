import Container.Datum.Record
import Container.Json.Writer
import Container.System

set_option autoImplicit false

/-!
# The registry of running containers

A container that runs on its own has a record: a document in a directory for all containers of
one kind, named for the id of the container.

## Main definitions

* `InstanceInfo` — what a record says.
* `Registry.recordPath?` — where a record is, if the id can be a name.
* `Registry.record`, `Registry.find`, `Registry.delete` — writing, finding and removing one.
-/

namespace Container

open Datum

variable {σ : Type}

/-- What a record says of a container. -/
structure InstanceInfo where
  containerId : String
  pid? : Option Int32
  image : Path
  deriving DecidableEq

namespace InstanceInfo

/-- The form of a record. -/
def shape : Shape := ⟨"struct InstanceInfo", [
  .of "container_id" readText, .of "pid" (readOptional readInt32), .of "image" readPath]⟩

/-- A record. -/
def read (d : Datum) : Reading InstanceInfo := do
  let found ← shape.collect .json d
  let containerId ← found.required "container_id" readText
  let pid? ← found.optional "pid" readInt32
  let image ← found.required "image" readPath
  return ⟨containerId, pid?, image⟩

/-- The value of a record. -/
def toDatum? (info : InstanceInfo) : Option Datum := do
  return .record [("container_id", .text info.containerId),
    ("pid", (info.pid?.map fun pid => .int pid.toInt).getD .null), ("image", ← ofPath? info.image)]

end InstanceInfo

/-- The directory under which all records are. -/
structure Registry where
  root : Path

/-- A record that was found. -/
structure FoundRecord where
  path : Path
  info : InstanceInfo

namespace Registry

/-- The kind under which the containers of this engine are recorded. -/
def engineKind : String := "shroud"

/-- The directory in which records are kept unless another one is named. -/
def defaultRoot : Path := "/var/lib/shroud/instances"

/-- Whether an id can be the name of a record. -/
def isValidId (containerId : String) : Bool :=
  !containerId.isEmpty && !containerId.contains '/' && !containerId.startsWith '.'

/-- Where the record of a container is. -/
def recordPath? (registry : Registry) (containerId kind : String) : Except RecordFault Path :=
  if isValidId containerId then
    .ok ((registry.root.join kind).join (Path.ofText (containerId ++ ".json")))
  else .error (.invalidId containerId)

/-- Where the record of a container is, or a failure. -/
def locate (registry : Registry) (containerId kind : String) : Act σ Path :=
  match registry.recordPath? containerId kind with
  | .ok path => return path
  | .error fault => Act.fail (.record fault)

/-- Writes the record of a container, in place of any it has. -/
def record (sys : System σ) (registry : Registry) (kind : String) (info : InstanceInfo) :
    Act σ Unit := do
  let path ← registry.locate info.containerId kind
  if let some parent := path.parent? then
    Act.call (sys.makeDirs parent) .io
  match info.toDatum? with
  | none => Act.fail (.document .notText)
  | some d =>
    Act.call (sys.writeFile path (Utf8.bytes (Json.pretty d))) .io
    sys.report .debug .records "instance recorded" [("path", .shown path.display)]

/-- Finds the record of a container. -/
def find (sys : System σ) (registry : Registry) (containerId kind : String) :
    Act σ FoundRecord := do
  let path ← registry.locate containerId kind
  let content ← Act.call (sys.readFile path) fun fault => .record (.absent path fault)
  match Json.parse InstanceInfo.read content with
  | .ok info => return ⟨path, info⟩
  | .error error => Act.fail (.document (.unreadable error))

/-- Removes a record that was found. -/
def delete (sys : System σ) (found : FoundRecord) : Act σ Unit :=
  Act.call (sys.removeFile found.path) fun fault =>
    .record (.notRemoved found.info.containerId fault)

end Registry
end Container
