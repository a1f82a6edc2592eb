import Container.Datum.Record
import Container.MessagePack.Reader
import Container.MessagePack.Writer

set_option autoImplicit false

/-!
# Messages between an engine and its helper

An engine asks its helper to mount something, to change the root, or just to answer; the
helper answers each request once.

## Main definitions

* `MountRequest` — everything one mount needs.
* `Request`, `Response` — the messages.
* `Request.read`, `Response.read` — a message out of a self-describing value.
* `Request.toDatum?`, `Response.toDatum` — the value of a message.
* `Request.encode?`, `Response.encode` — its bytes.
-/

namespace Container

open Datum

/-- Everything one mount needs. A type or options that are not wanted are empty. -/
structure MountRequest where
  source : Path
  target : Path
  fstype : String
  flags : UInt64
  data : String
  deriving DecidableEq

/-- What an engine asks for. -/
inductive Request where
  | mount (request : MountRequest)
  | chroot (path : Path)
  | ping
  deriving DecidableEq

/-- What the helper answers: the result code of what was done, or the message of a failure. -/
inductive Response where
  | mount (code : Int32)
  | chroot (code : Int32)
  | pong
  | error (message : String)
  deriving DecidableEq

/-! ## Reading -/

namespace MountRequest

/-- The form of a mount request. -/
def shape : Shape := ⟨"struct MountRequest", [
  .of "source" readPath, .of "target" readPath, .of "fstype" readText, .of "flags" readUInt64,
  .of "data" readText]⟩

/-- A mount request. -/
def read (source : Source) (d : Datum) : Reading MountRequest := do
  let found ← shape.collect source d
  let source ← found.required "source" readPath
  let target ← found.required "target" readPath
  let fstype ← found.required "fstype" readText
  let flags ← found.required "flags" readUInt64
  let data ← found.required "data" readText
  return ⟨source, target, fstype, flags, data⟩

end MountRequest

/-- The content of a message with one field. -/
def Datum.readSingle {α : Type} (shapeName field : String) (value : Datum → Reading α)
    (d : Datum) : Reading α := do
  let found ← (Shape.mk shapeName [.of field value]).collect .held d
  found.required field value

/-- The kinds of requests. -/
def Request.variants : Variants Request := ⟨"Request", [
  ("Mount", fun d => .mount <$> MountRequest.read .held d),
  ("Chroot", fun d => .chroot <$> readSingle "struct variant Request::Chroot" "path" readPath d),
  ("Ping", Variants.noContent .ping)]⟩

/-- A request. -/
def Request.read (source : Source) (d : Datum) : Reading Request := variants.read source d

/-- The kinds of responses. -/
def Response.variants : Variants Response := ⟨"Response", [
  ("Mount", fun d =>
    .mount <$> readSingle "struct variant Response::Mount" "code" readInt32 d),
  ("Chroot", fun d =>
    .chroot <$> readSingle "struct variant Response::Chroot" "code" readInt32 d),
  ("Pong", Variants.noContent .pong),
  ("Error", fun d =>
    .error <$> readSingle "struct variant Response::Error" "message" readText d)]⟩

/-- A response. -/
def Response.read (source : Source) (d : Datum) : Reading Response := variants.read source d

/-! ## Values -/

/-- The fields of a mount request with their values. -/
def MountRequest.fields? (request : MountRequest) : Option (List (String × Datum)) := do
  return [("source", ← ofPath? request.source), ("target", ← ofPath? request.target),
    ("fstype", .text request.fstype), ("flags", .nat request.flags.toNat),
    ("data", .text request.data)]

/-- The value of a mount request. -/
def MountRequest.toDatum? (request : MountRequest) : Option Datum :=
  Datum.record <$> request.fields?

/-- The value of a message of a kind. -/
def Datum.tagged (kind : String) (fields : List (String × Datum)) : Datum :=
  .record ((Variants.tag, .text kind) :: fields)

/-- The value of a request. -/
def Request.toDatum? : Request → Option Datum
  | .mount request => do return .tagged "Mount" (← request.fields?)
  | .chroot path => do return .tagged "Chroot" [("path", ← ofPath? path)]
  | .ping => some (.tagged "Ping" [])

/-- The value of a response. -/
def Response.toDatum : Response → Datum
  | .mount code => .tagged "Mount" [("code", .int code.toInt)]
  | .chroot code => .tagged "Chroot" [("code", .int code.toInt)]
  | .pong => .tagged "Pong" []
  | .error message => .tagged "Error" [("message", .text message)]

/-! ## Bytes -/

/-- The bytes of a request. One with a path that is not text has none. -/
def Request.encode? (request : Request) : Option Bytes := MessagePack.encode <$> request.toDatum?

/-- The bytes of a response. -/
def Response.encode (response : Response) : Bytes := MessagePack.encode response.toDatum

/-- The mount request that bytes begin with. -/
def MountRequest.decode (bs : Bytes) : Reading MountRequest :=
  MessagePack.decodeRecord (read .packed) bs

/-- The request that bytes begin with. -/
def Request.decode (bs : Bytes) : Reading Request := MessagePack.decode (Request.read .packed) bs

/-- The response that bytes begin with. -/
def Response.decode (bs : Bytes) : Reading Response :=
  MessagePack.decode (Response.read .packed) bs

/-! ## In messages -/

/-- A value with named parts, as a message shows it. -/
def shownFields (name : String) (fields : List (String × String)) : String :=
  name ++ " \x7b " ++ ", ".intercalate (fields.map fun (field, value) => field ++ ": " ++ value) ++
    " \x7d"

/-- A mount request as a message shows it. -/
def MountRequest.shown (request : MountRequest) : String :=
  shownFields "MountRequest" [("source", request.source.quoted), ("target", request.target.quoted),
    ("fstype", Quoted.text request.fstype), ("flags", toString request.flags.toNat),
    ("data", Quoted.text request.data)]

/-- A request as a message shows it. -/
def Request.shown : Request → String
  | .mount request => "Mount(" ++ request.shown ++ ")"
  | .chroot path => shownFields "Chroot" [("path", path.quoted)]
  | .ping => "Ping"

/-- A response as a message shows it. -/
def Response.shown : Response → String
  | .mount code => shownFields "Mount" [("code", toString code.toInt)]
  | .chroot code => shownFields "Chroot" [("code", toString code.toInt)]
  | .pong => "Pong"
  | .error message => shownFields "Error" [("message", Quoted.text message)]

end Container
