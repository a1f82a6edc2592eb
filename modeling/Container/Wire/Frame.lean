import Container.System

set_option autoImplicit false

/-!
# Frames

Messages travel as frames: four bytes with the length of the body, the highest first, and the
body. No frame is longer than a fixed limit, and both sides hold each other to it.

## Main definitions

* `Frame.header`, `Frame.bodyLength` — the four bytes of a length, and the length they say.
* `Frame.ofBody`, `Request.frame`, `Response.frame` — whole frames.
* `Channel.receiveMessage`, `Channel.sendFrame` — messages over a connection.
* `ByteStream.receive` — a connection that holds some bytes and then ends.

## Main results

* `Frame.bodyLength_header` — a header says the length it was made for.
-/

namespace Container

namespace Frame

/-- The greatest length of a body. -/
def maxLength : Nat := 1024 * 1024

/-- The header of a body. -/
def header (length : Nat) : Except ProtocolFault Bytes :=
  if length ≤ maxLength then .ok (MessagePack.bigEndianBytes 4 length)
  else .error (.frameTooLarge length)

/-- The length of the body that a header announces. -/
def bodyLength (header : Bytes) : Except ProtocolFault Nat :=
  let length := MessagePack.bigEndian header
  if length ≤ maxLength then .ok length else .error (.frameTooLarge length)

/-- A header says the length it was made for. -/
theorem bodyLength_header {length : Nat} {h : Bytes} (hh : header length = .ok h) :
    bodyLength h = .ok length := by
  simp only [header] at hh
  split at hh
  · rename_i hle
    cases hh
    have : length < 256 ^ 4 := by simp only [maxLength] at hle; omega
    simp [bodyLength, MessagePack.bigEndian_bigEndianBytes this, hle]
  · cases hh

/-- The frame of a body. -/
def ofBody (body : Bytes) : Except ProtocolFault Bytes := do
  return (← header body.length) ++ body

end Frame

/-- The frame of a request. -/
def Request.frame (request : Request) : Except ProtocolFault Bytes :=
  match request.encode? with
  | some body => Frame.ofBody body
  | none => .error .notEncodable

/-- The frame of a response. -/
def Response.frame (response : Response) : Except ProtocolFault Bytes :=
  Frame.ofBody response.encode

/-! ## Messages over a connection -/

namespace Channel

variable {σ α : Type}

/-- Sends a frame that could be made. -/
def sendFrame (channel : Channel σ) (frame : Except ProtocolFault Bytes) : Act σ Unit := do
  match frame with
  | .ok bs => Act.call (channel.send bs) .io
  | .error fault => Act.fail (.protocol fault)

/-- Receives one frame and takes the message out of it. -/
def receiveMessage (channel : Channel σ) (decode : Bytes → Datum.Reading α) : Act σ α := do
  let header ← Act.call (channel.receive 4) .io
  match Frame.bodyLength header with
  | .error fault => Act.fail (.protocol fault)
  | .ok length =>
    let body ← Act.call (channel.receive length) .io
    match decode body with
    | .ok message => return message
    | .error mismatch => Act.fail (.protocol (.notDecodable mismatch))

end Channel

/-! ## Connections that only hold bytes -/

namespace ByteStream

/-- Takes exactly so many bytes off. Where there are too few, all of them are gone. -/
def receive (n : Nat) : StateM Bytes (Except IoFault Bytes) := fun bs =>
  match MessagePack.takeBytes? n bs with
  | some (taken, rest) => (.ok taken, rest)
  | none => (.error .streamEnded, [])

/-- The connection whose other side has sent the bytes in the state and gone. -/
def channel : Channel Bytes where
  send _ := pure (.ok ())
  receive := receive
  close := pure (.ok ())

/-- The messages in the frames that bytes begin with, at most `count` of them. -/
def messages {α : Type} (decode : Bytes → Datum.Reading α) : Nat → Bytes → List α
  | 0, _ => []
  | count + 1, bs =>
    match channel.receiveMessage decode bs with
    | (.ok message, rest) => message :: messages decode count rest
    | (.error _, _) => []

end ByteStream
end Container
