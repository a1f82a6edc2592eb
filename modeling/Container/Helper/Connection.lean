import Container.Helper.Dispatcher
import Container.Wire.Frame

set_option autoImplicit false

/-!
# The helper's end of a connection

Bytes come in as they come, in pieces of any size. As soon as they make a whole frame, the
request in it is answered with a frame; what is left waits for more. A frame that is too long
or holds no request ends the connection.

## Main definitions

* `ConnectionEnd` — how a connection goes wrong.
* `Connection` — the bytes that wait, and whether the connection has ended.
* `Connection.feed` — what happens when bytes come in.
* `Connection.hangUp` — what happens when the engine goes.
-/

namespace Container

variable {σ : Type}

/-- How a connection goes wrong. -/
inductive ConnectionEnd where
  /-- A frame is too long, in either direction. -/
  | frame (fault : ProtocolFault)
  | notDecodable (mismatch : Datum.Mismatch)
  | io (fault : IoFault)

/-- The bytes that wait for more, and how the connection ended if it has. -/
structure Connection where
  waiting : Bytes
  ended? : Option ConnectionEnd

namespace Connection

/-- A connection at its beginning. -/
def start : Connection := ⟨[], none⟩

/-- What the bytes that wait begin with. -/
inductive Next where
  /-- Nothing whole yet. -/
  | incomplete
  | body (body rest : Bytes)
  | wrong (fault : ProtocolFault)

/-- The frame that bytes begin with. -/
def next (bs : Bytes) : Next :=
  match MessagePack.takeBytes? 4 bs with
  | none => .incomplete
  | some (header, rest) =>
    match Frame.bodyLength header with
    | .error fault => .wrong fault
    | .ok length =>
      match MessagePack.takeBytes? length rest with
      | none => .incomplete
      | some (body, rest) => .body body rest

/-- After a frame there is less than before. -/
theorem length_of_next {bs body rest : Bytes} (h : next bs = .body body rest) :
    rest.length < bs.length := by
  unfold next MessagePack.takeBytes? at h
  simp only at h
  split at h
  · cases h
  · rename_i header rest₀ h₀
    split at h₀
    · rename_i hlen
      cases h₀
      split at h
      · cases h
      · split at h
        · cases h
        · rename_i h₁
          split at h₁
          · cases h₁
            cases h
            simp only [List.length_take] at hlen
            simp only [List.length_drop]
            omega
          · cases h₁
    · cases h₀

/-- Answers whole frames among the bytes that wait, and adds the answers to those in
`answers`. -/
def drain (sys : System σ) (d : Dispatcher σ) (answers waiting : Bytes) :
    Act σ (Connection × Bytes) :=
  match _h : next waiting with
  | .incomplete => return (⟨waiting, none⟩, answers)
  | .wrong fault => return (⟨[], some (.frame fault)⟩, answers)
  | .body body rest =>
    match Request.decode body with
    | .error mismatch => return (⟨[], some (.notDecodable mismatch)⟩, answers)
    | .ok request => do
      let response ← d.handle sys request
      match response.frame with
      | .error fault => return (⟨[], some (.frame fault)⟩, answers)
      | .ok frame => drain sys d (answers ++ frame) rest
termination_by waiting.length
decreasing_by exact length_of_next _h

/-- Takes bytes in and answers the frames that they complete. -/
def feed (sys : System σ) (d : Dispatcher σ) (c : Connection) (bs : Bytes) :
    Act σ (Connection × Bytes) :=
  match c.ended? with
  | some _ => return (c, [])
  | none => drain sys d [] (c.waiting ++ bs)

/-- Lets the engine go. It may go between two frames or within the header of one. -/
def hangUp (sys : System σ) (c : Connection) : StateM σ (Except ConnectionEnd Unit) := do
  match c.ended? with
  | some e => return .error e
  | none =>
    if c.waiting.length < 4 then
      sys.report .debug .helper "connection closed"
      return .ok ()
    else return .error (.io .connectionEnded)

end Connection
end Container
