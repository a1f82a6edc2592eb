import Container.Proofs.Helper.Feed
import Container.Proofs.Ledger

set_option autoImplicit false

/-!
# Requests that a helper receives

A stream of bytes is read message by message until that fails for the first time. What a helper
finds among the bytes that wait is the same: a frame that it has not got the whole of is one that
cannot be read from the stream. When the engine goes, what is left decides how the connection ends.

## Main definitions

* `ByteStream.received` — the messages that bytes begin with, and what is left after them.
* `Leftover` — how a connection ends on which bytes are left that hold no request.

## Main results

* `ByteStream.received_append` — what follows goes on where receiving had stopped.
* `Connection.exists_leftover` — what becomes of what is left.
-/

namespace Container

open MessagePack

namespace ByteStream

variable {α : Type} (decode : Bytes → Datum.Reading α)

/-! ## One message -/

section One

variable {bs body rest : Bytes}

/-- What is received where there is enough, and where there is not. -/
theorem run_receive (n : Nat) (bs : Bytes) :
    (Act.call (channel.receive n) .io : Act Bytes Bytes) bs = match takeBytes? n bs with
      | some (taken, rest) => (.ok taken, rest)
      | none => (.error (.failed (.io .streamEnded)), []) := by
  rw [Act.run_call]
  simp only [channel, receive]
  cases takeBytes? n bs <;> rfl

/-- Where a whole frame is found, its body is decoded. -/
theorem receiveMessage_body (h : Connection.next bs = .body body rest) :
    channel.receiveMessage decode bs =
      ((decode body).mapError fun mismatch => .failed (.protocol (.notDecodable mismatch)),
        rest) := by
  unfold Connection.next at h
  rw [Channel.receiveMessage, Act.run_bind, run_receive]
  cases hheader : takeBytes? 4 bs with
  | none => simp [hheader] at h
  | some taken =>
    simp only [hheader] at h ⊢
    cases hlength : Frame.bodyLength taken.1 with
    | error fault => simp [hlength] at h
    | ok length =>
      simp only [hlength] at h ⊢
      rw [Act.run_bind, run_receive]
      cases hbody : takeBytes? length taken.2 with
      | none => simp [hbody] at h
      | some found =>
        simp only [hbody] at h ⊢
        obtain ⟨rfl, rfl⟩ := Connection.Next.body.inj h
        cases decode found.1 <;> rfl

/-- Where no whole frame is found, there is no message. -/
theorem receiveMessage_of_not_body (h : ∀ body rest, Connection.next bs ≠ .body body rest) :
    ∃ stop, (channel.receiveMessage decode bs).1 = .error stop := by
  unfold Connection.next at h
  rw [Channel.receiveMessage, Act.run_bind, run_receive]
  cases hheader : takeBytes? 4 bs with
  | none => exact ⟨_, rfl⟩
  | some taken =>
    simp only [hheader] at h ⊢
    cases hlength : Frame.bodyLength taken.1 with
    | error fault => exact ⟨_, rfl⟩
    | ok length =>
      simp only [hlength] at h ⊢
      rw [Act.run_bind, run_receive]
      cases hbody : takeBytes? length taken.2 with
      | none => exact ⟨_, rfl⟩
      | some found => exact absurd (by simp [hbody]) (h found.1 found.2)

/-- After a message there is less than before. -/
theorem length_of_receiveMessage {message : α}
    (h : channel.receiveMessage decode bs = (.ok message, rest)) : rest.length < bs.length := by
  by_cases hbody : ∃ body later, Connection.next bs = .body body later
  · obtain ⟨body, later, hnext⟩ := hbody
    rw [receiveMessage_body decode hnext] at h
    obtain ⟨-, rfl⟩ := Prod.mk.inj h
    exact Connection.length_of_next hnext
  · obtain ⟨stop, hstop⟩ := receiveMessage_of_not_body decode (by simpa using hbody)
    simp [h] at hstop

end One

/-! ## All messages -/

/-- The messages that are received from bytes one after the other, until that fails for the first
time, and what is left then. -/
def received (decode : Bytes → Datum.Reading α) (bs : Bytes) : List α × Bytes :=
  match _h : channel.receiveMessage decode bs with
  | (.ok message, rest) =>
    let later := received decode rest
    (message :: later.1, later.2)
  | (.error _, _) => ([], bs)
termination_by bs.length
decreasing_by exact length_of_receiveMessage decode _h

section All

variable {bs body rest : Bytes}

/-- Where no whole frame is found, all is left. -/
theorem received_of_not_body (h : ∀ body rest, Connection.next bs ≠ .body body rest) :
    received decode bs = ([], bs) := by
  obtain ⟨stop, hstop⟩ := receiveMessage_of_not_body decode h
  rw [received]
  split
  · simp_all
  · rfl

/-- Where a whole frame is found, the message in it is the first, if there is one. -/
theorem received_body (h : Connection.next bs = .body body rest) :
    received decode bs = match decode body with
      | .ok message => (message :: (received decode rest).1, (received decode rest).2)
      | .error _ => ([], bs) := by
  have hfirst := receiveMessage_body decode h
  rw [received]
  cases hdecode : decode body with
  | ok message =>
    rw [hdecode] at hfirst
    split
    case h_1 heq =>
      rw [hfirst] at heq
      cases heq
      rfl
    case h_2 heq =>
      rw [hfirst] at heq
      cases heq
  | error mismatch =>
    rw [hdecode] at hfirst
    split
    case h_1 heq =>
      rw [hfirst] at heq
      cases heq
    case h_2 => rfl

/-- Where there is no whole frame, or one that is too long, all is left. -/
theorem received_incomplete (h : Connection.next bs = .incomplete) :
    received decode bs = ([], bs) :=
  received_of_not_body decode (by simp [h])

theorem received_wrong {fault : ProtocolFault} (h : Connection.next bs = .wrong fault) :
    received decode bs = ([], bs) :=
  received_of_not_body decode (by simp [h])

/-- In what is left there is no message. -/
theorem next_received (bs : Bytes) {body rest : Bytes}
    (h : Connection.next (received decode bs).2 = .body body rest) :
    ∃ mismatch, decode body = .error mismatch := by
  induction bs using Connection.next_induction with
  | incomplete bs hnext =>
    rw [received_incomplete decode hnext, hnext] at h
    cases h
  | wrong bs fault hnext =>
    rw [received_wrong decode hnext, hnext] at h
    cases h
  | body bs first later hnext ih =>
    rw [received_body decode hnext] at h
    cases hdecode : decode first with
    | ok message =>
      rw [hdecode] at h
      exact ih h
    | error mismatch =>
      simp only [hdecode, hnext] at h
      obtain ⟨rfl, rfl⟩ := Connection.Next.body.inj h
      exact ⟨mismatch, hdecode⟩

/-- What follows goes on where receiving had stopped. -/
theorem received_append (bs later : Bytes) :
    received decode (bs ++ later) =
      ((received decode bs).1 ++ (received decode ((received decode bs).2 ++ later)).1,
        (received decode ((received decode bs).2 ++ later)).2) := by
  induction bs using Connection.next_induction with
  | incomplete bs hnext =>
    rw [received_incomplete decode hnext]
    rfl
  | wrong bs fault hnext =>
    rw [received_wrong decode hnext]
    rfl
  | body bs body rest hnext ih =>
    have hwhole := received_body decode (Connection.next_append_body hnext later)
    cases hdecode : decode body with
    | ok message =>
      rw [received_body decode hnext, hwhole, hdecode]
      simp only [ih]
      rfl
    | error mismatch =>
      rw [received_body decode hnext, hdecode]
      rfl

/-- The messages that the first bytes hold are the first messages. -/
theorem received_prefix {bs bs' : Bytes} (h : bs <+: bs') :
    (received decode bs).1 <+: (received decode bs').1 := by
  obtain ⟨later, rfl⟩ := h
  rw [received_append]
  exact List.prefix_append _ _

/-- A request that was sent is the first that is received. -/
theorem received_frame {request : Request} (hencode : request.encode? = some body)
    (hsize : body.length ≤ Frame.maxLength) (rest : Bytes) :
    received Request.decode (bigEndianBytes 4 body.length ++ body ++ rest) =
      (request :: (received Request.decode rest).1, (received Request.decode rest).2) := by
  rw [received_body _ (Connection.next_frame hsize rest), Request.decode_of_le hencode hsize]

end All
end ByteStream

/-! ## What is left of a connection -/

namespace Connection

/-- What is found in bytes, by how they are made up. -/
inductive Found : Bytes → Next → Prop
  /-- Not even the length of a frame. -/
  | short {bs : Bytes} (h : bs.length < 4) : Found bs .incomplete
  /-- The length of a frame that is too long. -/
  | oversized {header later : Bytes} {fault : ProtocolFault} (hheader : header.length = 4)
      (hlength : Frame.bodyLength header = .error fault) : Found (header ++ later) (.wrong fault)
  /-- Less than was announced. -/
  | truncated {header body : Bytes} {length : Nat} (hheader : header.length = 4)
      (hlength : Frame.bodyLength header = .ok length) (hbody : body.length < length) :
      Found (header ++ body) .incomplete
  | whole {header body rest : Bytes} (hheader : header.length = 4)
      (hlength : Frame.bodyLength header = .ok body.length) :
      Found (header ++ (body ++ rest)) (.body body rest)

/-- Whatever is found in bytes, they are made up so. -/
theorem found_next (bs : Bytes) : Found bs (next bs) := by
  unfold next
  cases hheader : takeBytes? 4 bs with
  | none => exact .short (length_of_takeBytes?_none hheader)
  | some taken =>
    obtain ⟨rfl, hfour⟩ := eq_of_takeBytes? hheader
    simp only
    cases hlength : Frame.bodyLength taken.1 with
    | error fault => exact .oversized hfour hlength
    | ok length =>
      simp only
      cases hbody : takeBytes? length taken.2 with
      | none => exact .truncated hfour hlength (length_of_takeBytes?_none hbody)
      | some found =>
        obtain ⟨hsplit, hall⟩ := eq_of_takeBytes? hbody
        rw [hsplit]
        exact .whole hfour (hall ▸ hlength)

end Connection

/-- How a connection ends on which these bytes, in which there is no request, are left when the
engine goes. -/
inductive Leftover : Bytes → Except ConnectionEnd Unit → Prop
  /-- Not even the length of a frame has come. -/
  | between {bs : Bytes} (h : bs.length < 4) : Leftover bs (.ok ())
  /-- A frame is announced that is too long. -/
  | oversized {header later : Bytes} {fault : ProtocolFault} (hheader : header.length = 4)
      (hlength : Frame.bodyLength header = .error fault) :
      Leftover (header ++ later) (.error (.frame fault))
  /-- Less has come than was announced. -/
  | truncated {header body : Bytes} {length : Nat} (hheader : header.length = 4)
      (hlength : Frame.bodyLength header = .ok length) (hbody : body.length < length) :
      Leftover (header ++ body) (.error (.io .connectionEnded))
  /-- What has come holds no request. -/
  | undecodable {header body later : Bytes} {mismatch : Datum.Mismatch}
      (hheader : header.length = 4)
      (hlength : Frame.bodyLength header = .ok body.length)
      (hdecode : Request.decode body = .error mismatch) :
      Leftover (header ++ (body ++ later)) (.error (.notDecodable mismatch))

/-- All goes well if there are too few bytes for the length of a frame, and only then. -/
theorem Leftover.eq_ok_iff {bs : Bytes} {result : Except ConnectionEnd Unit}
    (h : Leftover bs result) : result = .ok () ↔ bs.length < 4 := by
  cases h with
  | between h => simp [h]
  | oversized hheader _ => simp [hheader]
  | truncated hheader _ _ => simp [hheader]
  | undecodable hheader _ _ => simp [hheader]

namespace Connection

variable {σ : Type}

/-- **What becomes of bytes that hold no request**: nothing is done and nothing is answered, and how
the connection ends when the engine goes depends on them alone. -/
theorem exists_leftover {sys : System σ} (hsilent : sys.IsSilent) (d : Dispatcher σ) {rest : Bytes}
    (hrest : ∀ body later, next rest = .body body later →
      ∃ mismatch, Request.decode body = .error mismatch) :
    ∃ c result, Leftover rest result ∧
      (∀ answers, drain sys d answers rest = pure (c, answers)) ∧ c.hangUp sys = pure result := by
  have hfound := found_next rest
  generalize hnext : next rest = found at hfound
  cases hfound with
  | short h =>
    refine ⟨_, .ok (), .between h, drain_incomplete sys d hnext, ?_⟩
    simp only [hangUp, if_pos h, hsilent.report]
    rfl
  | @truncated header body length hheader hlength hbody =>
    refine ⟨_, _, .truncated hheader hlength hbody, drain_incomplete sys d hnext, ?_⟩
    have hfour : ¬(header ++ body).length < 4 := by
      rw [List.length_append]
      omega
    simp only [hangUp, if_neg hfour]
  | oversized hheader hlength =>
    exact ⟨_, _, .oversized hheader hlength, drain_wrong sys d hnext, rfl⟩
  | whole hheader hlength =>
    obtain ⟨mismatch, hdecode⟩ := hrest _ _ hnext
    have hdrain := drain_body sys d hnext
    rw [hdecode] at hdrain
    exact ⟨_, _, .undecodable hheader hlength hdecode, hdrain, rfl⟩

end Connection
end Container
