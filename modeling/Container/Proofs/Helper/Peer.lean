import Mathlib.Data.List.TakeWhile
import Container.Privileged.InProcess
import Container.Proofs.Ledger
import Container.Proofs.Series
import Container.Proofs.Wire.Framing

set_option autoImplicit false

/-!
# A session with any peer

Nothing is known of what is on the other side of a connection but the responses that it gives.
It may give them before it is asked, give the wrong ones, or go away; and their bytes arrive in any
pieces. Still the frames that are written and those that are taken stay in step: each call that is
sent takes the response at its own place, and no call that is not sent takes any. Once the
connection has been closed nothing is written or taken any more. Operations that are done in this
process are refused in the same way once they have been closed.

## Main definitions

* `Privileged.Operation`, `Remote.Call` — what may be asked for.
* `Peer` — the other side of a connection, with `Peer.session`, the calls of a session with it.
* `Peer.outcome` — what becomes of a call, by the calls before it.

## Main results

* `Peer.make_standing` — one call of a session.
* `Peer.session_law` — what is written, what is taken and what is answered in a whole session, and
  for a peer that gives the wrong answers `Peer.session_law_muddled`.
-/

namespace Container

variable {σ : Type}

/-! ## Calls -/

namespace Privileged

/-- What may be asked of those who can mount and change the root. -/
inductive Operation where
  | mount (request : MountRequest)
  | chroot (path : Path)
  | close
  deriving DecidableEq

/-- Performs an operation. All but the last have a result code. -/
def perform (ops : Privileged σ) : Operation → Act σ (Option Int32)
  | .mount request => return some (← ops.mount request)
  | .chroot path => return some (← ops.chroot path)
  | .close => do
    ops.close
    return none

end Privileged

namespace Remote

/-- What may be asked over a connection. -/
inductive Call where
  | ping
  | perform (operation : Privileged.Operation)
  deriving DecidableEq

/-- Makes a call. -/
def make (remote : Remote σ) : Call → Act σ (Option Int32)
  | .ping => do
    remote.ping
    return none
  | .perform operation => remote.privileged.perform operation

namespace Call

/-- The end of a connection. -/
def close : Call := .perform .close

/-- The request by which a call is sent. Only to close a connection nothing is sent. -/
def request? : Call → Option Request
  | .ping => some .ping
  | .perform (.mount request) => some (.mount request)
  | .perform (.chroot path) => some (.chroot path)
  | .perform .close => none

/-- A call by which nothing is sent ends the connection. -/
theorem eq_close {call : Call} (h : call.request? = none) : call = .close :=
  match call, h with
  | .perform .close, _ => rfl

/-- What a call makes of the response to it: the result code of a response of its own kind. -/
def settle : Call → Response → Except Failure (Option Int32)
  | .ping, .pong => .ok none
  | .perform (.mount _), .mount code => .ok (some code)
  | .perform (.chroot _), .chroot code => .ok (some code)
  | .perform (.mount request), .error text =>
    .error (.mount (.remote request.source request.target text))
  | .perform (.chroot path), .error text => .error (.chroot (.remote path text))
  | _, response => .error (.protocol (.unexpected response))

end Call

/-- **A call is a request and what is made of the response to it.** -/
theorem make_eq (remote : Remote σ) {call : Call} {request : Request}
    (hrequest : call.request? = some request) (s : σ) :
    remote.make call s = match remote.call request s with
      | (.ok response, s) => ((call.settle response).mapError .failed, s)
      | (.error stop, s) => (.error stop, s) := by
  rcases call with _ | (mount | path | _)
  · cases hrequest
    simp only [make, ping, Act.run_bind]
    rcases remote.call .ping s with ⟨_ | (_ | _ | _ | _), _⟩ <;> rfl
  · cases hrequest
    simp only [make, privileged, Privileged.perform, Remote.mount, Act.run_bind]
    rcases remote.call (.mount mount) s with ⟨_ | (_ | _ | _ | _), _⟩ <;> rfl
  · cases hrequest
    simp only [make, privileged, Privileged.perform, Remote.chroot, Act.run_bind]
    rcases remote.call (.chroot path) s with ⟨_ | (_ | _ | _ | _), _⟩ <;> rfl
  · cases hrequest

end Remote

/-! ## Peers -/

open Remote (Call)

/-- A frame with a response in it, in whatever form of the format. -/
structure Reply where
  body : Bytes
  response : Response
  length_le : body.length ≤ Frame.maxLength
  decode_eq : Response.decode body = .ok response

/-- The bytes of a reply. -/
def Reply.frame (reply : Reply) : Bytes :=
  MessagePack.bigEndianBytes 4 reply.body.length ++ reply.body

/-- The other side of a connection: what it answers, and nothing else about it. -/
structure Peer where
  replies : List Reply
  /-- The pieces in which the bytes of the replies arrive. -/
  pieces : List Bytes
  flatten_pieces : pieces.flatten = replies.flatMap Reply.frame
  /-- How many frames it takes before it goes away, if it does, and what sending meets with then. -/
  gone? : Option (Nat × IoFault)
  /-- What closing the connection comes to. -/
  closing : Except IoFault Unit

/-- The state of one end of a connection: what has arrived and was not taken yet, the frames that
were written, and whether the connection is open. -/
structure Line where
  incoming : List Bytes
  written : List Bytes
  isOpen : Bool

namespace Line

/-- What has arrived and was not taken yet. -/
def incomingPlace : Slot Line (List Bytes) where
  get line := line.incoming
  set incoming line := { line with incoming }

/-- Whether the connection is open. -/
def openPlace : Slot Line Bool where
  get line := line.isOpen
  set isOpen line := { line with isOpen }

end Line

namespace Peer

variable (peer : Peer)

/-- Why the peer takes no frame after so many. -/
def fault? (count : Nat) : Option IoFault :=
  match peer.gone? with
  | some (limit, fault) => if limit ≤ count then some fault else none
  | none => none

/-- The connection to the peer. -/
def channel : Channel Line where
  send bs := fun line =>
    match peer.fault? line.written.length with
    | some fault => (.error fault, line)
    | none => (.ok (), { line with written := line.written ++ [bs] })
  receive n := Line.incomingPlace.run (ByteStream.takeExact n)
  close := pure peer.closing

/-- The end of that connection on which calls are made. -/
def remote : Remote Line := ⟨peer.channel, Line.openPlace⟩

/-- A session: the peer is greeted, and if it answers, calls are made. -/
def session (calls : List Call) : Act Line (List (Except Failure (Option Int32))) := do
  peer.remote.greet
  Act.each peer.remote.make calls

/-- The connection before anything is said. -/
def start : Line := ⟨peer.pieces, [], false⟩

/-! ### What is to be expected -/

/-- The requests that are sent for calls: for each before the connection is closed, unless its
request cannot be sent. -/
def asked (calls : List Call) : List Request :=
  ((calls.takeWhile (· ≠ .close)).filterMap Call.request?).filter
    fun request => (Message.request request).IsSendable

/-- The frames of a session: the greeting, and one for each request. -/
def frames (calls : List Call) : List Bytes :=
  (.ping :: asked calls).map fun request => (Message.request request).framed

/-- Those of some frames that the peer takes before it goes away. -/
def heard (frames : List Bytes) : List Bytes :=
  match peer.gone? with
  | some (limit, _) => frames.take limit
  | none => frames

/-- What is received for the request at a place. -/
def reply (place : Nat) : Except IoFault Response :=
  match peer.fault? place with
  | some fault => .error fault
  | none =>
    match peer.replies[place]? with
    | some reply => .ok reply.response
    | none => .error .streamEnded

/-- What becomes of a call that is sent at a place. -/
def answer (call : Call) (place : Nat) : Except Failure (Option Int32) :=
  match peer.reply place with
  | .ok response => call.settle response
  | .error fault => .error (.channel (.transport fault))

/-- What becomes of the call that closes the connection. Where the peer hung up first, nothing is
left to close. -/
def parting : Except Failure (Option Int32) :=
  match peer.closing with
  | .ok () => .ok none
  | .error fault =>
    if fault = .os .notConnected then .ok none else .error (.channel (.notClosed fault))

/-- What becomes of a call, by the calls before it. -/
def outcome (before : List Call) (call : Call) : Except Failure (Option Int32) :=
  if .close ∈ before then .error (.channel .connectionClosed)
  else
    match call.request? with
    | none => peer.parting
    | some request =>
      match request.frame with
      | .error fault => .error (.protocol fault)
      | .ok _ => peer.answer call (frames before).length

/-! ### Frames -/

variable {peer} {before calls : List Call} {call : Call} {request : Request} {line : Line}

/-- Until the peer goes away it takes every frame. -/
theorem heard_concat {frames : List Bytes} (h : peer.fault? frames.length = none) (bs : Bytes) :
    peer.heard frames = frames ∧ peer.heard (frames ++ [bs]) = frames ++ [bs] := by
  unfold fault? at h
  unfold heard
  split at h
  · split at h
    · cases h
    · rename_i hlimit
      have hlast : (frames ++ [bs]).length = frames.length + 1 := List.length_append
      exact ⟨List.take_of_length_le (by omega), List.take_of_length_le (by omega)⟩
  · exact ⟨rfl, rfl⟩

/-- Once it has gone it takes none. -/
theorem heard_concat_of_fault {frames : List Bytes} {fault : IoFault}
    (h : peer.fault? frames.length = some fault) (bs : Bytes) :
    peer.heard (frames ++ [bs]) = peer.heard frames ∧
      peer.fault? (peer.heard frames).length = some fault := by
  unfold fault? at h ⊢
  unfold heard
  split at h
  · split at h
    · rename_i limit _ hgone hlimit
      have hlength : (frames.take limit).length = limit := List.length_take_of_le hlimit
      refine ⟨List.take_append_of_le_length hlimit, ?_⟩
      simp only
      rw [hlength, if_pos (Nat.le_refl limit), h]
    · cases h
  · cases h

/-- After the end of a connection no call is sent. -/
theorem asked_concat_of_closed (h : .close ∈ before) (call : Call) :
    asked (before ++ [call]) = asked before := by
  have htake : (before ++ [call]).takeWhile (· ≠ .close) = before.takeWhile (· ≠ .close) := by
    obtain ⟨xs, ys, rfl⟩ := List.append_of_mem h
    clear h
    induction xs with
    | nil => simp
    | cons x xs ih =>
      rw [List.cons_append, List.cons_append, List.takeWhile_cons, List.takeWhile_cons, ih]
  rw [asked, asked, htake]

/-- Before that a call is sent if its request can be. -/
theorem asked_concat (h : .close ∉ before) (call : Call) :
    asked (before ++ [call]) = asked before ++
      (call.request?.toList.filter fun request => (Message.request request).IsSendable) := by
  have hopen : ∀ c ∈ before, decide (c ≠ .close) = true := by
    intro c hc
    exact decide_eq_true fun heq => h (heq ▸ hc)
  have hall : before.takeWhile (· ≠ .close) = before := List.takeWhile_eq_self_iff.mpr hopen
  have htake : (before ++ [call]).takeWhile (· ≠ .close) =
      before ++ [call].takeWhile (· ≠ .close) := List.takeWhile_append_of_pos hopen
  have hlast : ([call].takeWhile (· ≠ .close)).filterMap Call.request? = call.request?.toList := by
    rcases call with _ | (_ | _ | _) <;> rfl
  rw [asked, asked, htake, hall, List.filterMap_append, List.filter_append, hlast]

/-- What is written for a request that can be sent. -/
theorem exists_frame_iff {bs : Bytes} :
    request.frame = .ok bs ↔
      (Message.request request).IsSendable ∧ (Message.request request).framed = bs := by
  constructor
  · intro h
    have hframe : (Message.request request).frame = .ok bs := h
    refine ⟨?_, by rw [Message.framed, hframe]⟩
    by_contra hsendable
    obtain ⟨fault, hfault⟩ := Message.exists_fault hsendable
    rw [hframe] at hfault
    cases hfault
  · rintro ⟨⟨body, hencode, hsize⟩, rfl⟩
    have hframe := Message.frame_eq hencode hsize
    have hrequest : request.frame = (Message.request request).frame := rfl
    rw [hrequest, Message.framed, hframe]

/-! ### One call -/

/-- A message is received from what has arrived. -/
theorem receiveMessage_eq (peer : Peer) (line : Line) :
    peer.channel.receiveMessage Response.decode line =
      ((ByteStream.inPieces.receiveMessage Response.decode line.incoming).1,
        { line with
          incoming := (ByteStream.inPieces.receiveMessage Response.decode line.incoming).2 }) := by
  have hreceive : ∀ n (line : Line), peer.channel.receive n line =
      ((ByteStream.inPieces.receive n line.incoming).1,
        { line with incoming := (ByteStream.inPieces.receive n line.incoming).2 }) :=
    fun _ _ => rfl
  simp only [Channel.receiveMessage, Act.run_bind, Act.run_call, hreceive]
  rcases ByteStream.inPieces.receive 4 line.incoming with ⟨_ | header, rest⟩
  · rfl
  · simp only [mapError_ok]
    cases Frame.bodyLength header with
    | error fault => rfl
    | ok length =>
      simp only [Act.run_bind, Act.run_call, hreceive]
      rcases ByteStream.inPieces.receive length rest with ⟨_ | body, rest⟩
      · rfl
      · simp only [mapError_ok]
        cases Response.decode body <;> rfl

/-- The first reply that waits is the one that is received. -/
theorem receive_reply (peer : Peer) (line : Line) {reply : Reply} {rest : Bytes}
    (h : line.incoming.flatten = reply.frame ++ rest) :
    ∃ incoming, peer.channel.receiveMessage Response.decode line =
      (.ok reply.response, { line with incoming }) ∧ incoming.flatten = rest := by
  have hwhole : ByteStream.channel.receiveMessage Response.decode (reply.frame ++ rest) =
      (.ok reply.response, rest) := by
    rw [Reply.frame, ByteStream.receiveMessage_body _ (Connection.next_frame reply.length_le rest),
      reply.decode_eq]
    rfl
  obtain ⟨incoming, hreceived, hrest⟩ :=
    (ByteStream.mirrors_receiveMessage Response.decode).exists_rest h hwhole
  exact ⟨incoming, by rw [receiveMessage_eq, hreceived], hrest⟩

/-- Where no reply waits, the stream has ended. -/
theorem receive_nothing (peer : Peer) (line : Line) (h : line.incoming.flatten = []) :
    ∃ incoming, peer.channel.receiveMessage Response.decode line =
      (.error (.failed (.io .streamEnded)), { line with incoming }) ∧ incoming.flatten = [] := by
  have hend : ByteStream.channel.receiveMessage Response.decode [] =
      (.error (.failed (.io .streamEnded)), []) := rfl
  obtain ⟨incoming, hreceived, hrest⟩ :=
    (ByteStream.mirrors_receiveMessage Response.decode).exists_rest h hend
  exact ⟨incoming, by rw [receiveMessage_eq, hreceived], hrest⟩

/-- After some frames the peer has taken those that it takes, and a reply has been taken for each
of them, as long as there were any. -/
structure Standing (peer : Peer) (frames : List Bytes) (line : Line) : Prop where
  written : line.written = peer.heard frames
  taken : line.incoming.flatten = (peer.replies.drop line.written.length).flatMap Reply.frame

/-- A call over a connection that was closed is refused at once. -/
theorem call_closed (h : line.isOpen = false) (request : Request) :
    peer.remote.call request line = (.error (.failed (.channel .connectionClosed)), line) := by
  have hread : peer.remote.isOpen.read line = (false, line) := by
    rw [← h]
    rfl
  simp [Remote.call, Act.run_bind, hread]

/-- A request that cannot be sent is refused before anything is written or taken. -/
theorem call_unsendable (h : line.isOpen = true) {fault : ProtocolFault}
    (hframe : request.frame = .error fault) :
    peer.remote.call request line = (.error (.failed (.protocol fault)), line) := by
  have hread : peer.remote.isOpen.read line = (true, line) := by
    rw [← h]
    rfl
  simp [Remote.call, Act.run_bind, hread, hframe, Channel.sendFrame, Remote.transported,
    Act.run_guarded, Remote.onTheWay]

/-- A request that is sent is answered by what is received next. What fails on the way is the fault
of the channel. -/
theorem call_sent {bs : Bytes} {sent line' : Line} {result : Except Stop Response}
    (h : line.isOpen = true) (hframe : request.frame = .ok bs)
    (hsend : peer.channel.send bs line = (.ok (), sent))
    (hreceive : peer.channel.receiveMessage Response.decode sent = (result, line')) :
    peer.remote.call request line =
      (result.mapError fun
        | .failed f => .failed (Remote.onTheWay f)
        | .panicked => .panicked, line') := by
  have hread : peer.remote.isOpen.read line = (true, line) := by
    rw [← h]
    rfl
  have hsend' : peer.remote.channel.send bs line = (.ok (), sent) := hsend
  have hreceive' : peer.remote.channel.receiveMessage Response.decode sent = (result, line') :=
    hreceive
  simp only [Remote.call, Act.run_bind, Act.run_lift, hread, if_true, hframe, Channel.sendFrame,
    Remote.transported, Act.run_guarded, Act.run_call, hsend', mapError_ok, Act.run_pure,
    hreceive']
  rcases result with (f | _) | response <;> rfl

/-- A request that the peer does not take is the fault of the channel. -/
theorem call_unsent {bs : Bytes} {fault : IoFault} (h : line.isOpen = true)
    (hframe : request.frame = .ok bs) (hsend : peer.channel.send bs line = (.error fault, line)) :
    peer.remote.call request line =
      (.error (.failed (.channel (.transport fault))), line) := by
  have hread : peer.remote.isOpen.read line = (true, line) := by
    rw [← h]
    rfl
  have hsend' : peer.remote.channel.send bs line = (.error fault, line) := hsend
  simp [Remote.call, Act.run_bind, hread, hframe, Channel.sendFrame, Remote.transported,
    Act.run_guarded, hsend', Remote.onTheWay]

/-- **A request is answered by the reply at its place**, and what is written and taken stays in
step.

**Proof sketch.** If the peer has gone, nothing is written and nothing taken. If not, one frame is
written; of the replies that wait the first one is taken, and where none waits the stream has
ended. -/
theorem call_standing {frames : List Bytes} {bs : Bytes} (h : peer.Standing frames line)
    (hopen : line.isOpen = true) (hframe : request.frame = .ok bs) :
    ∃ line', peer.remote.call request line =
        ((peer.reply frames.length).mapError fun fault => .failed (.channel (.transport fault)),
          line') ∧
      line'.isOpen = true ∧ peer.Standing (frames ++ [bs]) line' := by
  obtain ⟨hwritten, htaken⟩ := h
  cases hfault : peer.fault? frames.length with
  | some fault =>
    obtain ⟨hheard, hgone⟩ := heard_concat_of_fault hfault bs
    have hsend : peer.channel.send bs line = (.error fault, line) := by
      simp only [channel, hwritten, hgone]
    refine ⟨line, ?_, hopen, by rw [hwritten, hheard], htaken⟩
    rw [call_unsent hopen hframe hsend, reply, hfault]
    rfl
  | none =>
    obtain ⟨hheard, hall⟩ := heard_concat hfault bs
    rw [hheard] at hwritten
    have hsend : peer.channel.send bs line =
        (.ok (), { line with written := line.written ++ [bs] }) := by
      simp only [channel, hwritten, hfault]
    have hlength : (frames ++ [bs]).length = frames.length + 1 := List.length_append
    cases hreply : peer.replies[frames.length]? with
    | some found =>
      obtain ⟨hlt, hfound⟩ := List.getElem?_eq_some_iff.mp hreply
      have hwaits : line.incoming.flatten =
          found.frame ++ (peer.replies.drop (frames.length + 1)).flatMap Reply.frame := by
        rw [htaken, hwritten, List.drop_eq_getElem_cons hlt, hfound, List.flatMap_cons]
      obtain ⟨incoming, hreceive, hrest⟩ := receive_reply peer
        { line with written := line.written ++ [bs] } hwaits
      refine ⟨⟨incoming, line.written ++ [bs], line.isOpen⟩, ?_, hopen,
        by simp only [hwritten, hall], ?_⟩
      · rw [call_sent hopen hframe hsend hreceive, reply, hfault, hreply]
        rfl
      · simp only [hwritten, hlength, hrest]
    | none =>
      have hle : peer.replies.length ≤ frames.length := List.getElem?_eq_none_iff.mp hreply
      have hwaits : line.incoming.flatten = [] := by
        rw [htaken, hwritten, List.drop_eq_nil_of_le hle, List.flatMap_nil]
      obtain ⟨incoming, hreceive, hrest⟩ := receive_nothing peer
        { line with written := line.written ++ [bs] } hwaits
      refine ⟨⟨incoming, line.written ++ [bs], line.isOpen⟩, ?_, hopen,
        by simp only [hwritten, hall], ?_⟩
      · rw [call_sent hopen hframe hsend hreceive, reply, hfault, hreply]
        rfl
      · simp only [hwritten, hlength, hrest]
        rw [List.drop_eq_nil_of_le (by omega), List.flatMap_nil]

/-! ### All calls -/

/-- A session in which these calls were made: the connection is open until it is closed, and what
was written and taken is in step. -/
structure Underway (peer : Peer) (before : List Call) (line : Line) : Prop where
  isOpen : line.isOpen = decide (.close ∉ before)
  standing : peer.Standing (frames before) line

/-- Once a connection was closed every call is refused, and nothing is touched. -/
theorem make_closed (h : line.isOpen = false) (call : Call) :
    peer.remote.make call line = (.error (.failed (.channel .connectionClosed)), line) := by
  cases hrequest : call.request? with
  | some request => rw [Remote.make_eq _ hrequest, call_closed h]
  | none =>
    obtain rfl := Call.eq_close hrequest
    have hread : peer.remote.isOpen.read line = (false, line) := by
      rw [← h]
      rfl
    simp [Call.close, Remote.make, Privileged.perform, Remote.privileged, Remote.close,
      Act.run_bind, hread]

/-- An open connection is closed once. -/
theorem make_close (h : line.isOpen = true) :
    peer.remote.make .close line =
      (peer.parting.mapError .failed, { line with isOpen := false }) := by
  have hread : peer.remote.isOpen.read line = (true, line) := by
    rw [← h]
    rfl
  simp only [Call.close, Remote.make, Privileged.perform, Remote.privileged, Remote.close,
    Act.run_bind, Act.run_lift, hread, if_true]
  have hclose : ∀ line, peer.remote.channel.close line = (peer.closing, line) := fun _ => rfl
  rw [hclose, parting]
  rcases peer.closing with fault | ⟨⟩
  · by_cases hgone : fault = .os .notConnected <;> simp [IoFault.isNotConnected, hgone] <;> rfl
  · rfl

/-- **One call of a session** comes to what is to be expected after the calls before it.

**Proof sketch.** Only a call that is sent takes a reply, and it is at the place that its frame has
among those written. All other calls leave the line as it is, but that one of them closes it. -/
theorem make_standing (h : peer.Underway before line) (call : Call) :
    ∃ line', (peer.remote.make call).guarded line = (.ok (peer.outcome before call), line') ∧
      peer.Underway (before ++ [call]) line' := by
  obtain ⟨hopen, hstanding⟩ := h
  by_cases hclosed : .close ∈ before
  · have hsame : frames (before ++ [call]) = frames before := by
      rw [frames, frames, asked_concat_of_closed hclosed]
    refine ⟨line, ?_, ⟨?_, hsame ▸ hstanding⟩⟩
    · rw [Act.run_guarded, make_closed (by simpa [hclosed] using hopen), outcome, if_pos hclosed]
    · rw [hopen]
      simp [hclosed]
  · have hisOpen : line.isOpen = true := by simpa [hclosed] using hopen
    cases hrequest : call.request? with
    | none =>
      obtain rfl := Call.eq_close hrequest
      have hsame : frames (before ++ [.close]) = frames before := by
        rw [frames, frames, asked_concat hclosed, hrequest]
        simp
      refine ⟨{ line with isOpen := false }, ?_, ⟨by simp, ?_⟩⟩
      · rw [Act.run_guarded, make_close hisOpen, outcome, if_neg hclosed, hrequest]
        cases peer.parting <;> rfl
      · rw [hsame]
        exact ⟨hstanding.written, hstanding.taken⟩
    | some request =>
      have hnotClose : call ≠ .close := by
        rintro rfl
        cases hrequest
      cases hframe : request.frame with
      | error fault =>
        have hunsendable : ¬ (Message.request request).IsSendable := by
          intro hsendable
          rw [exists_frame_iff.mpr ⟨hsendable, rfl⟩] at hframe
          cases hframe
        have hsame : frames (before ++ [call]) = frames before := by
          rw [frames, frames, asked_concat hclosed, hrequest]
          simp [hunsendable]
        refine ⟨line, ?_, ⟨?_, hsame ▸ hstanding⟩⟩
        · rw [Act.run_guarded, Remote.make_eq _ hrequest, call_unsendable hisOpen hframe, outcome,
            if_neg hclosed, hrequest]
          simp only [hframe]
        · rw [hopen]
          simp [hclosed, Ne.symm hnotClose]
      | ok bs =>
        obtain ⟨hsendable, hframed⟩ := exists_frame_iff.mp hframe
        have hmore : frames (before ++ [call]) = frames before ++ [bs] := by
          rw [frames, frames, asked_concat hclosed, hrequest]
          simp [hsendable, hframed]
        obtain ⟨line', hcall, hopen', hstanding'⟩ := call_standing hstanding hisOpen hframe
        refine ⟨line', ?_, ⟨?_, hmore ▸ hstanding'⟩⟩
        · rw [Act.run_guarded, Remote.make_eq _ hrequest, hcall, outcome, if_neg hclosed, hrequest]
          simp only [hframe, answer]
          cases peer.reply (frames before).length with
          | error fault => rfl
          | ok response =>
            simp only [mapError_ok]
            cases call.settle response <;> rfl
        · rw [hopen']
          simp [hclosed, Ne.symm hnotClose]

/-- The peer is greeted, which is a call of its own. -/
theorem greet_standing (peer : Peer) :
    ∃ line, peer.remote.greet peer.start =
        ((peer.answer .ping 0).map (fun _ => ()) |>.mapError .failed, line) ∧
      peer.Underway [] line := by
  have hframe : Request.ping.frame = .ok (Message.request .ping).framed := by
    exact exists_frame_iff.mpr ⟨by decide, rfl⟩
  have hstart : peer.Standing [] { peer.start with isOpen := true } := by
    have hnothing : peer.heard [] = [] := by
      unfold heard
      split <;> simp
    exact ⟨hnothing.symm, peer.flatten_pieces⟩
  obtain ⟨line, hcall, hopen, hstanding⟩ := call_standing hstart rfl hframe
  refine ⟨line, ?_, ⟨by simp [hopen], hstanding⟩⟩
  have hopened : peer.remote.isOpen.modify (fun _ => true) peer.start =
      ((), { peer.start with isOpen := true }) := rfl
  simp only [Remote.greet, Remote.ping, Act.run_bind, Act.run_lift, hopened, hcall, answer]
  cases peer.reply 0 with
  | error fault => rfl
  | ok response => cases response <;> rfl

/-- What is known of a session in which calls are made one after the other. -/
structure SessionLaw (peer : Peer) (calls : List Call)
    (result : Except Stop (List (Except Failure (Option Int32)))) (line : Line) : Prop where
  /-- There is a session exactly if the first response is that to a greeting. -/
  greeted : (∃ outcomes, result = .ok outcomes) ↔ peer.reply 0 = .ok .pong
  /-- If there is none, that is the fault of the channel or breaks the protocol. -/
  refused : ∀ stop, result = .error stop →
    ∃ failure, stop = .failed failure ∧ peer.answer .ping 0 = .error failure
  /-- Each call comes to what is to be expected after the calls before it. -/
  answered : ∀ outcomes, result = .ok outcomes → outcomes.length = calls.length ∧
    ∀ before call later, calls = before ++ call :: later →
      outcomes[before.length]? = some (peer.outcome before call)
  /-- The greeting is written and a frame for each call that can be sent before the connection is
  closed, as long as the peer takes any. -/
  written : line.written = peer.heard (frames (if result.isOk then calls else []))
  /-- As many replies are taken as frames are written, while there are any. -/
  taken : line.incoming.flatten = (peer.replies.drop line.written.length).flatMap Reply.frame

theorem sessionLaw (peer : Peer) (calls : List Call) :
    peer.SessionLaw calls (peer.session calls peer.start).1 (peer.session calls peer.start).2 := by
  obtain ⟨line, hgreet, hunderway⟩ := greet_standing peer
  rw [session, Act.run_bind, hgreet]
  have hanswer : (∃ failure, peer.answer .ping 0 = .error failure) ∨
      peer.reply 0 = .ok .pong ∧ peer.answer .ping 0 = .ok none := by
    rw [answer]
    cases peer.reply 0 with
    | error fault => exact .inl ⟨_, rfl⟩
    | ok response =>
      cases response with
      | pong => exact .inr ⟨rfl, rfl⟩
      | _ => exact .inl ⟨_, rfl⟩
  rcases hanswer with ⟨failure, hfailure⟩ | ⟨hpong, hgreeted⟩
  · have hnotPong : peer.reply 0 ≠ .ok .pong := by
      intro hpong
      rw [answer, hpong] at hfailure
      cases hfailure
    rw [hfailure]
    refine ⟨⟨?_, fun hpong => absurd hpong hnotPong⟩, ?_, ?_, hunderway.standing.written,
      hunderway.standing.taken⟩
    · rintro ⟨outcomes, ⟨⟩⟩
    · rintro stop ⟨⟩
      exact ⟨failure, rfl, hfailure⟩
    · rintro outcomes ⟨⟩
  · obtain ⟨line', hrun, hunderway'⟩ := Act.each_of_step (Act.byHistory peer.outcome)
      (fun call before line h => make_standing h call) calls hunderway
    obtain ⟨hnoted, hlength, houtcomes⟩ := Act.byHistory_split peer.outcome [] calls
    rw [hnoted, List.nil_append] at hunderway'
    rw [hgreeted]
    show peer.SessionLaw calls (Act.each peer.remote.make calls line).1
      (Act.each peer.remote.make calls line).2
    rw [hrun]
    refine ⟨⟨fun _ => hpong, fun _ => ⟨_, rfl⟩⟩, ?_, ?_, hunderway'.standing.written,
      hunderway'.standing.taken⟩
    · rintro stop ⟨⟩
    · rintro outcomes ⟨⟩
      exact ⟨hlength, fun before call later hsplit => by
        simpa using houtcomes before call later hsplit⟩

end Peer

/-! ## Operations of this process -/

namespace Privileged

/-- The operations of this process, for one that never closes them. -/
def unguarded (sys : System σ) : Privileged σ where
  mount request := do
    sys.mountNow request
    return 0
  chroot path := do
    sys.changeRootNow path
    return 0
  close := return

/-- The operations of this process in a world with the calls made on it, and whether they were
closed. -/
def guarded (sys : System σ) : Privileged (Ledger σ × Bool) :=
  inProcess (Ledger.system .first sys) .second

variable {sys : System σ} {ledger : Ledger σ}

/-- Until they are closed the operations make their calls. -/
theorem perform_guarded_open {operation : Operation} (h : operation ≠ .close) :
    (guarded sys).perform operation (ledger, false) =
      (((unguarded (Ledger.system .whole sys)).perform operation ledger).1,
        ((unguarded (Ledger.system .whole sys)).perform operation ledger).2, false) := by
  have hread : (Slot.second : Slot (Ledger σ × Bool) Bool).read (ledger, false) =
      (false, (ledger, false)) := rfl
  cases operation with
  | mount request =>
    simp only [guarded, unguarded, perform, inProcess, ensureOpen, System.mountNow, Act.run_bind,
      Act.run_lift, hread, Bool.false_eq_true, if_false, Act.run_pure, Act.run_call]
    have hmount : ∀ request, (Ledger.system Slot.first sys).mount request (ledger, false) =
        (((Ledger.system Slot.whole sys).mount request ledger).1,
          ((Ledger.system Slot.whole sys).mount request ledger).2, false) := fun _ => rfl
    rw [hmount]
    rcases (Ledger.system Slot.whole sys).mount _ ledger with ⟨_ | _, _⟩ <;> rfl
  | chroot path =>
    simp only [guarded, unguarded, perform, inProcess, ensureOpen, System.changeRootNow,
      Act.run_bind, Act.run_lift, hread, Bool.false_eq_true, if_false, Act.run_pure, Act.run_call]
    have hchroot : (Ledger.system Slot.first sys).changeRoot path (ledger, false) =
        (((Ledger.system Slot.whole sys).changeRoot path ledger).1,
          ((Ledger.system Slot.whole sys).changeRoot path ledger).2, false) := rfl
    rw [hchroot]
    rcases (Ledger.system Slot.whole sys).changeRoot path ledger with ⟨_ | _, _⟩ <;> rfl
  | close => exact absurd rfl h

/-- Once they were closed they are refused, and no call is made. -/
theorem perform_guarded_closed (operation : Operation) :
    (guarded sys).perform operation (ledger, true) =
      (.error (.failed (.channel .operationsClosed)), (ledger, true)) := by
  cases operation <;> rfl

/-- An operation that is done by calls does not break down. -/
theorem exists_outcome (sys : System σ) (operation : Operation) (s : σ) :
    ∃ outcome s', ((unguarded sys).perform operation).guarded s = (.ok outcome, s') := by
  rw [Act.run_guarded]
  cases operation with
  | mount request =>
    simp only [unguarded, perform, System.mountNow, Act.run_bind, Act.run_call]
    rcases sys.mount _ s with ⟨_ | _, s'⟩ <;> exact ⟨_, s', rfl⟩
  | chroot path =>
    simp only [unguarded, perform, System.changeRootNow, Act.run_bind, Act.run_call]
    rcases sys.changeRoot path s with ⟨_ | _, s'⟩ <;> exact ⟨_, s', rfl⟩
  | close => exact ⟨_, s, rfl⟩

/-- What becomes of operations of which the first gives the others up: it succeeds, and they are
refused. -/
def givenUp : List Operation → List (Except Failure (Option Int32))
  | [] => []
  | _ :: later => .ok none :: later.map fun _ => .error (.channel .operationsClosed)

/-- Operations that come after the end are all refused. -/
theorem each_closed (operations : List Operation) :
    Act.each (guarded sys).perform operations (ledger, true) =
      (.ok (operations.map fun _ => .error (.channel .operationsClosed)), (ledger, true)) := by
  induction operations with
  | nil => rfl
  | cons operation operations ih =>
    have hrefused : ((guarded sys).perform operation).guarded (ledger, true) =
        (.ok (.error (.channel .operationsClosed)), (ledger, true)) := by
      rw [Act.run_guarded, perform_guarded_closed]
    rw [Act.each_cons hrefused, ih]
    rfl

/-- **Operations until they are closed, and after that**: those before make their calls, and those
after make none.

**Proof sketch.** By induction on the operations, up to the first that closes them. -/
theorem each_guarded (sys : System σ) (operations : List Operation) (ledger : Ledger σ) :
    ∃ outcomes ledger',
      Act.each (unguarded (Ledger.system .whole sys)).perform
          (operations.takeWhile (· ≠ .close)) ledger = (.ok outcomes, ledger') ∧
      Act.each (guarded sys).perform operations (ledger, false) =
        (.ok (outcomes ++ givenUp (operations.dropWhile (· ≠ .close))),
          (ledger', decide (.close ∈ operations))) := by
  induction operations generalizing ledger with
  | nil => exact ⟨[], ledger, rfl, rfl⟩
  | cons operation operations ih =>
    by_cases hclose : operation = .close
    · subst hclose
      have hclosed : ((guarded sys).perform .close).guarded (ledger, false) =
          (.ok (.ok none), (ledger, true)) := rfl
      refine ⟨[], ledger, by simp, ?_⟩
      rw [Act.each_cons hclosed, each_closed]
      simp [givenUp, Except.map]
    · obtain ⟨outcome, ledger', hfirst⟩ :=
        exists_outcome (Ledger.system .whole sys) operation ledger
      have hfirst' : ((guarded sys).perform operation).guarded (ledger, false) =
          (.ok outcome, (ledger', false)) := by
        rw [Act.run_guarded] at hfirst ⊢
        rw [perform_guarded_open hclose]
        generalize (unguarded (Ledger.system .whole sys)).perform operation ledger = made
          at hfirst ⊢
        rcases made with ⟨(_ | _) | _, _⟩ <;> cases hfirst <;> rfl
      obtain ⟨outcomes, ledger'', hrest, hrest'⟩ := ih ledger'
      refine ⟨outcome :: outcomes, ledger'', ?_, ?_⟩
      · rw [List.takeWhile_cons_of_pos (by simpa using hclose), Act.each_cons hfirst, hrest]
        rfl
      · rw [List.dropWhile_cons_of_pos (by simpa using hclose), Act.each_cons hfirst', hrest']
        simp [Except.map, Ne.symm hclose]

end Privileged

/-- **Sessions with any peer, and operations of this process.**

* Whatever responses a peer gives, and in whatever pieces they arrive, the frames that are written
  in a session are that of the greeting and one for each call before the connection is closed,
  unless its request cannot be sent; each of these calls is answered by the response at its own
  place, and all others take none. After the end of the connection nothing is written or taken any
  more, and every call is refused.
* Operations that are done in this process make their calls until they are closed, and after that
  make none and are refused in the same way.

**Proof sketch.** One call of a session that is underway comes to what is to be expected, and
leaves it underway; from that it follows for all calls by induction. -/
theorem Peer.session_law :
    (∀ (peer : Peer) (calls : List Call),
      peer.SessionLaw calls (peer.session calls peer.start).1
        (peer.session calls peer.start).2) ∧
    ∀ (σ : Type) (sys : System σ) (operations : List Privileged.Operation) (ledger : Ledger σ),
      ∃ outcomes ledger',
        Act.each (Privileged.unguarded (Ledger.system .whole sys)).perform
            (operations.takeWhile (· ≠ .close)) ledger = (.ok outcomes, ledger') ∧
        Act.each (Privileged.guarded sys).perform operations (ledger, false) =
          (.ok (outcomes ++ Privileged.givenUp (operations.dropWhile (· ≠ .close))),
            (ledger', decide (.close ∈ operations))) :=
  ⟨Peer.sessionLaw, fun _ sys operations ledger => Privileged.each_guarded sys operations ledger⟩

/-! ## A peer that answers the wrong thing -/

/-- The reply in which a response is written as this library writes it. -/
def Reply.plain (response : Response) (hshort : response.IsShort)
    (hlength : response.encode.length ≤ Frame.maxLength) : Reply :=
  ⟨response.encode, response, hlength, by simpa using Response.decode_encode response hshort []⟩

namespace Peer

/-- The answers to a greeting and to a mount, then one to a mount that is not the next call, and a
refusal. -/
def muddledReplies : List Reply :=
  [.plain .pong trivial (by decide), .plain (.mount 0) trivial (by decide),
    .plain (.mount 7) trivial (by decide),
    .plain (.error "denied") (by unfold Response.IsShort; decide) (by decide)]

/-- A peer that gives those answers, cut in two within the first frame, and hangs up after that. -/
def muddled : Peer where
  replies := muddledReplies
  pieces :=
    [(muddledReplies.flatMap Reply.frame).take 7, (muddledReplies.flatMap Reply.frame).drop 7]
  flatten_pieces := by simp
  gone? := none
  closing := .error (.os .notConnected)

/-- The calls of a session with that peer. -/
def muddledCalls : List Call :=
  [.perform (.mount ⟨"/dev", "/run/final/dev", "", 4096, ""⟩), .ping,
    .perform (.chroot "/run/session"), .close, .ping]

/-- Each call takes the answer at its own place, be it of the wrong kind, and none takes that of
another. After the connection was closed a call is refused. -/
theorem session_law_muddled :
    let ended := muddled.session muddledCalls muddled.start
    ended.1 = .ok [.ok (some 0), .error (.protocol (.unexpected (.mount 7))),
      .error (.chroot (.remote "/run/session" "denied")), .ok none,
      .error (.channel .connectionClosed)] ∧
    ended.2.written = frames muddledCalls ∧ ended.2.incoming.flatten = [] := by
  intro ended
  have hlaw := session_law.1 muddled muddledCalls
  obtain ⟨outcomes, hended⟩ := hlaw.greeted.mpr rfl
  obtain ⟨hlength, hanswers⟩ := hlaw.answered outcomes hended
  have hwritten : ended.2.written = frames muddledCalls := by
    rw [hlaw.written, hended]
    rfl
  have hcount : (frames muddledCalls).length = 4 := by rfl
  refine ⟨?_, hwritten, ?_⟩
  · rw [hended]
    refine congrArg Except.ok (List.ext_getElem? fun place => ?_)
    match place with
    | 0 => exact hanswers [] _ _ rfl
    | 1 => exact hanswers (muddledCalls.take 1) _ _ rfl
    | 2 => exact hanswers (muddledCalls.take 2) _ _ rfl
    | 3 => exact hanswers (muddledCalls.take 3) _ _ rfl
    | 4 => exact hanswers (muddledCalls.take 4) _ _ rfl
    | place + 5 => simp [muddledCalls, hlength]
  · rw [hlaw.taken, hwritten, hcount]
    rfl

end Peer

end Container
