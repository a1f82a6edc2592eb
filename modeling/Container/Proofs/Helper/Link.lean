import Container.Privileged.Remote
import Container.Proofs.Helper.Feed
import Container.Proofs.Ledger

set_option autoImplicit false

/-!
# An engine and its helper

An engine and a helper that are connected are one system: what the engine sends is fed to the
helper at once, in whatever pieces, and what the helper answers waits until the engine takes it.
Between two calls nothing is on the way, so a call by way of the helper does to the world what the
call itself does.

## Main definitions

* `Script` — privileged operations that answer or fail, but do not break down.
* `Linked` — the state of the two, with the calls that reached the operations.
* `Link` — how they are connected, with `Link.remote`, the engine's end.
* `Request.Fits`, `Response.Fits` — messages that fit into a frame.

## Main results

* `Link.call_idle` — a request is answered by handling it.
* `Link.mount_idle`, `Link.chroot_idle`, `Link.greet_start` — the operations by way of the helper.
-/

namespace Container

variable {σ : Type}

/-! ## Messages that fit -/

/-- The bytes of the request, if it has any, fit into a frame. -/
def Request.Fits (request : Request) : Prop :=
  ∀ body, request.encode? = some body → body.length ≤ Frame.maxLength

/-- The bytes of the response fit into a frame. -/
def Response.Fits (response : Response) : Prop := response.encode.length ≤ Frame.maxLength

/-! ## The two sides -/

/-- Privileged operations that answer with a result code or fail, but do not break down. Giving
them back succeeds. -/
structure Script (σ : Type) where
  mount : MountRequest → StateM σ (Except Failure Int32)
  chroot : Path → StateM σ (Except Failure Int32)

/-- What a helper answers for an operation: nothing if it breaks down. -/
def Response.to? (performed : Int32 → Response) : Except Stop Int32 → Option Response
  | .ok code => some (performed code)
  | .error (.failed f) => some (.error f.message)
  | .error .panicked => none

/-- The messages about a call fit into frames. Only two kinds of calls are asked for by messages. -/
def Ledger.Entry.Fits : Ledger.Entry → Prop
  | .mount request answer =>
    (Request.mount request).Fits ∧ ∀ response ∈ Response.to? .mount answer, response.Fits
  | .chroot path answer =>
    (Request.chroot path).Fits ∧ ∀ response ∈ Response.to? .chroot answer, response.Fits
  | _ => True

/-- What the engine makes of an answer that a helper gave: it knows a failure only by its
wording. -/
def relayed (failure : String → Failure) : Except Stop Int32 → Except Stop Int32
  | .ok code => .ok code
  | .error (.failed f) => .error (.failed (failure f.message))
  | .error .panicked => .error .panicked

/-- The operations of a script. -/
def Script.operations (script : Script σ) : Privileged σ where
  mount request := Act.call (script.mount request) id
  chroot path := Act.call (script.chroot path) id
  close := return

/-- The state of an engine and its helper: the world with the calls made on it, whether the
helper has changed the root, the helper's end of the connection, what the engine has been sent and
has not taken yet, and whether its end is open. -/
structure Linked (σ : Type) where
  ledger : Ledger σ
  entered : Bool
  connection : Connection
  incoming : Bytes
  isOpen : Bool

namespace Linked

/-- The calls made on the world. -/
def ledgerPlace : Slot (Linked σ) (Ledger σ) where
  get l := l.ledger
  set ledger l := { l with ledger }

/-- Whether the helper has changed the root. -/
def enteredPlace : Slot (Linked σ) Bool where
  get l := l.entered
  set entered l := { l with entered }

/-- What the engine has been sent and has not taken yet. -/
def incomingPlace : Slot (Linked σ) Bytes where
  get l := l.incoming
  set incoming l := { l with incoming }

/-- Whether the engine's end is open. -/
def openPlace : Slot (Linked σ) Bool where
  get l := l.isOpen
  set isOpen l := { l with isOpen }

/-- The engine is connected and has not said anything. -/
def start (world : σ) : Linked σ := ⟨.start world, false, .start, [], false⟩

/-- The connection is open and nothing is on the way. -/
def idle (entered : Bool) (ledger : Ledger σ) : Linked σ := ⟨ledger, entered, .start, [], true⟩

end Linked

/-- How an engine and its helper are connected: what the helper performs requests by, and how the
bytes that it is sent are cut into pieces on the way. -/
structure Link (σ : Type) where
  sys : System σ
  script : Script σ
  cut : Linked σ → Bytes → List Bytes
  flatten_cut : ∀ l bs, (cut l bs).flatten = bs

namespace Link

variable (link : Link σ)

/-- The system of both. -/
def system : System (Linked σ) := Ledger.system Linked.ledgerPlace link.sys

/-- What the helper answers requests by. -/
def dispatcher : Dispatcher (Linked σ) where
  ops := Ledger.operations Linked.ledgerPlace link.script.operations
  entered := Linked.enteredPlace

/-- Sends bytes to the helper, which answers what it can. -/
def send (bs : Bytes) : StateM (Linked σ) (Except IoFault Unit) := fun l =>
  match l.connection.feedPieces link.system link.dispatcher (link.cut l bs) l with
  | (.ok (connection, answers), l) =>
    (.ok (), { l with connection, incoming := l.incoming ++ answers })
  | (.error _, l) => (.error .connectionEnded, l)

/-- The connection, as the engine sees it. -/
def channel : Channel (Linked σ) where
  send := link.send
  receive n := Linked.incomingPlace.run (ByteStream.receive n)
  close := Linked.ledgerPlace.run (Ledger.note (fun _ => .close (.ok ())) (pure (.ok ())))

/-- The engine's end. -/
def remote : Remote (Linked σ) := ⟨link.channel, Linked.openPlace⟩

/-! ## One call -/

variable {link} {entered entered' : Bool} {ledger ledger' : Ledger σ} {request : Request}
  {response : Response} {body : Bytes}

/-- The response as it waits to be taken. -/
def answered (response : Response) (l : Linked σ) : Linked σ :=
  { l with incoming := MessagePack.bigEndianBytes 4 response.encode.length ++ response.encode }

/-- A request that is sent is answered. -/
theorem send_idle (hencode : request.encode? = some body) (hsize : body.length ≤ Frame.maxLength)
    (hresponse : response.Fits)
    (hhandle : link.dispatcher.handle link.system request (.idle entered ledger) =
      (.ok response, .idle entered' ledger')) :
    link.send (MessagePack.bigEndianBytes 4 body.length ++ body) (.idle entered ledger) =
      (.ok (), answered response (.idle entered' ledger')) := by
  have hframe := Frame.ofBody_of_le hresponse
  have hconnection : (Linked.idle entered ledger).connection = .start := rfl
  rw [send, hconnection, Connection.feedPieces_eq Connection.settled_start, link.flatten_cut,
    Connection.feed_frame hencode hsize]
  simp only [Act.run_bind, hhandle, Response.frame, hframe]
  rfl

/-- What waits first is taken first. -/
theorem receive_append (link : Link σ) {n : Nat} {taken : Bytes} (h : taken.length = n)
    (rest : Bytes) (l : Linked σ) :
    link.channel.receive n { l with incoming := taken ++ rest } =
      (.ok taken, { l with incoming := rest }) := by
  simp only [channel, Slot.run_eq, ByteStream.receive, Linked.incomingPlace,
    MessagePack.takeBytes?_append h]

/-- A response that waits is taken. -/
theorem receive_answered (link : Link σ) (hresponse : response.Fits) {l : Linked σ}
    (hl : l.incoming = []) :
    link.channel.receiveMessage Response.decode (answered response l) = (.ok response, l) := by
  have hheader : Frame.header response.encode.length =
      .ok (MessagePack.bigEndianBytes 4 response.encode.length) := if_pos hresponse
  have hlast : link.channel.receive response.encode.length
      { l with incoming := response.encode } =
        (.ok response.encode, { l with incoming := [] }) := by
    simpa using receive_append link rfl [] l
  have hdecode : Response.decode response.encode = .ok response := Response.decode_of_le hresponse
  rw [Channel.receiveMessage, Act.run_bind, Act.run_call, answered, receive_append link (by simp)]
  simp only [mapError_ok, Frame.bodyLength_header hheader, Act.run_bind, Act.run_call, hlast,
    hdecode]
  rw [← hl]
  rfl

/-- A request that fits is sent as a frame. -/
theorem frame_of_encode? (hencode : request.encode? = some body)
    (hsize : body.length ≤ Frame.maxLength) :
    request.frame = .ok (MessagePack.bigEndianBytes 4 body.length ++ body) := by
  rw [Request.frame, hencode]
  exact Frame.ofBody_of_le hsize

/-- A call over an open connection sends a frame and receives one. What fails on the way is the
fault of the channel. -/
theorem call_eq {frame : Bytes} {l sent l' : Linked σ} {result : Except Stop Response}
    (hopen : l.isOpen = true) (hframe : request.frame = .ok frame)
    (hsend : link.send frame l = (.ok (), sent))
    (hreceive : link.channel.receiveMessage Response.decode sent = (result, l')) :
    link.remote.call request l =
      (result.mapError fun
        | .failed f => .failed (Remote.onTheWay f)
        | .panicked => .panicked, l') := by
  have hread : link.remote.isOpen.read l = (true, l) := by
    rw [← hopen]
    rfl
  have hsend' : link.remote.channel.send frame l = (.ok (), sent) := hsend
  have hreceive' : link.remote.channel.receiveMessage Response.decode sent = (result, l') :=
    hreceive
  simp only [Remote.call, Act.run_bind, Act.run_lift, hread, if_true, hframe, Channel.sendFrame,
    Remote.transported, Act.run_guarded, Act.run_call, hsend', mapError_ok, Act.run_pure,
    hreceive']
  rcases result with (f | _) | response <;> rfl

/-- **A request is answered by handling it.** -/
theorem call_idle (htext : request.IsText) (hfits : request.Fits) (hresponse : response.Fits)
    (hhandle : link.dispatcher.handle link.system request (.idle entered ledger) =
      (.ok response, .idle entered' ledger')) :
    link.remote.call request (.idle entered ledger) = (.ok response, .idle entered' ledger') := by
  obtain ⟨body, hencode⟩ := htext.exists_encode?
  have hsize := hfits body hencode
  exact call_eq rfl (frame_of_encode? hencode hsize) (send_idle hencode hsize hresponse hhandle)
    (receive_answered link hresponse rfl)

/-! ## The operations -/

/-- The operations of a script in the world of the engine, with the calls written down. -/
def direct (link : Link σ) : Privileged (Ledger σ) :=
  Ledger.operations .whole link.script.operations

variable {mount : MountRequest} {path : Path} {answer : Except Stop Int32}

/-- A mount is written down with its answer. -/
theorem entries_of_mount (hmade : link.direct.mount mount ledger = (answer, ledger')) :
    ledger'.entries = ledger.entries ++ [.mount mount answer] := by
  cases hmade
  rfl

/-- A change of the root is written down with its answer. -/
theorem entries_of_chroot (hmade : link.direct.chroot path ledger = (answer, ledger')) :
    ledger'.entries = ledger.entries ++ [.chroot path answer] := by
  cases hmade
  rfl

/-- The operations of a script do not break down, so there is something to answer. -/
theorem exists_response {call : StateM σ (Except Failure Int32)} {world : σ}
    (hanswer : (Act.call call id world).1 = answer) (performed : Int32 → Response) :
    ∃ response, Response.to? performed answer = some response := by
  rw [Act.run_call] at hanswer
  rcases hcall : (call world).1 with f | code
  · rw [hcall] at hanswer
    subst hanswer
    exact ⟨_, rfl⟩
  · rw [hcall] at hanswer
    subst hanswer
    exact ⟨_, rfl⟩

theorem exists_response_mount (hmade : link.direct.mount mount ledger = (answer, ledger')) :
    ∃ response, Response.to? .mount answer = some response := by
  have hanswer : (Act.call (link.script.mount mount) id ledger.world).1 = answer := by
    cases hmade
    rfl
  exact exists_response hanswer .mount

theorem exists_response_chroot (hmade : link.direct.chroot path ledger = (answer, ledger')) :
    ∃ response, Response.to? .chroot answer = some response := by
  have hanswer : (Act.call (link.script.chroot path) id ledger.world).1 = answer := by
    cases hmade
    rfl
  exact exists_response hanswer .chroot

/-- A mount is handled by making it. -/
theorem handle_mount (hmade : link.direct.mount mount ledger = (answer, ledger'))
    (hresponse : Response.to? .mount answer = some response) :
    link.dispatcher.handle link.system (.mount mount) (.idle false ledger) =
      (.ok response, .idle false ledger') := by
  have hsilent : link.system.IsSilent := Ledger.system_isSilent Linked.ledgerPlace link.sys
  have hmount : link.dispatcher.ops.mount mount (.idle false ledger) =
      (answer, .idle false ledger') := by
    show ((link.direct.mount mount ledger).1,
      Linked.idle false (link.direct.mount mount ledger).2) = _
    rw [hmade]
  have hentered : link.dispatcher.entered.read (.idle false ledger) =
      (false, Linked.idle false ledger) := rfl
  simp only [Dispatcher.handle, Dispatcher.perform, hsilent.report, Act.run_bind, Act.run_lift,
    hentered, Bool.false_eq_true, if_false, Act.pure_apply, Act.run_guarded, hmount]
  rcases answer with (f | _) | code
  · cases hresponse
    simp [Dispatcher.failed, hsilent.report]
  · cases hresponse
  · cases hresponse
    rfl

/-- A change of the root is handled by making it. Once it is made the helper remembers it. -/
theorem handle_chroot (hmade : link.direct.chroot path ledger = (answer, ledger'))
    (hresponse : Response.to? .chroot answer = some response) :
    link.dispatcher.handle link.system (.chroot path) (.idle false ledger) =
      (.ok response, .idle answer.isOk ledger') := by
  have hsilent : link.system.IsSilent := Ledger.system_isSilent Linked.ledgerPlace link.sys
  have hchroot : link.dispatcher.ops.chroot path (.idle false ledger) =
      (answer, .idle false ledger') := by
    show ((link.direct.chroot path ledger).1,
      Linked.idle false (link.direct.chroot path ledger).2) = _
    rw [hmade]
  have hentered : link.dispatcher.entered.read (.idle false ledger) =
      (false, Linked.idle false ledger) := rfl
  simp only [Dispatcher.handle, Dispatcher.perform, hsilent.report, Act.run_bind, Act.run_lift,
    hentered, Bool.false_eq_true, if_false, Act.pure_apply, Act.run_guarded, hchroot]
  rcases answer with (f | _) | code
  · cases hresponse
    simp [Dispatcher.failed, hsilent.report, Except.isOk, Except.toBool]
  · cases hresponse
  · cases hresponse
    rfl

/-- **A mount by way of the helper** does what the mount does, and fails where it fails. -/
theorem mount_idle (htext : mount.source.IsText ∧ mount.target.IsText)
    (hmade : link.direct.mount mount ledger = (answer, ledger'))
    (hfits : (Ledger.Entry.mount mount answer).Fits) :
    link.remote.mount mount (.idle false ledger) =
      (relayed (fun text => .mount (.remote mount.source mount.target text)) answer,
        .idle false ledger') := by
  obtain ⟨response, hresponse⟩ := exists_response_mount hmade
  have hrequest : (Request.mount mount).IsText := htext
  have hcall := call_idle hrequest hfits.1 (hfits.2 response hresponse)
    (handle_mount hmade hresponse)
  rw [Remote.mount, Act.run_bind, hcall]
  rcases answer with (f | _) | code
  · cases hresponse
    rfl
  · cases hresponse
  · cases hresponse
    rfl

/-- **A change of the root by way of the helper** does what the change does, and fails where it
fails. -/
theorem chroot_idle (htext : path.IsText)
    (hmade : link.direct.chroot path ledger = (answer, ledger'))
    (hfits : (Ledger.Entry.chroot path answer).Fits) :
    link.remote.chroot path (.idle false ledger) =
      (relayed (fun text => .chroot (.remote path text)) answer, .idle answer.isOk ledger') := by
  obtain ⟨response, hresponse⟩ := exists_response_chroot hmade
  have hrequest : (Request.chroot path).IsText := htext
  have hcall := call_idle hrequest hfits.1 (hfits.2 response hresponse)
    (handle_chroot hmade hresponse)
  rw [Remote.chroot, Act.run_bind, hcall]
  rcases answer with (f | _) | code
  · cases hresponse
    rfl
  · cases hresponse
  · cases hresponse
    rfl

/-- Giving the operations back is written down. -/
theorem close_direct (ledger : Ledger σ) :
    link.direct.close ledger = (.ok (), ⟨ledger.world, ledger.entries ++ [.close (.ok ())]⟩) := rfl

/-- The first question is answered, and nothing is done. -/
theorem greet_start (world : σ) :
    link.remote.greet (.start world) = (.ok (), .idle false (.start world)) := by
  have hfits : Request.Fits .ping := by
    intro body hbody
    cases hbody
    decide
  have hresponse : Response.Fits .pong := by
    unfold Response.Fits
    decide
  have htext : Request.IsText .ping := trivial
  have hcall : link.remote.call .ping (.idle false (.start world)) = _ :=
    call_idle htext hfits hresponse rfl
  have hopened : link.remote.isOpen.modify (fun _ => true) (.start world) =
      ((), Linked.idle false (.start world)) := rfl
  simp only [Remote.greet, Act.run_bind, Act.run_lift, hopened, Remote.ping, hcall, Act.run_pure]

end Link
end Container
