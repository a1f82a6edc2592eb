import Container.Privileged.InProcess
import Container.Proofs.Helper.Link
import Container.Proofs.Wire.RoundTrip

set_option autoImplicit false

/-!
# Refusals of the system, as an engine learns of them

The system may refuse a mount or a change of the root to a helper. The helper says so in its
response, in the words of its own failure, and the engine fails with those words. They repeat the
paths of the request and add some more, so the response may be longer than the request. Where it is
too long for a frame the helper ends the connection, and the engine learns nothing of the reason.

## Main definitions

* `Link.IsInProcess` — the helper performs requests by the system calls of its process.
* `Link.Surfaces`, `Link.IsLost` — what a refusal may come to for the engine.

## Main results

* `Response.fits_error_iff` — which failures fit into a frame.
* `Link.call_tooLong` — a request whose response does not fit.
* `Link.refusals` — what every refusal comes to.
* `Link.exists_lost` — requests that fit, and whose refusal is lost whatever its reason.
-/

namespace Container

open MessagePack

variable {σ : Type}

/-! ## Sizes -/

theorem Utf8.length_bytes (s : String) : (Utf8.bytes s).length = s.utf8ByteSize := by
  simp [Utf8.bytes]

namespace MessagePack

/-- The head of a string is short. -/
theorem length_textHead_le (size : Nat) : (textHead size).length ≤ 5 := by
  unfold textHead
  split
  · simp
  · split
    · simp
    · split <;> simp

/-- The head of a long string is as long as heads get. -/
theorem length_textHead_of_le {size : Nat} (h : 2 ^ 16 ≤ size) : (textHead size).length = 5 := by
  have hfive : ¬size < 2 ^ 5 := by omega
  have height : ¬size < 2 ^ 8 := by omega
  have hsixteen : ¬size < 2 ^ 16 := by omega
  rw [textHead, if_neg hfive, if_neg height, if_neg hsixteen, List.length_cons,
    length_bigEndianBytes]

/-- How long a message with one text is. -/
theorem length_encode_single (kind field text : String) :
    (encode (.tagged kind [(field, .text text)])).length =
      6 + (encode (.text kind)).length + (encode (.text field)).length +
        ((textHead text.utf8ByteSize).length + text.utf8ByteSize) := by
  have htag : (encode (.text "type")).length = 5 := by decide
  have hhead : (mapHead 2).length = 1 := by decide
  have htext : (encode (.text text)).length =
      (textHead text.utf8ByteSize).length + text.utf8ByteSize := by
    simp only [encode, List.length_append, Utf8.length_bytes]
  rw [Wire.encode_tagged]
  simp only [List.map_cons, List.map_nil, List.length_cons, List.length_nil, encodeEntries,
    List.length_append, htag, hhead, htext]
  omega

end MessagePack

/-- **Which failures fit**: those whose wording leaves some bytes of a frame for what goes with
it. -/
theorem Response.fits_error_iff (text : String) :
    (Response.error text).Fits ↔ text.utf8ByteSize + 25 ≤ Frame.maxLength := by
  have hkind : (MessagePack.encode (.text "Error")).length = 6 := by decide
  have hfield : (MessagePack.encode (.text "message")).length = 8 := by decide
  have hlength : (Response.error text).encode.length =
      20 + ((textHead text.utf8ByteSize).length + text.utf8ByteSize) := by
    rw [Response.encode, Response.toDatum, length_encode_single, hkind, hfield]
  rw [Response.Fits, hlength]
  by_cases hlong : 2 ^ 16 ≤ text.utf8ByteSize
  · rw [length_textHead_of_le hlong]
    omega
  · have hhead := length_textHead_le text.utf8ByteSize
    simp only [Frame.maxLength]
    omega

/-- How long a request for a change of the root is. -/
theorem Request.fits_chroot {path : String} (h : path.utf8ByteSize + 23 ≤ Frame.maxLength) :
    (Request.chroot (Path.ofText path)).Fits := by
  have hkind : (MessagePack.encode (.text "Chroot")).length = 7 := by decide
  have hfield : (MessagePack.encode (.text "path")).length = 5 := by decide
  have hhead := length_textHead_le path.utf8ByteSize
  intro body hbody
  obtain rfl : MessagePack.encode (.tagged "Chroot" [("path", .text path)]) = body := by
    simpa [Request.encode?, Request.toDatum?, Datum.ofPath?] using hbody
  rw [length_encode_single, hkind, hfield]
  omega

/-! ## Requests whose responses do not fit -/

namespace Link

variable {link : Link σ} {entered entered' : Bool} {ledger ledger' : Ledger σ} {request : Request}
  {response : Response}

/-- The state after the helper has ended the connection over a response that is too long. -/
def brokenOff (entered : Bool) (ledger : Ledger σ) (response : Response) : Linked σ :=
  { Linked.idle entered ledger with
    connection := ⟨[], some (.frame (.frameTooLarge response.encode.length))⟩ }

/-- **A request whose response does not fit** is performed, and the connection is over. -/
theorem call_tooLong (htext : request.IsText) (hfits : request.Fits) (hresponse : ¬response.Fits)
    (hhandle : link.dispatcher.handle link.system request (.idle entered ledger) =
      (.ok response, .idle entered' ledger')) :
    link.remote.call request (.idle entered ledger) =
      (.error (.failed (.channel (.transport .streamEnded))),
        brokenOff entered' ledger' response) := by
  obtain ⟨body, hencode⟩ := htext.exists_encode?
  have hsize := hfits body hencode
  have htooLong : response.frame = .error (.frameTooLarge response.encode.length) :=
    Frame.ofBody_of_not_le hresponse
  have hsend : link.send (bigEndianBytes 4 body.length ++ body) (.idle entered ledger) =
      (.ok (), brokenOff entered' ledger' response) := by
    have hconnection : (Linked.idle entered ledger).connection = .start := rfl
    rw [send, hconnection, Connection.feedPieces_eq Connection.settled_start, link.flatten_cut,
      Connection.feed_frame hencode hsize]
    simp only [Act.run_bind, hhandle, htooLong]
    rfl
  exact call_eq rfl (frame_of_encode? hencode hsize) hsend rfl

/-! ## Operations in the process of the helper -/

/-- The helper performs requests by the system calls of its process, unless it has closed the
operations. -/
structure IsInProcess (link : Link σ) (closed : Slot σ Bool) : Prop where
  mount : ∀ request s, closed.get s = false → link.script.operations.mount request s =
    (Privileged.inProcess link.sys closed).mount request s
  chroot : ∀ path s, closed.get s = false → link.script.operations.chroot path s =
    (Privileged.inProcess link.sys closed).chroot path s

end Link

/-- What an operation answers when it makes a system call: a result code, or why the call failed. -/
def Script.answer (call : StateM σ (Except Errno Unit)) (failure : Errno → Failure) :
    StateM σ (Except Failure Int32) := do
  let answer ← call
  return (answer.map fun _ => 0).mapError failure

/-- The system calls of a process as a script. -/
def Script.ofSystem (sys : System σ) : Script σ where
  mount request :=
    answer (sys.mount { request with flags := request.flags &&& MountFlags.known })
      fun errno => .mount (.refused request.source request.target errno)
  chroot path := answer (sys.changeRoot path) fun errno => .chroot (.refused path errno)

/-- An operation that makes a system call makes that call. -/
theorem Script.call_answer (call : StateM σ (Except Errno Unit)) (failure : Errno → Failure)
    (s : σ) :
    (Act.call (answer call failure) id : Act σ Int32) s =
      (Act.call call failure >>= fun _ => pure (0 : Int32)) s := by
  have hanswer : answer call failure s =
      (((call s).1.map fun _ => 0).mapError failure, (call s).2) := rfl
  rw [Act.run_call, hanswer, Act.run_bind, Act.run_call]
  rcases call s with ⟨errno | ⟨⟩, s'⟩ <;> rfl

namespace Privileged

variable {sys : System σ} {closed : Slot σ Bool} {s : σ}

/-- Operations that are open make the call. -/
theorem inProcess_mount (hopen : closed.get s = false) (request : MountRequest) :
    (inProcess sys closed).mount request s =
      (sys.mountNow request >>= fun _ => pure (0 : Int32)) s := by
  have hread : closed.read s = (false, s) := by rw [Slot.read, hopen]
  simp only [inProcess, ensureOpen, bind_assoc, Act.run_bind, Act.run_lift, hread]
  rfl

theorem inProcess_chroot (hopen : closed.get s = false) (path : Path) :
    (inProcess sys closed).chroot path s =
      (sys.changeRootNow path >>= fun _ => pure (0 : Int32)) s := by
  have hread : closed.read s = (false, s) := by rw [Slot.read, hopen]
  simp only [inProcess, ensureOpen, bind_assoc, Act.run_bind, Act.run_lift, hread]
  rfl

end Privileged

namespace Link

variable {link : Link σ} {closed : Slot σ Bool} {ledger : Ledger σ}

/-- There is such a helper for every system. -/
theorem isInProcess_ofSystem (hscript : link.script = .ofSystem link.sys) :
    link.IsInProcess closed where
  mount request s hopen := by
    rw [Privileged.inProcess_mount hopen, hscript]
    exact Script.call_answer _ _ s
  chroot path s hopen := by
    rw [Privileged.inProcess_chroot hopen, hscript]
    exact Script.call_answer _ _ s

/-! ## What becomes of a refusal -/

/-- The next request is answered as well, by handling it. -/
def IsUsable (link : Link σ) (entered : Bool) (ledger : Ledger σ) : Prop :=
  ∀ (request : Request) (response : Response) (entered' : Bool) (ledger' : Ledger σ),
    request.IsText → request.Fits → response.Fits →
    link.dispatcher.handle link.system request (.idle entered ledger) =
      (.ok response, .idle entered' ledger') →
    link.remote.call request (.idle entered ledger) = (.ok response, .idle entered' ledger')

/-- The engine fails in the words of the helper, and the connection can be used on. -/
def Surfaces (link : Link σ) (call : Act (Linked σ) Int32) (ledger ledger' : Ledger σ)
    (f told : Failure) : Prop :=
  call (.idle false ledger) = (.error (.failed told), .idle false ledger') ∧
    (∃ before, told.message = before ++ f.message) ∧ link.IsUsable false ledger'

/-- The engine fails because the helper has ended the connection over its own answer. -/
def IsLost (call : Act (Linked σ) Int32) (ledger ledger' : Ledger σ) (f : Failure) : Prop :=
  call (.idle false ledger) =
    (.error (.failed (.channel (.transport .streamEnded))),
      brokenOff false ledger' (.error f.message))

variable {mount : MountRequest} {path : Path} {errno : Errno}

/-- What the wording of a failure is that a helper reported. -/
theorem message_remote_mount (source target : Path) (text : String) :
    ∃ before, (Failure.mount (.remote source target text)).message = before ++ text := by
  refine ⟨"mount error: " ++ ("remote mount of " ++ source.display ++ " on " ++ target.display ++
    " failed: "), ?_⟩
  rw [String.append_assoc]
  rfl

theorem message_remote_chroot (path : Path) (text : String) :
    ∃ before, (Failure.chroot (.remote path text)).message = before ++ text := by
  refine ⟨"chroot error: " ++ ("remote chroot to " ++ path.display ++ " failed: "), ?_⟩
  rw [String.append_assoc]
  rfl

/-- A mount that the system refuses is written down with the reason. -/
theorem direct_mount_refused (hops : link.IsInProcess closed)
    (hopen : closed.get ledger.world = false)
    (hrefused : (link.sys.mount { mount with flags := mount.flags &&& MountFlags.known }
      ledger.world).1 = .error errno) :
    ∃ ledger', link.direct.mount mount ledger =
      (.error (.failed (.mount (.refused mount.source mount.target errno))), ledger') := by
  have hmade : (link.script.operations.mount mount ledger.world).1 =
      .error (.failed (.mount (.refused mount.source mount.target errno))) := by
    rw [hops.mount mount _ hopen, Privileged.inProcess_mount hopen, Act.run_bind, System.mountNow,
      Act.run_call, hrefused]
    rfl
  exact ⟨_, Prod.ext hmade rfl⟩

/-- A change of the root that the system refuses is written down with the reason. -/
theorem direct_chroot_refused (hops : link.IsInProcess closed)
    (hopen : closed.get ledger.world = false)
    (hrefused : (link.sys.changeRoot path ledger.world).1 = .error errno) :
    ∃ ledger', link.direct.chroot path ledger =
      (.error (.failed (.chroot (.refused path errno))), ledger') := by
  have hmade : (link.script.operations.chroot path ledger.world).1 =
      .error (.failed (.chroot (.refused path errno))) := by
    rw [hops.chroot path _ hopen, Privileged.inProcess_chroot hopen, Act.run_bind,
      System.changeRootNow, Act.run_call, hrefused]
    rfl
  exact ⟨_, Prod.ext hmade rfl⟩

/-- What the answer with a failure comes to for the engine, whose call fails as `told` says. -/
theorem refusal_of_handle {request : Request} {f : Failure} {ledger' : Ledger σ}
    {call : Act (Linked σ) Int32} {next : Response → Act (Linked σ) Int32} (told : String → Failure)
    (hcall : call = link.remote.call request >>= next)
    (hnext : ∀ text, next (.error text) = Act.fail (told text))
    (htold : ∃ before, (told f.message).message = before ++ f.message) (htext : request.IsText)
    (hfits : request.Fits)
    (hhandle : link.dispatcher.handle link.system request (.idle false ledger) =
      (.ok (.error f.message), .idle false ledger')) :
    if f.message.utf8ByteSize + 25 ≤ Frame.maxLength then
      link.Surfaces call ledger ledger' f (told f.message)
    else IsLost call ledger ledger' f := by
  have hfitsIff := Response.fits_error_iff f.message
  split
  case isTrue hshort =>
    refine ⟨?_, htold, fun _ _ _ _ htext hfits hresponse hhandle =>
      call_idle htext hfits hresponse hhandle⟩
    rw [hcall, Act.run_bind, call_idle htext hfits (hfitsIff.mpr hshort) hhandle]
    simp only [hnext, Act.run_fail]
  case isFalse hlong =>
    have htooLong : ¬(Response.error f.message).Fits := fun h => hlong (hfitsIff.mp h)
    rw [IsLost, hcall, Act.run_bind, call_tooLong htext hfits htooLong hhandle]

/-- **What every refusal comes to**: the engine learns the reason exactly if the wording of it
fits into a frame, and then the connection can be used on. Otherwise it learns that the channel is
gone.

**Proof sketch.** The helper handles the request by making the call, whose refusal is written down
with it (`direct_mount_refused`, `direct_chroot_refused`), and answers with the wording of the
failure. A response that fits is taken by the engine, which puts that wording at the end of its own
(`message_remote_mount`, `message_remote_chroot`). For one that does not the helper makes no frame,
so it sends nothing and ends the connection; all of that depends on the wording alone and is the
same for both requests (`refusal_of_handle`). -/
theorem refusals (link : Link σ) (closed : Slot σ Bool) (hops : link.IsInProcess closed)
    (ledger : Ledger σ) (hopen : closed.get ledger.world = false) (errno : Errno) :
    (∀ mount : MountRequest, (Request.mount mount).IsText → (Request.mount mount).Fits →
      (link.sys.mount { mount with flags := mount.flags &&& MountFlags.known } ledger.world).1 =
        .error errno →
      let f : Failure := .mount (.refused mount.source mount.target errno)
      ∃ ledger', ledger'.entries = ledger.entries ++ [.mount mount (.error (.failed f))] ∧
        if f.message.utf8ByteSize + 25 ≤ Frame.maxLength then
          link.Surfaces (link.remote.mount mount) ledger ledger' f
            (.mount (.remote mount.source mount.target f.message))
        else IsLost (link.remote.mount mount) ledger ledger' f) ∧
    ∀ path : Path, (Request.chroot path).IsText → (Request.chroot path).Fits →
      (link.sys.changeRoot path ledger.world).1 = .error errno →
      let f : Failure := .chroot (.refused path errno)
      ∃ ledger', ledger'.entries = ledger.entries ++ [.chroot path (.error (.failed f))] ∧
        if f.message.utf8ByteSize + 25 ≤ Frame.maxLength then
          link.Surfaces (link.remote.chroot path) ledger ledger' f
            (.chroot (.remote path f.message))
        else IsLost (link.remote.chroot path) ledger ledger' f := by
  refine ⟨fun mount htext hfits hrefused => ?_, fun path htext hfits hrefused => ?_⟩
  · intro f
    obtain ⟨ledger', hmade⟩ := direct_mount_refused hops hopen hrefused
    have hresponse : Response.to? .mount (.error (.failed f)) = some (.error f.message) := rfl
    exact ⟨ledger', entries_of_mount hmade, refusal_of_handle
      (fun text => .mount (.remote mount.source mount.target text)) rfl (fun _ => rfl)
      (message_remote_mount _ _ _) htext hfits (handle_mount hmade hresponse)⟩
  · intro f
    obtain ⟨ledger', hmade⟩ := direct_chroot_refused hops hopen hrefused
    have hresponse : Response.to? .chroot (.error (.failed f)) = some (.error f.message) := rfl
    exact ⟨ledger', entries_of_chroot hmade, refusal_of_handle
      (fun text => .chroot (.remote path text)) rfl (fun _ => rfl)
      (message_remote_chroot _ _) htext hfits (handle_chroot hmade hresponse)⟩

/-- There are texts of every length. -/
theorem exists_utf8ByteSize_eq (n : Nat) : ∃ s : String, s.utf8ByteSize = n := by
  induction n with
  | zero => exact ⟨"", rfl⟩
  | succ n ih =>
    obtain ⟨s, hs⟩ := ih
    exact ⟨s ++ "x", by rw [String.utf8ByteSize_append, hs]; rfl⟩

/-- **A refusal can be lost whatever its reason**: a request for a change of the root that fills a
frame fits, but what is said of its refusal does not. -/
theorem exists_lost (errno : Errno) :
    ∃ path : Path, (Request.chroot path).IsText ∧ (Request.chroot path).Fits ∧
      Frame.maxLength < (Failure.chroot (.refused path errno)).message.utf8ByteSize + 25 := by
  obtain ⟨text, htext⟩ := exists_utf8ByteSize_eq (Frame.maxLength - 23)
  refine ⟨Path.ofText text, Path.isText_ofText text, Request.fits_chroot ?_, ?_⟩
  · rw [htext]
    decide
  · have hmessage : (Failure.chroot (.refused (Path.ofText text) errno)).message =
        "chroot error: " ++ ("chroot to " ++ (Path.ofText text).display ++ " failed: " ++
          errno.symbolic) := rfl
    have hprefix : "chroot error: ".utf8ByteSize = 14 := rfl
    rw [hmessage, Path.display_ofText]
    simp only [String.utf8ByteSize_append, htext, hprefix, Frame.maxLength]
    omega

/-- A helper that may not mount anything and to whom every name is too long. Its world is whether it
has closed the operations, beside the calls that were made. -/
def refused : Link (Ledger Unit × Bool) where
  sys := Ledger.system .first
    { System.willing with
      mount := fun _ => pure (.error .notPermitted)
      changeRoot := fun _ => pure (.error .nameTooLong) }
  script := .ofSystem (Ledger.system .first
    { System.willing with
      mount := fun _ => pure (.error .notPermitted)
      changeRoot := fun _ => pure (.error .nameTooLong) })
  cut _ bs := [bs]
  flatten_cut _ bs := by simp

/-- A mount is refused, which the engine learns, and a change of the root as well, which it does
not. -/
theorem refusals_refused :
    let ledger : Ledger (Ledger Unit × Bool) := .start (.start (), false)
    let image : MountRequest := ⟨"/image", "/final", "", 4102, "errors=remount-ro"⟩
    (∃ ledger', refused.Surfaces (refused.remote.mount image) ledger ledger'
      (.mount (.refused "/image" "/final" .notPermitted))
      (.mount (.remote "/image" "/final"
        "mount error: failed to mount /image on /final: EPERM: Operation not permitted"))) ∧
      ∃ path ledger', IsLost (refused.remote.chroot path) ledger ledger'
        (.chroot (.refused path .nameTooLong)) := by
  intro ledger image
  have hops : refused.IsInProcess .second := isInProcess_ofSystem rfl
  have htext : (Request.mount image).IsText := ⟨Path.isText_ofText _, Path.isText_ofText _⟩
  have hfits : (Request.mount ⟨"/image", "/final", "", 4102, "errors=remount-ro"⟩).Fits := by
    intro body hbody
    cases hbody
    decide
  refine ⟨?_, ?_⟩
  · obtain ⟨ledger', -, hsurfaces⟩ :=
      (refusals refused .second hops ledger rfl .notPermitted).1 image htext hfits rfl
    have hmessage : (Failure.mount (.refused "/image" "/final" .notPermitted)).message =
        "mount error: failed to mount /image on /final: EPERM: Operation not permitted" := by
      decide
    rw [hmessage, if_pos (by decide)] at hsurfaces
    exact ⟨ledger', hsurfaces⟩
  · obtain ⟨path, htext, hfits, hlong⟩ := exists_lost .nameTooLong
    obtain ⟨ledger', -, hlost⟩ :=
      (refusals refused .second hops ledger rfl .nameTooLong).2 path htext hfits rfl
    rw [if_neg (Nat.not_le.mpr hlong)] at hlost
    exact ⟨path, ledger', hlost⟩

end Link
end Container
