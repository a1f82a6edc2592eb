import Mathlib.Logic.Function.Basic
import Mathlib.Logic.Relation
import Container.Proofs.Helper.Events

set_option autoImplicit false

/-!
# A helper among its clients

A helper does not see events one after the other, each dealt with before the next. Clients connect,
send and go while it accepts one of them, closes its listener, removes its socket and reads; another
thread performs a request while the helper may be told to shut down. Here all of these take turns in
any order.

## Main definitions

* `Stage`, `Job` — what a helper is about, and what the thread is about that performs requests.
* `Scene` — a helper with its clients, and what has happened so far.
* `Scene.Step` — what one of them does next.
* `Service.fed` — what taking bytes in comes to, for a helper to which an engine has connected.
* `Scene.Course` — what is known of a scene, by what the helper is about.

## Main results

* `Service.state_run_engine` — what a helper does about an engine that connects and sends pieces.
* `Scene.Course.byClients` — what clients do does not touch what the helper is about.
* `Scene.Course.perform` — what the other thread does is what performing its request does.
* `Scene.Course.step` — what a step preserves.

## Design

A step is what one party does without another coming between. A helper reads no more than the frame
that it is about, so a step of reading ends where that frame ends, if not before. The thread is not
called back: a request that it was given is performed, whatever becomes of the helper. How much of
an answer is sent when a helper is stopped is not said here.
-/

namespace Container

open Relation

variable {σ : Type}

/-- What a helper is about. -/
inductive Stage where
  /-- It waits for an engine, or to be told to shut down. -/
  | awaiting
  /-- An engine was accepted, or none if it was told to shut down. It still listens. -/
  | closing (engine? : Option Nat)
  /-- It listens no more, and its socket is still to be removed. -/
  | removing (engine? : Option Nat)
  /-- It reads, and these bytes wait. -/
  | reading (engine : Nat) (waiting : Bytes)
  /-- A thread performs a request of the engine. -/
  | performing (engine : Nat)
  | ended

/-- What the thread is about that performs requests. -/
inductive Job where
  | running (request : Request)
  | done (outcome : Except Stop Response)

/-- A helper with its clients: what it is about, whether it listens, what came of the removal of its
socket, who has connected and who has gone, all that each client has sent and what of it was not
read, what the other thread is about, and the state of the world. Then what has happened so far: the
events that the helper has taken in, and the requests that it has started. -/
structure Scene (σ : Type) where
  stage : Stage
  listening : Bool
  removal? : Option (Except IoFault Unit)
  clients : List Nat
  gone : List Nat
  sent : Nat → Bytes
  unread : Nat → Bytes
  job? : Option Job
  state : σ
  taken : List ServiceEvent
  started : List Request

/-- The event that a helper has waited for. -/
def ServiceEvent.first : Option Nat → ServiceEvent
  | none => .shutdown
  | some engine => .connect engine

/-- What a helper does that has accepted an engine, or was told to shut down. -/
def Service.opening (sys : System σ) (socket : Path) (engine? : Option Nat) : Act σ Unit := do
  Service.closeListener sys socket
  match engine? with
  | none => return
  | some _ => sys.report .info .helper "engine connected"

/-- What a helper is about then. -/
def Stage.opened : Option Nat → Stage
  | none => .ended
  | some engine => .reading engine []

namespace Scene

/-- A helper listens, and nobody has connected. -/
def start (s : σ) : Scene σ :=
  ⟨.awaiting, true, none, [], [], fun _ => [], fun _ => [], none, s, [], []⟩

/-- What somebody does next. -/
inductive Step (sys : System σ) (socket : Path) (d : Dispatcher σ) : Scene σ → Scene σ → Prop
  /-- A client connects. The listener has to be there, and the path of the socket to lead to it. -/
  | connect {s : Scene σ} (client : Nat) (hlistening : s.listening = true)
      (hlinked : s.removal? ≠ some (.ok ())) (hnew : client ∉ s.clients) :
      Step sys socket d s { s with clients := s.clients ++ [client] }
  /-- A client sends something, whether it was accepted or not. -/
  | send {s : Scene σ} {client : Nat} (bs : Bytes) (hclient : client ∈ s.clients)
      (hthere : client ∉ s.gone) :
      Step sys socket d s { s with
        sent := Function.update s.sent client (s.sent client ++ bs)
        unread := Function.update s.unread client (s.unread client ++ bs) }
  /-- A client goes. -/
  | leave {s : Scene σ} {client : Nat} (hclient : client ∈ s.clients) :
      Step sys socket d s { s with gone := client :: s.gone }
  /-- A client is accepted. -/
  | accept {s : Scene σ} {engine : Nat} (hstage : s.stage = .awaiting)
      (hclient : engine ∈ s.clients) :
      Step sys socket d s { s with
        stage := .closing (some engine), taken := s.taken ++ [.first (some engine)] }
  /-- The helper is told to shut down before it has accepted a client. -/
  | giveUp {s : Scene σ} (hstage : s.stage = .awaiting) :
      Step sys socket d s { s with stage := .closing none, taken := s.taken ++ [.first none] }
  /-- The listener is closed. -/
  | close {s : Scene σ} {engine? : Option Nat} (hstage : s.stage = .closing engine?) :
      Step sys socket d s { s with stage := .removing engine?, listening := false }
  /-- The removal of the socket is attempted. -/
  | remove {s : Scene σ} {engine? : Option Nat} (hstage : s.stage = .removing engine?) :
      Step sys socket d s { s with
        stage := .opened engine?
        removal? := some (sys.removeFile socket s.state).1
        state := (Service.opening sys socket engine? s.state).2 }
  /-- A part of a frame is read. -/
  | read {s : Scene σ} {engine : Nat} {waiting part later : Bytes}
      (hstage : s.stage = .reading engine waiting) (hunread : s.unread engine = part ++ later)
      (hnext : Connection.next (waiting ++ part) = .incomplete) :
      Step sys socket d s { s with
        stage := .reading engine (waiting ++ part)
        unread := Function.update s.unread engine later
        taken := s.taken ++ [.receive engine part] }
  /-- The last part of a frame is read, and the request in it is given to the other thread. -/
  | begin {s : Scene σ} {engine : Nat} {waiting part later body : Bytes} {request : Request}
      (hstage : s.stage = .reading engine waiting) (hunread : s.unread engine = part ++ later)
      (hnext : Connection.next (waiting ++ part) = .body body [])
      (hdecode : Request.decode body = .ok request) :
      Step sys socket d s { s with
        stage := .performing engine
        unread := Function.update s.unread engine later
        job? := some (.running request)
        taken := s.taken ++ [.receive engine part]
        started := s.started ++ [request] }
  /-- What is read is too long or holds no request. -/
  | refuse {s : Scene σ} {engine : Nat} {waiting part later : Bytes}
      (hstage : s.stage = .reading engine waiting) (hunread : s.unread engine = part ++ later)
      (hnext : (∃ fault, Connection.next (waiting ++ part) = .wrong fault) ∨
        ∃ body mismatch, Connection.next (waiting ++ part) = .body body [] ∧
          Request.decode body = .error mismatch) :
      Step sys socket d s { s with
        stage := .ended
        unread := Function.update s.unread engine later
        taken := s.taken ++ [.receive engine part] }
  /-- All that the engine has sent is read, and it has gone. -/
  | hangUp {s : Scene σ} {engine : Nat} {waiting : Bytes}
      (hstage : s.stage = .reading engine waiting) (hunread : s.unread engine = [])
      (hgone : engine ∈ s.gone) :
      Step sys socket d s { s with
        stage := .ended
        state := (Connection.hangUp sys ⟨waiting, none⟩ s.state).2
        taken := s.taken ++ [.hangUp engine] }
  /-- The other thread performs its request, whatever the helper is about. -/
  | perform {s : Scene σ} {request : Request} (hjob : s.job? = some (.running request)) :
      Step sys socket d s { s with
        job? := some (.done (d.handle sys request s.state).1)
        state := (d.handle sys request s.state).2 }
  /-- The response is sent. -/
  | answer {s : Scene σ} {engine : Nat} {response : Response} {frame : Bytes}
      (hstage : s.stage = .performing engine) (hjob : s.job? = some (.done (.ok response)))
      (hframe : response.frame = .ok frame) :
      Step sys socket d s { s with stage := .reading engine [], job? := none }
  /-- There is no response, or it cannot be sent. -/
  | abandon {s : Scene σ} {engine : Nat} {outcome : Except Stop Response}
      (hstage : s.stage = .performing engine) (hjob : s.job? = some (.done outcome)) :
      Step sys socket d s { s with stage := .ended, job? := none }
  /-- The helper is told to shut down while it serves an engine. -/
  | shutDown {s : Scene σ} {engine : Nat}
      (hstage : (∃ waiting, s.stage = .reading engine waiting) ∨ s.stage = .performing engine) :
      Step sys socket d s { s with stage := .ended, taken := s.taken ++ [.shutdown] }

/-- One scene comes after another, if not at once. -/
def Reaches (sys : System σ) (socket : Path) (d : Dispatcher σ) : Scene σ → Scene σ → Prop :=
  ReflTransGen (Step sys socket d)

end Scene

/-! ## Taking bytes in -/

namespace Service

variable (sys : System σ) (socket : Path) (d : Dispatcher σ)

/-- An engine connects, and these bytes of it are taken in. -/
def fed (engine : Nat) (bs : Bytes) : Act σ (Connection × Bytes) := do
  opening sys socket (some engine)
  Connection.start.feed sys d bs

/-- Pieces are taken in one after the other. -/
theorem run_receives (engine : Nat) (c : Connection) (pieces : List Bytes) :
    run sys socket d (settle engine c) (pieces.map (.receive engine)) =
      c.feedPieces sys d pieces >>= fun r => pure (settle engine r.1, r.2) := by
  induction pieces generalizing c with
  | nil => simp [run, Connection.feedPieces]
  | cons piece pieces ih => simp [run_receive, ih, Connection.feedPieces]

/-- An engine connects and sends pieces: where that leads to, and what happens then. -/
theorem state_run_engine (engine : Nat) (pieces : List Bytes) (ending : List ServiceEvent)
    (s₀ : σ) :
    (run sys socket d .listening
        (.connect engine :: (pieces.map (.receive engine) ++ ending)) s₀).2 =
      match fed sys socket d engine pieces.flatten s₀ with
      | (.ok (c, _), s) => (run sys socket d (settle engine c) ending s).2
      | (.error _, s) => s := by
  have hconnect := run_connect sys socket d (List.forall_mem_nil _) engine
    (pieces.map (.receive engine) ++ ending)
  have hstart : Service.serving engine .start = settle engine .start := rfl
  rw [List.nil_append, hstart, run_append, run_receives,
    Connection.feedPieces_eq Connection.settled_start] at hconnect
  have hfed : run sys socket d .listening
      (.connect engine :: (pieces.map (.receive engine) ++ ending)) =
        fed sys socket d engine pieces.flatten >>= fun r =>
          (fun r' => (r'.1, r.2 ++ r'.2)) <$> run sys socket d (settle engine r.1) ending := by
    rw [hconnect]
    simp only [fed, opening, bind_assoc, pure_bind]
  rw [hfed, Act.run_bind]
  rcases fed sys socket d engine pieces.flatten s₀ with ⟨stop | ⟨c, sent⟩, s⟩
  · rfl
  · simp only [Act.run_map]

/-- What a helper does that has accepted an engine does not fail. -/
theorem opening_eq (engine? : Option Nat) (s : σ) :
    opening sys socket engine? s = (.ok (), (opening sys socket engine? s).2) := by
  simp only [opening, Act.run_bind, closeListener_apply]
  rcases sys.removeFile socket s with ⟨fault | _, s'⟩ <;> cases engine? <;> rfl

/-- Nothing was taken in yet. -/
theorem fed_nil (engine : Nat) (s : σ) :
    fed sys socket d engine [] s = (.ok (.start, []), (opening sys socket (some engine) s).2) := by
  rw [fed, Act.run_bind, opening_eq, Connection.settled_start.feed_nil]
  rfl

/-- The result of a request decides what taking these bytes in comes to. -/
structure Hinges (engine : Nat) (s₀ : σ) (bs : Bytes) (request : Request) (between : σ) : Prop where
  state : (fed sys socket d engine bs s₀).2 = (d.handle sys request between).2
  answered : ∀ {response frame s'}, d.handle sys request between = (.ok response, s') →
    response.frame = .ok frame →
      ∃ sent, fed sys socket d engine bs s₀ = (.ok (.start, sent), s')

variable {sys socket d} {engine : Nat} {pieces : List Bytes} {waiting part sent : Bytes} {s₀ s : σ}
  (h : fed sys socket d engine pieces.flatten s₀ = (.ok (⟨waiting, none⟩, sent), s))

include h in
/-- One piece more is taken in. -/
theorem fed_concat (part : Bytes) :
    fed sys socket d engine (pieces ++ [part]).flatten s₀ =
      ((fun r => (r.1, sent ++ r.2)) <$> Connection.drain sys d [] (waiting ++ part)) s := by
  have hfed : fed sys socket d engine (pieces.flatten ++ part) =
      fed sys socket d engine pieces.flatten >>= fun r =>
        (fun r' => (r'.1, r.2 ++ r'.2)) <$> r.1.feed sys d part := by
    simp only [fed, Connection.feed_append, bind_assoc]
  rw [List.flatten_append, List.flatten_singleton, hfed, Act.run_bind, h]
  rfl

include h in
/-- A piece that makes nothing whole. -/
theorem fed_incomplete (hnext : Connection.next (waiting ++ part) = .incomplete) :
    fed sys socket d engine (pieces ++ [part]).flatten s₀ =
      (.ok (⟨waiting ++ part, none⟩, sent), s) := by
  rw [fed_concat h, Connection.drain_incomplete sys d hnext]
  simp

include h in
/-- A piece that makes a request whole. -/
theorem fed_request {body : Bytes} {request : Request}
    (hnext : Connection.next (waiting ++ part) = .body body [])
    (hdecode : Request.decode body = .ok request) :
    Hinges sys socket d engine s₀ (pieces ++ [part]).flatten request s := by
  have hnil : Connection.next [] = .incomplete := rfl
  have hfed := fed_concat h part
  rw [Connection.drain_body sys d hnext, hdecode, Act.run_map] at hfed
  simp only [Act.run_bind] at hfed
  constructor
  · rw [hfed]
    rcases d.handle sys request s with ⟨stop | response, s'⟩
    · rfl
    · cases hframe : response.frame with
      | error fault => simp [hframe]
      | ok frame => simp [hframe, Connection.drain_incomplete sys d hnil]
  · intro response frame s' hhandle hframe
    rw [hhandle] at hfed
    simp only [hframe, Connection.drain_incomplete sys d hnil] at hfed
    exact ⟨_, hfed⟩

include h in
/-- A piece that ends the connection. -/
theorem fed_refused
    (hnext : (∃ fault, Connection.next (waiting ++ part) = .wrong fault) ∨
      ∃ body mismatch, Connection.next (waiting ++ part) = .body body [] ∧
        Request.decode body = .error mismatch) :
    (fed sys socket d engine (pieces ++ [part]).flatten s₀).2 = s := by
  rw [fed_concat h, Act.run_map]
  rcases hnext with ⟨fault, hnext⟩ | ⟨body, mismatch, hnext, hdecode⟩
  · rw [Connection.drain_wrong sys d hnext]
    rfl
  · rw [Connection.drain_body sys d hnext, hdecode]
    rfl

end Service

/-! ## What a step preserves -/

/-- How the events end that a helper takes in of the engine that it serves. -/
inductive IsEnding (engine : Nat) : List ServiceEvent → Prop
  | none : IsEnding engine []
  | gone : IsEnding engine [.hangUp engine]
  | shutDown : IsEnding engine [.shutdown]

namespace Scene

/-- Nothing was read and nothing started. -/
structure Untouched (s : Scene σ) : Prop where
  started : s.started = []
  job : s.job? = none
  unread : ∀ client, s.unread client = s.sent client

/-- Of all clients this one alone was accepted, and these pieces were read of it. Nothing that
others have sent was read. -/
structure Hears (s : Scene σ) (engine : Nat) (pieces : List Bytes) (ending : List ServiceEvent) :
    Prop where
  taken : s.taken = .connect engine :: (pieces.map (.receive engine) ++ ending)
  client : engine ∈ s.clients
  read : s.sent engine = pieces.flatten ++ s.unread engine
  others : ∀ client, client ≠ engine → s.unread client = s.sent client

/-- The listener is closed and the removal of its socket was attempted. -/
structure Closed (s : Scene σ) : Prop where
  listening : s.listening = false
  removal : s.removal?.isSome = true

/-- The other thread is about this request, which it has found in this state of the world. -/
def Works (sys : System σ) (d : Dispatcher σ) (s : Scene σ) (request : Request) (between : σ) :
    Prop :=
  (s.job? = some (.running request) ∧ s.state = between) ∨
    ∃ outcome, s.job? = some (.done outcome) ∧ d.handle sys request between = (outcome, s.state)

/-- The state of the world once the other thread has done its work. -/
def afterJob (sys : System σ) (d : Dispatcher σ) (s : Scene σ) : σ :=
  match s.job? with
  | some (.running request) => (d.handle sys request s.state).2
  | _ => s.state

section Course

variable (sys : System σ) (socket : Path) (d : Dispatcher σ)

/-- What is known of a scene, by what the helper is about. -/
inductive Course (s₀ : σ) (s : Scene σ) : Stage → Prop
  | awaiting (huntouched : s.Untouched) (htaken : s.taken = []) (hstate : s.state = s₀) :
      Course s₀ s .awaiting
  | closing {engine? : Option Nat} (huntouched : s.Untouched) (htaken : s.taken = [.first engine?])
      (hclient : ∀ engine ∈ engine?, engine ∈ s.clients) (hstate : s.state = s₀) :
      Course s₀ s (.closing engine?)
  | removing {engine? : Option Nat} (huntouched : s.Untouched) (htaken : s.taken = [.first engine?])
      (hclient : ∀ engine ∈ engine?, engine ∈ s.clients) (hstate : s.state = s₀)
      (hlistening : s.listening = false) : Course s₀ s (.removing engine?)
  | reading {engine : Nat} {pieces : List Bytes} {waiting sent : Bytes}
      (hhears : s.Hears engine pieces []) (hclosed : s.Closed) (hjob : s.job? = none)
      (hreceived : ByteStream.received Request.decode pieces.flatten = (s.started, waiting))
      (hfed : Service.fed sys socket d engine pieces.flatten s₀ =
        (.ok (⟨waiting, none⟩, sent), s.state)) : Course s₀ s (.reading engine waiting)
  | performing {engine : Nat} {pieces : List Bytes} {earlier : List Request} {request : Request}
      {between : σ} (hhears : s.Hears engine pieces []) (hclosed : s.Closed)
      (hstarted : s.started = earlier ++ [request])
      (hreceived : ByteStream.received Request.decode pieces.flatten = (s.started, []))
      (hhinges : Service.Hinges sys socket d engine s₀ pieces.flatten request between)
      (hworks : s.Works sys d request between) : Course s₀ s (.performing engine)
  /-- The helper was told to shut down before it had accepted a client. -/
  | unserved (huntouched : s.Untouched) (hclosed : s.Closed) (htaken : s.taken = [.shutdown])
      (hstate : s.state = (Service.opening sys socket none s₀).2) : Course s₀ s .ended
  | ended {engine : Nat} {pieces : List Bytes} {ending : List ServiceEvent}
      (hhears : s.Hears engine pieces ending) (hending : IsEnding engine ending)
      (hclosed : s.Closed)
      (hstarted : s.started <+: (ByteStream.received Request.decode pieces.flatten).1)
      (hthread : ∀ request, s.job? = some (.running request) → s.started.getLast? = some request)
      (hrun : (Service.run sys socket d .listening s.taken s₀).2 = s.afterJob sys d) :
      Course s₀ s .ended

variable {sys socket d} {s₀ : σ} {s : Scene σ} {engine : Nat} {pieces : List Bytes}

/-! ### What clients do -/

section Clients

variable {clients gone : List Nat} {sent unread : Nat → Bytes}
  (hclients : ∀ client ∈ s.clients, client ∈ clients)
  (hsent : ∀ client, ∃ bs, sent client = s.sent client ++ bs ∧
    unread client = s.unread client ++ bs)

include hsent in
theorem Untouched.byClients (h : s.Untouched) :
    Untouched { s with clients := clients, gone := gone, sent := sent, unread := unread } where
  started := h.started
  job := h.job
  unread client := by
    obtain ⟨bs, hsent, hunread⟩ := hsent client
    simp only [hsent, hunread, h.unread client]

include hclients hsent in
theorem Hears.byClients {ending : List ServiceEvent} (h : s.Hears engine pieces ending) :
    Hears { s with clients := clients, gone := gone, sent := sent, unread := unread }
      engine pieces ending where
  taken := h.taken
  client := hclients _ h.client
  read := by
    obtain ⟨bs, hsent, hunread⟩ := hsent engine
    simp only [hsent, hunread, h.read, List.append_assoc]
  others client hother := by
    obtain ⟨bs, hsent, hunread⟩ := hsent client
    simp only [hsent, hunread, h.others client hother]

include hclients hsent in
/-- **What clients do** does not touch what the helper is about. -/
theorem Course.byClients {stage : Stage} (h : Course sys socket d s₀ s stage) :
    Course sys socket d s₀
      { s with clients := clients, gone := gone, sent := sent, unread := unread } stage := by
  cases h with
  | awaiting huntouched htaken hstate => exact .awaiting (huntouched.byClients hsent) htaken hstate
  | closing huntouched htaken hclient hstate =>
    exact .closing (huntouched.byClients hsent) htaken (fun e he => hclients e (hclient e he))
      hstate
  | removing huntouched htaken hclient hstate hlistening =>
    exact .removing (huntouched.byClients hsent) htaken (fun e he => hclients e (hclient e he))
      hstate
      hlistening
  | reading hhears hclosed hjob hreceived hfed =>
    exact .reading (hhears.byClients hclients hsent) ⟨hclosed.1, hclosed.2⟩ hjob hreceived hfed
  | performing hhears hclosed hstarted hreceived hhinges hworks =>
    exact .performing (hhears.byClients hclients hsent) ⟨hclosed.1, hclosed.2⟩ hstarted hreceived
      hhinges hworks
  | unserved huntouched hclosed htaken hstate =>
    exact .unserved (huntouched.byClients hsent) ⟨hclosed.1, hclosed.2⟩ htaken hstate
  | ended hhears hending hclosed hstarted hthread hrun =>
    exact .ended (hhears.byClients hclients hsent) hending ⟨hclosed.1, hclosed.2⟩ hstarted hthread
      hrun

end Clients

/-! ### What the helper does -/

/-- A client was accepted of which nothing was read yet. -/
theorem Untouched.hears (h : s.Untouched) (htaken : s.taken = [.connect engine])
    (hclient : engine ∈ s.clients) : s.Hears engine [] [] :=
  ⟨htaken, hclient, (h.unread engine).symm, fun client _ => h.unread client⟩

/-- One piece more is received. -/
theorem received_concat {waiting : Bytes} {started : List Request}
    (h : ByteStream.received Request.decode pieces.flatten = (started, waiting)) (part : Bytes) :
    ByteStream.received Request.decode (pieces ++ [part]).flatten =
      (started ++ (ByteStream.received Request.decode (waiting ++ part)).1,
        (ByteStream.received Request.decode (waiting ++ part)).2) := by
  rw [List.flatten_append, List.flatten_singleton, ByteStream.received_append, h]

/-- A piece is read of the engine. -/
theorem Hears.receive {stage : Stage} {job? : Option Job} {started : List Request}
    {part later : Bytes} (h : s.Hears engine pieces [])
    (hunread : s.unread engine = part ++ later) :
    Hears { s with
      stage := stage
      unread := Function.update s.unread engine later
      job? := job?
      taken := s.taken ++ [.receive engine part]
      started := started } engine (pieces ++ [part]) [] where
  taken := by simp [h.taken]
  client := h.client
  read := by simp [h.read, hunread]
  others client hother := by simpa [hother] using h.others client hother

/-- Nothing is read. -/
theorem Hears.same {stage : Stage} {removal? : Option (Except IoFault Unit)} {job? : Option Job}
    {state : σ} {ending : List ServiceEvent} (h : s.Hears engine pieces ending) :
    Hears { s with stage := stage, removal? := removal?, job? := job?, state := state }
      engine pieces ending :=
  ⟨h.taken, h.client, h.read, h.others⟩

/-- The events of the engine come to an end. -/
theorem Hears.end {stage : Stage} {state : σ} {ending : List ServiceEvent}
    (h : s.Hears engine pieces []) :
    Hears { s with stage := stage, state := state, taken := s.taken ++ ending }
      engine pieces ending where
  taken := by simp [h.taken]
  client := h.client
  read := h.read
  others := h.others

/-- Where what was taken in leads to, if that is all. -/
theorem Hears.state_run {ending : List ServiceEvent} (h : s.Hears engine pieces ending)
    (hending : ending = [] ∨ ending = [.shutdown]) :
    (Service.run sys socket d .listening s.taken s₀).2 =
      (Service.fed sys socket d engine pieces.flatten s₀).2 := by
  rw [h.taken, Service.state_run_engine]
  rcases Service.fed sys socket d engine pieces.flatten s₀ with ⟨stop | ⟨c, sent⟩, s'⟩
  · rfl
  · rcases hending with rfl | rfl
    · rfl
    · obtain ⟨result, hstep⟩ := Service.step_shutdown sys socket d engine c
      simp [Service.run, hstep]

/-- Once its request is performed, what the thread has found leads to where it is. -/
theorem Works.afterJob {request : Request} {between : σ} (h : s.Works sys d request between) :
    (d.handle sys request between).2 = s.afterJob sys d := by
  rcases h with ⟨hjob, rfl⟩ | ⟨outcome, hjob, houtcome⟩
  · simp [Scene.afterJob, hjob]
  · simp [Scene.afterJob, hjob, houtcome]

/-- **What the other thread does** is what performing its request does. -/
theorem Course.perform {stage : Stage} {request : Request} (h : Course sys socket d s₀ s stage)
    (hjob : s.job? = some (.running request)) :
    Course sys socket d s₀ { s with
      job? := some (.done (d.handle sys request s.state).1)
      state := (d.handle sys request s.state).2 } stage := by
  cases h with
  | awaiting huntouched | closing huntouched | removing huntouched | unserved huntouched =>
    simp [huntouched.job] at hjob
  | reading _ _ hidle => simp [hidle] at hjob
  | performing hhears hclosed hstarted hreceived hhinges hworks =>
    rcases hworks with ⟨hrunning, rfl⟩ | ⟨outcome, hdone, -⟩
    · rw [hjob] at hrunning
      cases hrunning
      exact .performing hhears.same ⟨hclosed.1, hclosed.2⟩ hstarted hreceived hhinges
        (.inr ⟨_, rfl, rfl⟩)
    · simp [hdone] at hjob
  | ended hhears hending hclosed hstarted hthread hrun =>
    refine .ended hhears.same hending ⟨hclosed.1, hclosed.2⟩ hstarted (by simp) ?_
    simpa [Scene.afterJob, hjob] using hrun

/-- **Once the removal of the socket was attempted**, a client is heard that was accepted. -/
theorem Course.remove {engine? : Option Nat} (h : Course sys socket d s₀ s (.removing engine?)) :
    Course sys socket d s₀ { s with
      stage := .opened engine?
      removal? := some (sys.removeFile socket s.state).1
      state := (Service.opening sys socket engine? s.state).2 } (.opened engine?) := by
  cases h with
  | removing huntouched htaken hclient hstate hlistening =>
    cases engine? with
    | none =>
      exact .unserved ⟨huntouched.1, huntouched.2, huntouched.3⟩ ⟨hlistening, rfl⟩ htaken
        (by rw [← hstate])
    | some engine =>
      subst hstate
      have hhears := huntouched.hears htaken (hclient engine rfl)
      refine .reading hhears.same ⟨hlistening, rfl⟩ huntouched.2 ?_ (Service.fed_nil _ _ _ _ _)
      rw [huntouched.1]
      exact ByteStream.received_incomplete _ rfl

section Reading

variable {waiting part later : Bytes} (h : Course sys socket d s₀ s (.reading engine waiting))

section Receiving

variable (hunread : s.unread engine = part ++ later)

include h hunread

/-- **A part of a frame** is kept until the rest of it comes. -/
theorem Course.read (hnext : Connection.next (waiting ++ part) = .incomplete) :
    Course sys socket d s₀ { s with
      stage := .reading engine (waiting ++ part)
      unread := Function.update s.unread engine later
      taken := s.taken ++ [.receive engine part] } (.reading engine (waiting ++ part)) := by
  cases h with
  | @reading _ pieces _ sent hhears hclosed hjob hreceived hfed =>
    refine .reading (hhears.receive hunread) ⟨hclosed.1, hclosed.2⟩ hjob ?_
      (Service.fed_incomplete hfed hnext)
    rw [received_concat hreceived, ByteStream.received_incomplete _ hnext, List.append_nil]

/-- **The last part of a frame** completes a request, which is then performed. -/
theorem Course.begin {body : Bytes} {request : Request}
    (hnext : Connection.next (waiting ++ part) = .body body [])
    (hdecode : Request.decode body = .ok request) :
    Course sys socket d s₀ { s with
      stage := .performing engine
      unread := Function.update s.unread engine later
      job? := some (.running request)
      taken := s.taken ++ [.receive engine part]
      started := s.started ++ [request] } (.performing engine) := by
  cases h with
  | @reading _ pieces _ sent hhears hclosed hjob hreceived hfed =>
    refine .performing (hhears.receive hunread) ⟨hclosed.1, hclosed.2⟩ rfl ?_
      (Service.fed_request hfed hnext hdecode) (.inl ⟨rfl, rfl⟩)
    rw [received_concat hreceived, ByteStream.received_body _ hnext, hdecode,
      ByteStream.received_incomplete _ rfl]

/-- **What holds no request** ends the service, with nothing more received. -/
theorem Course.refuse (hnext : (∃ fault, Connection.next (waiting ++ part) = .wrong fault) ∨
      ∃ body mismatch, Connection.next (waiting ++ part) = .body body [] ∧
        Request.decode body = .error mismatch) :
    Course sys socket d s₀ { s with
      stage := .ended
      unread := Function.update s.unread engine later
      taken := s.taken ++ [.receive engine part] } .ended := by
  cases h with
  | @reading _ pieces _ sent hhears hclosed hjob hreceived hfed =>
    refine .ended (hhears.receive hunread) .none ⟨hclosed.1, hclosed.2⟩ ?_ (by simp [hjob]) ?_
    · rw [received_concat hreceived]
      exact List.prefix_append _ _
    · refine ((hhears.receive hunread).state_run (.inl rfl)).trans ?_
      rw [Service.fed_refused hfed hnext]
      simp [Scene.afterJob, hjob]

end Receiving

include h

/-- **When the engine has gone**, the connection ends in what was kept. -/
theorem Course.hangUp :
    Course sys socket d s₀ { s with
      stage := .ended
      state := (Connection.hangUp sys ⟨waiting, none⟩ s.state).2
      taken := s.taken ++ [.hangUp engine] } .ended := by
  cases h with
  | @reading _ pieces _ sent hhears hclosed hjob hreceived hfed =>
    refine .ended hhears.end .gone ⟨hclosed.1, hclosed.2⟩ ?_ (by simp [hjob]) ?_
    · simp [hreceived]
    · have htaken : s.taken ++ [.hangUp engine] =
          .connect engine :: (pieces.map (.receive engine) ++ [.hangUp engine]) := by
        simp [hhears.taken]
      rw [htaken, Service.state_run_engine, hfed]
      simp [Service.run_hangUp, Scene.afterJob, hjob]

/-- **A shutdown between two requests** leaves the world where the requests have led. -/
theorem Course.shutDown :
    Course sys socket d s₀ { s with stage := .ended, taken := s.taken ++ [.shutdown] } .ended := by
  cases h with
  | reading hhears hclosed hjob hreceived hfed =>
    refine .ended hhears.end .shutDown ⟨hclosed.1, hclosed.2⟩ ?_ (by simp [hjob]) ?_
    · simp [hreceived]
    · refine (hhears.end.state_run (.inr rfl)).trans ?_
      simp [hfed, Scene.afterJob, hjob]

end Reading

section Performing

variable (h : Course sys socket d s₀ s (.performing engine))

include h

/-- **A response that is sent** was found before any more is read. -/
theorem Course.answer {response : Response} {frame : Bytes}
    (hjob : s.job? = some (.done (.ok response))) (hframe : response.frame = .ok frame) :
    Course sys socket d s₀ { s with stage := .reading engine [], job? := none }
      (.reading engine []) := by
  cases h with
  | performing hhears hclosed hstarted hreceived hhinges hworks =>
    rcases hworks with ⟨hrunning, -⟩ | ⟨outcome, hdone, houtcome⟩
    · simp [hjob] at hrunning
    · rw [hjob] at hdone
      cases hdone
      obtain ⟨sent, hfed⟩ := hhinges.answered houtcome hframe
      exact .reading hhears.same ⟨hclosed.1, hclosed.2⟩ rfl hreceived hfed

/-- **Without a response** the service ends where performing the request has led. -/
theorem Course.abandon {outcome : Except Stop Response} (hjob : s.job? = some (.done outcome)) :
    Course sys socket d s₀ { s with stage := .ended, job? := none } .ended := by
  cases h with
  | performing hhears hclosed hstarted hreceived hhinges hworks =>
    refine .ended hhears.same .none ⟨hclosed.1, hclosed.2⟩ ?_ (by simp) ?_
    · simp [hreceived]
    · refine (hhears.state_run (.inl rfl)).trans ?_
      rw [hhinges.state, hworks.afterJob]
      simp [Scene.afterJob, hjob]

/-- **A shutdown during a request** leaves the world to the thread that performs it. -/
theorem Course.shutDown_performing :
    Course sys socket d s₀ { s with stage := .ended, taken := s.taken ++ [.shutdown] } .ended := by
  cases h with
  | performing hhears hclosed hstarted hreceived hhinges hworks =>
    refine .ended hhears.end .shutDown ⟨hclosed.1, hclosed.2⟩ ?_ ?_ ?_
    · simp [hreceived]
    · intro other hother
      rcases hworks with ⟨hrunning, -⟩ | ⟨outcome, hdone, -⟩
      · rw [hrunning] at hother
        cases hother
        simp [hstarted]
      · simp [hdone] at hother
    · refine (hhears.end.state_run (.inr rfl)).trans ?_
      rw [hhinges.state, hworks.afterJob]
      rfl

end Performing

/-- **What a step preserves.** -/
theorem Course.step {s' : Scene σ} (hcourse : Course sys socket d s₀ s s.stage)
    (hstep : Step sys socket d s s') : Course sys socket d s₀ s' s'.stage := by
  cases hstep with
  | connect client hlistening hlinked hnew =>
    exact hcourse.byClients (fun _ h => List.mem_append_left _ h) fun client =>
      ⟨[], by simp, by simp⟩
  | @send client bs hclient hthere =>
    refine hcourse.byClients (fun _ h => h) fun other => ?_
    by_cases hother : other = client
    · subst hother
      exact ⟨bs, by simp, by simp⟩
    · exact ⟨[], by simp [hother], by simp [hother]⟩
  | leave hclient => exact hcourse.byClients (fun _ h => h) fun client => ⟨[], by simp, by simp⟩
  | @accept engine hstage hclient =>
    rw [hstage] at hcourse
    cases hcourse with
    | awaiting huntouched htaken hstate =>
      refine .closing ⟨huntouched.1, huntouched.2, huntouched.3⟩ (by simp [htaken]) ?_ hstate
      rintro _ ⟨⟩
      exact hclient
  | giveUp hstage =>
    rw [hstage] at hcourse
    cases hcourse with
    | awaiting huntouched htaken hstate =>
      exact .closing ⟨huntouched.1, huntouched.2, huntouched.3⟩ (by simp [htaken]) (by simp) hstate
  | close hstage =>
    rw [hstage] at hcourse
    cases hcourse with
    | closing huntouched htaken hclient hstate =>
      exact .removing ⟨huntouched.1, huntouched.2, huntouched.3⟩ htaken hclient hstate rfl
  | remove hstage => exact (hstage ▸ hcourse).remove
  | read hstage hunread hnext => exact (hstage ▸ hcourse).read hunread hnext
  | begin hstage hunread hnext hdecode => exact (hstage ▸ hcourse).begin hunread hnext hdecode
  | refuse hstage hunread hnext => exact (hstage ▸ hcourse).refuse hunread hnext
  | hangUp hstage hunread hgone => exact (hstage ▸ hcourse).hangUp
  | perform hjob => exact hcourse.perform hjob
  | answer hstage hjob hframe => exact (hstage ▸ hcourse).answer hjob hframe
  | abandon hstage hjob => exact (hstage ▸ hcourse).abandon hjob
  | shutDown hstage =>
    rcases hstage with ⟨waiting, hstage⟩ | hstage
    · exact (hstage ▸ hcourse).shutDown
    · exact (hstage ▸ hcourse).shutDown_performing

end Course
end Scene
end Container
