import Container.Proofs.Helper.ConnectionLaw
import Container.Proofs.Helper.Scenes

set_option autoImplicit false

/-!
# One engine for each helper

Whatever clients do and whenever a helper is told to shut down, it takes requests from at most one
client, the first that it accepts, and it has stopped listening and tried to remove its socket
before it starts any request. Told to shut down, it starts none any more.

## Main definitions

* `Scene.finish` — what comes of a scene when nothing more is taken in.
* `SceneLaw` — what is known of a helper among its clients, at some moment.
* `OneEngine` — what is known of a helper, over all orders of events.

## Main results

* `Scene.law_of_reaches` — the law of a scene, at every moment.
* `Scene.clients_of_reaches`, `Scene.started_of_reaches` — what cannot happen any more once the
  listener is closed, and once the helper was told to shut down.
* `Service.one_engine` — the law of a helper.
-/

namespace Container

open Relation

variable {σ : Type}

namespace Scene

section Law

variable (sys : System σ) (socket : Path) (d : Dispatcher σ)

/-- The state of the world when the helper has done what is to be done about what it has taken
in. -/
def finish (s : Scene σ) : σ :=
  match s.stage with
  | .closing engine? | .removing engine? => (Service.opening sys socket engine? s.state).2
  | _ => s.afterJob sys d

end Law
end Scene

/-- At most one client was listened to. -/
inductive Scene.HearsAtMostOne (s : Scene σ) : Prop
  /-- Nothing was read and nothing started. -/
  | nobody (h : s.Untouched) (htaken : s.taken = [] ∨ s.taken = [.shutdown])
  /-- All that was taken in comes from the client that was accepted, and the requests that were
  started are the first in what was read of it. -/
  | engine {engine : Nat} {pieces : List Bytes} {ending : List ServiceEvent}
      (h : s.Hears engine pieces ending) (hending : IsEnding engine ending)
      (hstarted : s.started <+: (ByteStream.received Request.decode pieces.flatten).1)

/-- What is known of a helper among its clients that began in this state of the world. -/
structure SceneLaw (sys : System σ) (socket : Path) (d : Dispatcher σ) (s₀ : σ) (s : Scene σ) :
    Prop where
  oneEngine : s.HearsAtMostOne
  /-- The other thread performs the request that was started last. -/
  thread : ∀ request, s.job? = some (.running request) → s.started.getLast? = some request
  /-- The listener was closed and the removal of the socket was attempted before any request was
  started. -/
  closedFirst : s.started ≠ [] ∨ s.job? ≠ none → s.Closed
  /-- So it is when the helper is done, also where it was told to shut down at once. -/
  closedAtLast : s.stage = .ended → s.Closed
  /-- As soon as the helper has accepted a client or was told to shut down, it gets there. -/
  closes : s.taken ≠ [] → ∃ s', Scene.Reaches sys socket d s s' ∧ s'.Closed ∧
    s'.taken = s.taken ∧ s'.started = s.started
  /-- What is done is what a helper does about the events that were taken in, one after the
  other. -/
  asRun : (Service.run sys socket d .listening s.taken s₀).2 = s.finish sys socket d

namespace Scene

variable {sys : System σ} {socket : Path} {d : Dispatcher σ} {s₀ : σ} {s s' : Scene σ}

/-! ## What is known at every moment -/

/-- A helper that listens is on its course, and so it stays. -/
theorem course_of_reaches (h : Reaches sys socket d (start s₀) s) :
    Course sys socket d s₀ s s.stage := by
  induction h with
  | refl => exact .awaiting ⟨rfl, rfl, fun _ => rfl⟩ rfl rfl
  | tail _ hstep ih => exact ih.step hstep

/-- What a helper has taken in that was told to shut down, or that has accepted a client. -/
theorem state_run_first (engine? : Option Nat) (s : σ) :
    (Service.run sys socket d .listening [.first engine?] s).2 =
      (Service.opening sys socket engine? s).2 := by
  cases engine? with
  | none =>
    have hshutDown := Service.run_listening_shutdown sys socket d (List.forall_mem_nil _) []
    rw [List.nil_append] at hshutDown
    rw [ServiceEvent.first, hshutDown]
    simp only [Service.opening, Act.run_bind]
    rcases Service.closeListener sys socket s with ⟨stop | _, s'⟩ <;> rfl
  | some engine =>
    have hengine := Service.state_run_engine sys socket d engine [] [] s
    rw [List.flatten_nil, Service.fed_nil] at hengine
    exact hengine

/-- What was done about the events that were taken in. -/
theorem Course.state_run (h : Course sys socket d s₀ s s.stage) :
    (Service.run sys socket d .listening s.taken s₀).2 = s.finish sys socket d := by
  rw [finish]
  generalize s.stage = stage at h
  cases h with
  | awaiting huntouched htaken hstate =>
    simp [htaken, Service.run, afterJob, huntouched.job, hstate]
  | closing huntouched htaken hclient hstate => rw [htaken, hstate, state_run_first]
  | removing huntouched htaken hclient hstate => rw [htaken, hstate, state_run_first]
  | reading hhears hclosed hjob hreceived hfed =>
    rw [hhears.state_run (.inl rfl), hfed]
    simp [afterJob, hjob]
  | performing hhears hclosed hstarted hreceived hhinges hworks =>
    rw [hhears.state_run (.inl rfl), hhinges.state, hworks.afterJob]
  | unserved huntouched hclosed htaken hstate =>
    have hfirst : (Service.run sys socket d .listening [.shutdown] s₀).2 = _ :=
      state_run_first none s₀
    simp [htaken, hfirst, afterJob, huntouched.job, hstate]
  | ended _ _ _ _ _ hrun => exact hrun

/-- A helper on its course has listened to at most one client. -/
theorem Course.oneEngine {stage : Stage} (h : Course sys socket d s₀ s stage) :
    s.HearsAtMostOne := by
  have hfirst : ∀ {engine? : Option Nat}, s.Untouched → s.taken = [.first engine?] →
      (∀ engine ∈ engine?, engine ∈ s.clients) → s.HearsAtMostOne := by
    intro engine? huntouched htaken hclient
    cases engine? with
    | none => exact .nobody huntouched (.inr htaken)
    | some engine =>
      refine .engine (huntouched.hears htaken (hclient engine rfl)) .none ?_
      rw [huntouched.started]
      exact List.nil_prefix
  cases h with
  | awaiting huntouched htaken => exact .nobody huntouched (.inl htaken)
  | closing huntouched htaken hclient => exact hfirst huntouched htaken hclient
  | removing huntouched htaken hclient => exact hfirst huntouched htaken hclient
  | reading hhears _ _ hreceived =>
    refine .engine hhears .none ?_
    simp [hreceived]
  | performing hhears _ _ hreceived =>
    refine .engine hhears .none ?_
    simp [hreceived]
  | unserved huntouched _ htaken => exact .nobody huntouched (.inr htaken)
  | ended hhears hending _ hstarted => exact .engine hhears hending hstarted

/-- What the other thread performs. -/
theorem Course.thread {stage : Stage} {request : Request} (h : Course sys socket d s₀ s stage)
    (hjob : s.job? = some (.running request)) : s.started.getLast? = some request := by
  cases h with
  | awaiting huntouched | closing huntouched | removing huntouched | unserved huntouched =>
    simp [huntouched.job] at hjob
  | reading _ _ hidle => simp [hidle] at hjob
  | performing _ _ hstarted _ _ hworks =>
    rcases hworks with ⟨hrunning, -⟩ | ⟨outcome, hdone, -⟩
    · rw [hrunning] at hjob
      cases hjob
      simp [hstarted]
    · simp [hdone] at hjob
  | ended _ _ _ _ hthread => exact hthread request hjob

/-- Whenever something was started, the listener is closed. -/
theorem Course.closed {stage : Stage} (h : Course sys socket d s₀ s stage)
    (hstarted : s.started ≠ [] ∨ s.job? ≠ none ∨ stage = .ended) : s.Closed := by
  cases h with
  | awaiting huntouched | closing huntouched | removing huntouched =>
    simp [huntouched.started, huntouched.job] at hstarted
  | reading _ hclosed | performing _ hclosed | unserved _ hclosed | ended _ _ hclosed =>
    exact hclosed

/-- A helper that has taken an event in goes on to close its listener. -/
theorem Course.closes (h : Course sys socket d s₀ s s.stage) (htaken : s.taken ≠ []) :
    ∃ s', Reaches sys socket d s s' ∧ s'.Closed ∧ s'.taken = s.taken ∧ s'.started = s.started := by
  generalize hstage : s.stage = stage at h
  cases h with
  | awaiting _ hnothing => exact absurd hnothing htaken
  | closing =>
    exact ⟨_, .head (.close hstage) (.single (.remove rfl)), ⟨rfl, rfl⟩, rfl, rfl⟩
  | removing _ _ _ _ hlistening =>
    exact ⟨_, .single (.remove hstage), ⟨hlistening, rfl⟩, rfl, rfl⟩
  | reading _ hclosed | performing _ hclosed | unserved _ hclosed | ended _ _ hclosed =>
    exact ⟨s, .refl, hclosed, rfl, rfl⟩

/-- **The law of a scene**, at every moment. -/
theorem law_of_reaches (h : Reaches sys socket d (start s₀) s) : SceneLaw sys socket d s₀ s :=
  have hcourse := course_of_reaches h
  { oneEngine := hcourse.oneEngine
    thread := fun _ hjob => hcourse.thread hjob
    closedFirst := fun hstarted => hcourse.closed (hstarted.imp_right .inl)
    closedAtLast := fun hover => hcourse.closed (.inr (.inr hover))
    closes := hcourse.closes
    asRun := hcourse.state_run }

/-! ## What cannot happen any more -/

/-- A step of a helper that listens no more brings no client. -/
theorem clients_of_step (hclosed : s.listening = false) (hstep : Step sys socket d s s') :
    s'.listening = false ∧ s'.clients = s.clients := by
  cases hstep with
  | connect _ hlistening => simp [hclosed] at hlistening
  | close => exact ⟨rfl, rfl⟩
  | send | leave | accept | giveUp | remove | read | begin | refuse | hangUp | perform | answer
  | abandon | shutDown => exact ⟨hclosed, rfl⟩

/-- **No client connects** any more once the listener is closed. -/
theorem clients_of_reaches (hclosed : s.listening = false) (h : Reaches sys socket d s s') :
    s'.clients = s.clients := by
  have hstays : s'.listening = false ∧ s'.clients = s.clients := by
    induction h with
    | refl => exact ⟨hclosed, rfl⟩
    | tail _ hstep ih =>
      obtain ⟨hlistening, hclients⟩ := clients_of_step ih.1 hstep
      exact ⟨hlistening, hclients.trans ih.2⟩
  exact hstays.2

end Scene

/-- No request is started from here. -/
inductive Stage.IsShut : Stage → Prop
  | closing : IsShut (.closing none)
  | removing : IsShut (.removing none)
  | ended : IsShut .ended

namespace Scene

variable {sys : System σ} {socket : Path} {d : Dispatcher σ} {s₀ : σ} {s s' : Scene σ}

/-- A helper that was told to shut down has come to where no request is started. -/
theorem Course.isShut {stage : Stage} (h : Course sys socket d s₀ s stage)
    (htold : .shutdown ∈ s.taken) : stage.IsShut := by
  cases h with
  | awaiting _ htaken => simp [htaken] at htold
  | @closing engine? _ htaken =>
    cases engine? with
    | none => exact .closing
    | some engine => simp [htaken, ServiceEvent.first] at htold
  | @removing engine? _ htaken =>
    cases engine? with
    | none => exact .removing
    | some engine => simp [htaken, ServiceEvent.first] at htold
  | reading hhears | performing hhears => simp [hhears.taken] at htold
  | unserved | ended => exact .ended

/-- From there a step starts nothing and takes nothing in. -/
theorem shut_of_step (hshut : s.stage.IsShut) (hstep : Step sys socket d s s') :
    s'.stage.IsShut ∧ s'.taken = s.taken ∧ s'.started = s.started := by
  cases hstep with
  | connect | send | leave | perform => exact ⟨hshut, rfl, rfl⟩
  | close hstage =>
    rw [hstage] at hshut
    cases hshut
    exact ⟨.removing, rfl, rfl⟩
  | remove hstage =>
    rw [hstage] at hshut
    cases hshut
    exact ⟨.ended, rfl, rfl⟩
  | abandon => exact ⟨.ended, rfl, rfl⟩
  | accept hstage | giveUp hstage | read hstage | begin hstage | refuse hstage | hangUp hstage
  | answer hstage =>
    rw [hstage] at hshut
    cases hshut
  | shutDown hstage =>
    rcases hstage with ⟨waiting, hstage⟩ | hstage
    all_goals
      rw [hstage] at hshut
      cases hshut

/-- **No request is started** any more once the helper was told to shut down. -/
theorem started_of_reaches (hbefore : Reaches sys socket d (start s₀) s)
    (htold : .shutdown ∈ s.taken) (h : Reaches sys socket d s s') :
    s'.taken = s.taken ∧ s'.started = s.started := by
  have hstays : s'.stage.IsShut ∧ s'.taken = s.taken ∧ s'.started = s.started := by
    induction h with
    | refl => exact ⟨(course_of_reaches hbefore).isShut htold, rfl, rfl⟩
    | tail _ hstep ih =>
      obtain ⟨hshut, htaken, hstarted⟩ := shut_of_step ih.1 hstep
      exact ⟨hshut, htaken.trans ih.2.1, hstarted.trans ih.2.2⟩
  exact hstays.2

end Scene

/-! ## The law -/

/-- What is known of a helper that begins to listen in this state of the world: first over all
sequences of events, each of which is dealt with before the next, and then over all orders in which
clients, the helper and its thread take turns. -/
structure OneEngine (sys : System σ) (socket : Path) (d : Dispatcher σ) (s₀ : σ) : Prop where
  /-- Nothing is done as long as no engine connects and the helper is not told to shut down. -/
  quiet : ∀ events : List ServiceEvent, (∀ event ∈ events, ¬ event.IsDecisive) →
    Service.run sys socket d .listening events s₀ = (.ok (.listening, []), s₀)
  /-- The first engine that connects is served, after the removal of the socket. What other clients
  do makes no difference. -/
  served : ∀ (before : List ServiceEvent) (engine : Nat) (after : List ServiceEvent),
    (∀ event ∈ before, ¬ event.IsDecisive) →
    Service.run sys socket d .listening (before ++ .connect engine :: after) s₀ =
      (Service.closeListener sys socket >>= fun _ =>
        (liftM (sys.report .info .helper "engine connected") : Act σ Unit) >>= fun _ =>
          Service.run sys socket d (.serving engine .start)
            (after.filter (·.concerns engine))) s₀
  /-- The requests that are performed then are the first in what this engine sends before it goes or
  the helper is told to shut down. -/
  performed : ∀ (engine : Nat) (after : List ServiceEvent) (s : σ), ∃ performed,
    performed <+: (ByteStream.received Request.decode (ServiceEvent.heard engine after)).1 ∧
    let ended := (Service.run sys socket d (.serving engine .start) after s).2
    let done := (d.handleAll sys performed s).2
    ended = done ∨ ended = (sys.report .debug .helper "connection closed" [] done).2
  /-- A helper that is told to shut down before an engine connects removes its socket and does
  nothing else. -/
  unserved : ∀ before after : List ServiceEvent, (∀ event ∈ before, ¬ event.IsDecisive) →
    Service.run sys socket d .listening (before ++ .shutdown :: after) s₀ =
      (Service.closeListener sys socket >>= fun _ => pure (.finished (.ok ()), [])) s₀
  /-- Nothing is done about what happens after the helper was told to shut down. -/
  shutDown : ∀ (service : Service) (before after : List ServiceEvent),
    Service.run sys socket d service (before ++ .shutdown :: after) =
      Service.run sys socket d service (before ++ [.shutdown])
  /-- Where the socket cannot be removed, that is reported, and nothing else comes of it. -/
  removal : ∀ s, Service.closeListener sys socket s =
    match sys.removeFile socket s with
    | (.ok (), s) => (.ok (), s)
    | (.error fault, s) => (.ok (), (sys.report .warn .helper "failed to remove socket"
        [("error", .shown fault.message)] s).2)
  /-- At every moment the law of the scene holds. -/
  scenes : ∀ s, Scene.Reaches sys socket d (.start s₀) s → SceneLaw sys socket d s₀ s
  /-- No client connects once the listener is closed. -/
  noClient : ∀ s s' : Scene σ, s.Closed → Scene.Reaches sys socket d s s' → s'.clients = s.clients
  /-- No request is started, and nothing is taken in, once the helper was told to shut down. -/
  noRequest : ∀ s s' : Scene σ, Scene.Reaches sys socket d (.start s₀) s → .shutdown ∈ s.taken →
    Scene.Reaches sys socket d s s' → s'.taken = s.taken ∧ s'.started = s.started

namespace Service

/-- **One engine for each helper.** Every helper takes requests from the first engine that it
accepts and from no other, after it has closed its listener and tried to remove its socket, and it
starts no request once it was told to shut down.

**Proof sketch.** By induction on the events: the first one that a listening helper waits for
decides (`run_connect`, `run_listening_shutdown`), and of the others it heeds those of the engine
alone (`run_concerns`). Where clients, the helper and its thread take turns, each step keeps to the
course on which the helper was, and what it has taken in so far is a sequence of events of that kind
(`Scene.law_of_reaches`). While the listener is closed nobody is accepted
(`Scene.clients_of_reaches`), and a helper that was told to shut down starts nothing
(`Scene.started_of_reaches`), both by induction on the steps. -/
theorem one_engine (sys : System σ) (socket : Path) (d : Dispatcher σ) (s₀ : σ) :
    OneEngine sys socket d s₀ where
  quiet events hquiet := by rw [run_quiet sys socket d hquiet, Act.run_pure]
  served before engine after hbefore := by
    have hstart : serving engine .start = settle engine .start := rfl
    rw [run_connect sys socket d hbefore, hstart, run_concerns]
  performed engine after s := exists_performed sys socket d engine Connection.settled_start after s
  unserved before after hbefore := by rw [run_listening_shutdown sys socket d hbefore]
  shutDown := run_shutdown sys socket d
  removal := closeListener_apply sys socket
  scenes _ h := Scene.law_of_reaches h
  noClient _ _ hclosed h := Scene.clients_of_reaches hclosed.listening h
  noRequest _ _ hbefore htold h := Scene.started_of_reaches hbefore htold h

/-- Two engines connect, and both ask for a change of the root. The one that was accepted has its
request started, and the helper is told to shut down before that is performed. The request of the
other stays unread. -/
theorem one_engine_raced :
    let sys := Helped.system System.willing
    let d := Helped.dispatcher Helped.willing
    let frame : Bytes := [0, 0, 0, 20, 130, 164, 116, 121, 112, 101, 166, 67, 104, 114, 111, 111,
      116, 164, 112, 97, 116, 104, 161, 47]
    ∃ s : Scene (Helped Unit), Scene.Reaches sys "/run/socket" d (.start ⟨.start (), false⟩) s ∧
      SceneLaw sys "/run/socket" d ⟨.start (), false⟩ s ∧
      s.taken = [.connect 1, .receive 1 frame, .shutdown] ∧ s.started = [.chroot "/"] ∧
      s.state.ledger.entries = [.other, .chroot "/" (.ok 0)] ∧ s.unread 2 = frame := by
  intro sys d frame
  have hencode : (Request.chroot "/").encode? = some (frame.drop 4) := rfl
  have hdecode : Request.decode (frame.drop 4) = .ok (.chroot "/") :=
    Request.decode_of_le hencode (by decide)
  have hsize : (frame.drop 4).length ≤ Frame.maxLength := by decide
  have hnext : Connection.next ([] ++ frame) = .body (frame.drop 4) [] := by
    have hframe : [] ++ frame =
        MessagePack.bigEndianBytes 4 (frame.drop 4).length ++ frame.drop 4 ++ [] := by decide
    rw [hframe]
    exact Connection.next_frame hsize []
  have hreaches : Scene.Reaches sys "/run/socket" d (.start ⟨.start (), false⟩) _ :=
    .head (.connect 1 rfl nofun (by decide)) <| .head (.connect 2 rfl nofun (by decide)) <|
      .head (.accept rfl (.head _)) <| .head (.send frame (.tail _ (.head _)) nofun) <|
      .head (.close rfl) <| .head (.remove rfl) <| .head (.send frame (.head _) nofun) <|
      .head (.begin rfl (List.append_nil frame).symm hnext hdecode) <|
      .head (.shutDown (.inr rfl)) <| .single (.perform rfl)
  exact ⟨_, hreaches, (one_engine sys "/run/socket" d ⟨.start (), false⟩).scenes _ hreaches, rfl,
    rfl, rfl, rfl⟩

end Service
end Container
