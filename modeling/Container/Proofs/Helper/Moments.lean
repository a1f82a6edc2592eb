import Mathlib.Logic.Relation
import Container.Proofs.Helper.Serving

set_option autoImplicit false

/-!
# A helper from moment to moment

A helper that takes bytes in does several things: it performs a request, sends the answer bit by
bit, and goes on to the next request, while more bytes may come at any time. A helper that is told
to shut down stops at whatever moment it has come to. So here what it does is taken apart into
moments.

## Main definitions

* `Moment` — how far a helper has come.
* `Moment.Step` — from one moment to a next one.
* `Moment.finish` — what comes of a moment when nothing more is sent to the helper.
* `Moment.Standing` — which requests were performed, and which of them are answered.

## Main results

* `Moment.finish_of_reaches`, `Moment.reaches_of_feed` — the moments are those that the helper goes
  through when it is fed bytes.
* `Moment.exists_standing` — at every moment at most one request is performed and not answered.
-/

namespace Container

open Relation

variable {σ : Type}

/-- What a helper is about while it serves an engine. -/
inductive Phase where
  /-- It reads, and these bytes wait. -/
  | reading (waiting : Bytes)
  /-- It sends an answer, of which this is still to be sent, and these bytes wait. -/
  | answering (unsent waiting : Bytes)
  /-- The connection has gone wrong. -/
  | ended (e : ConnectionEnd)
  /-- The operations by which it performs requests have broken down. -/
  | broken (stop : Stop)

/-- Bytes that come wait behind those that wait already. -/
def Phase.await (piece : Bytes) : Phase → Phase
  | .reading waiting => .reading (waiting ++ piece)
  | .answering unsent waiting => .answering unsent (waiting ++ piece)
  | phase => phase

/-- Nothing more is done. -/
def Phase.IsOver : Phase → Prop
  | .ended _ | .broken _ => True
  | .reading _ | .answering _ _ => False

/-- What a helper is about on a connection between two pieces. -/
def Phase.of (c : Connection) : Phase :=
  match c.ended? with
  | some e => .ended e
  | none => .reading c.waiting

/-- How far a helper has come: all that has arrived, all that was sent, what it is about, and the
state of the world. -/
structure Moment (σ : Type) where
  arrived : Bytes
  sent : Bytes
  phase : Phase
  state : σ

namespace Moment

/-- The moment at which an engine has connected. -/
def start (s : σ) : Moment σ := ⟨[], [], .reading [], s⟩

/-- From one moment to a next one. -/
inductive Step (sys : System σ) (d : Dispatcher σ) : Moment σ → Moment σ → Prop
  /-- A piece arrives. -/
  | arrive (m : Moment σ) (piece : Bytes) :
      Step sys d m { m with arrived := m.arrived ++ piece, phase := m.phase.await piece }
  /-- A request is performed. -/
  | perform {arrived sent waiting body rest frame : Bytes} {request : Request} {response : Response}
      {s s' : σ} (hnext : Connection.next waiting = .body body rest)
      (hdecode : Request.decode body = .ok request)
      (hhandle : d.handle sys request s = (.ok response, s'))
      (hframe : response.frame = .ok frame) :
      Step sys d ⟨arrived, sent, .reading waiting, s⟩ ⟨arrived, sent, .answering frame rest, s'⟩
  /-- A part of the answer is sent. -/
  | send (arrived sent part unsent waiting : Bytes) (s : σ) :
      Step sys d ⟨arrived, sent, .answering (part ++ unsent) waiting, s⟩
        ⟨arrived, sent ++ part, .answering unsent waiting, s⟩
  /-- The answer is sent. -/
  | answered (arrived sent waiting : Bytes) (s : σ) :
      Step sys d ⟨arrived, sent, .answering [] waiting, s⟩ ⟨arrived, sent, .reading waiting, s⟩
  /-- A frame is announced that is too long. -/
  | oversized {arrived sent waiting : Bytes} {fault : ProtocolFault} (s : σ)
      (hnext : Connection.next waiting = .wrong fault) :
      Step sys d ⟨arrived, sent, .reading waiting, s⟩ ⟨arrived, sent, .ended (.frame fault), s⟩
  /-- A frame holds no request. -/
  | undecodable {arrived sent waiting body rest : Bytes} {mismatch : Datum.Mismatch} (s : σ)
      (hnext : Connection.next waiting = .body body rest)
      (hdecode : Request.decode body = .error mismatch) :
      Step sys d ⟨arrived, sent, .reading waiting, s⟩
        ⟨arrived, sent, .ended (.notDecodable mismatch), s⟩
  /-- A request is performed, and the answer is too long. -/
  | unsendable {arrived sent waiting body rest : Bytes} {request : Request} {response : Response}
      {fault : ProtocolFault} {s s' : σ} (hnext : Connection.next waiting = .body body rest)
      (hdecode : Request.decode body = .ok request)
      (hhandle : d.handle sys request s = (.ok response, s'))
      (hframe : response.frame = .error fault) :
      Step sys d ⟨arrived, sent, .reading waiting, s⟩ ⟨arrived, sent, .ended (.frame fault), s'⟩
  /-- A request is performed, and the operations break down. -/
  | breakDown {arrived sent waiting body rest : Bytes} {request : Request} {stop : Stop} {s s' : σ}
      (hnext : Connection.next waiting = .body body rest)
      (hdecode : Request.decode body = .ok request)
      (hhandle : d.handle sys request s = (.error stop, s')) :
      Step sys d ⟨arrived, sent, .reading waiting, s⟩ ⟨arrived, sent, .broken stop, s'⟩

/-- One moment comes after another, if not at once. -/
def Reaches (sys : System σ) (d : Dispatcher σ) : Moment σ → Moment σ → Prop :=
  ReflTransGen (Step sys d)

/-! ## Moments of a helper that is fed bytes -/

section Feeding

variable (sys : System σ) (d : Dispatcher σ)

/-- What comes of a moment when nothing more arrives: where the helper gets to, and all that it has
sent by then. -/
def finish (m : Moment σ) : Act σ (Connection × Bytes) :=
  match m.phase with
  | .reading waiting => Connection.drain sys d m.sent waiting
  | .answering unsent waiting => Connection.drain sys d (m.sent ++ unsent) waiting
  | .ended e => return (⟨[], some e⟩, m.sent)
  | .broken stop => throw stop

variable {sys d}

/-- What comes of a moment at which a piece arrives: what comes of it without, and then the piece
is fed. -/
theorem finish_arrive (m : Moment σ) (piece : Bytes) :
    finish sys d { m with arrived := m.arrived ++ piece, phase := m.phase.await piece } =
      finish sys d m >>= fun fed => (fun r => (r.1, fed.2 ++ r.2)) <$> fed.1.feed sys d piece := by
  obtain ⟨arrived, sent, phase, s⟩ := m
  cases phase with
  | reading waiting => exact Connection.drain_feed sys d sent waiting piece
  | answering unsent waiting => exact Connection.drain_feed sys d (sent ++ unsent) waiting piece
  | ended e => simp [finish, Phase.await, Connection.feed]
  | broken stop => rfl

/-- **Every moment is on the way** to where the model gets to when it is fed all that has arrived.

**Proof sketch.** By induction on the steps. Where a piece arrives it is fed to what would have come
of the moment before; every other step is the next thing that draining does. -/
theorem finish_of_reaches {s : σ} {m : Moment σ} (h : Reaches sys d (start s) m) :
    m.finish sys d m.state = Connection.start.feed sys d m.arrived s := by
  induction h with
  | refl => rfl
  | tail _ hstep ih =>
    cases hstep with
    | arrive m piece =>
      rw [finish_arrive, Connection.feed_append, Act.run_bind, Act.run_bind, ih]
    | perform hnext hdecode hhandle hframe =>
      rw [← ih]
      simp only [finish, Connection.drain_body sys d hnext, hdecode, Act.run_bind, hhandle, hframe]
    | send arrived sent part unsent waiting s =>
      rw [← ih]
      simp only [finish, List.append_assoc]
    | answered arrived sent waiting s =>
      rw [← ih]
      simp only [finish, List.append_nil]
    | oversized s hnext =>
      rw [← ih]
      simp only [finish, Connection.drain_wrong sys d hnext, Act.run_pure]
    | undecodable s hnext hdecode =>
      rw [← ih]
      simp only [finish, Connection.drain_body sys d hnext, hdecode, Act.run_pure]
    | unsendable hnext hdecode hhandle hframe =>
      rw [← ih]
      simp only [finish, Connection.drain_body sys d hnext, hdecode, Act.run_bind, hhandle, hframe,
        Act.run_pure]
    | breakDown hnext hdecode hhandle =>
      rw [← ih]
      simp only [finish, Connection.drain_body sys d hnext, hdecode, Act.run_bind, hhandle]
      rfl

/-- Draining goes from moment to moment. -/
theorem reaches_of_drain {arrived sent sent' waiting : Bytes} {s s' : σ} {c : Connection}
    (h : Connection.drain sys d sent waiting s = (.ok (c, sent'), s')) :
    Reaches sys d ⟨arrived, sent, .reading waiting, s⟩ ⟨arrived, sent', .of c, s'⟩ := by
  induction waiting using Connection.next_induction generalizing sent s with
  | incomplete waiting hnext =>
    rw [Connection.drain_incomplete sys d hnext] at h
    cases h
    exact .refl
  | wrong waiting fault hnext =>
    rw [Connection.drain_wrong sys d hnext] at h
    cases h
    exact .single (.oversized _ hnext)
  | body waiting body rest hnext ih =>
    rw [Connection.drain_body sys d hnext] at h
    cases hdecode : Request.decode body with
    | error mismatch =>
      rw [hdecode] at h
      cases h
      exact .single (.undecodable _ hnext hdecode)
    | ok request =>
      simp only [hdecode, Act.run_bind] at h
      rcases hhandle : d.handle sys request s with ⟨stop | response, s₁⟩
      · rw [hhandle] at h
        cases h
      · rw [hhandle] at h
        cases hframe : response.frame with
        | error fault =>
          simp only [hframe] at h
          cases h
          exact .single (.unsendable hnext hdecode hhandle hframe)
        | ok frame =>
          simp only [hframe] at h
          have hsend : Step sys d ⟨arrived, sent, .answering frame rest, s₁⟩
              ⟨arrived, sent ++ frame, .answering [] rest, s₁⟩ := by
            simpa using Step.send arrived sent frame [] rest s₁
          exact .head (.perform hnext hdecode hhandle hframe)
            (.head hsend (.head (.answered _ _ _ _) (ih h)))

/-- **Where the model gets to** when it is fed bytes is a moment. -/
theorem reaches_of_feed {bs sent : Bytes} {s s' : σ} {c : Connection}
    (h : Connection.start.feed sys d bs s = (.ok (c, sent), s')) :
    Reaches sys d (start s) ⟨bs, sent, .of c, s'⟩ :=
  .head (.arrive (start s) bs) (reaches_of_drain h)

end Feeding

/-! ## What is performed and what is answered -/

section Standing

variable (sys : System σ) (d : Dispatcher σ)

/-- What is sent of requests that were performed. -/
def framesOf : Except Stop (List Response) → Bytes
  | .ok responses => responses.flatMap Response.framed
  | .error _ => []

/-- At some moment the requests in `answered` are performed and answered and those in `unanswered`
are performed, and no others. -/
structure Standing (s : σ) (m : Moment σ) (answered unanswered : List Request) : Prop where
  /-- They are the first ones that were received, in order. -/
  performed : answered ++ unanswered <+: (ByteStream.received Request.decode m.arrived).1
  atMostOne : unanswered.length ≤ 1
  /-- All that is done and sent is what performing them does, and the answers. The last answer may
  be sent in part. -/
  done : ∃ responses between part,
    d.handleAll sys answered s = (.ok responses, between) ∧
    (d.handleAll sys unanswered between).2 = m.state ∧
    m.sent = responses.flatMap Response.framed ++ part ∧
    part <+: framesOf (d.handleAll sys unanswered between).1

/-- What is known of each moment, by what the helper is about. -/
inductive OnCourse (s : σ) : Moment σ → Prop
  | reading {arrived waiting : Bytes} {performed : List Request} {responses : List Response}
      {s' : σ} (hperformed : d.handleAll sys performed s = (.ok responses, s'))
      (hreceived : ByteStream.received Request.decode arrived =
        (performed ++ (ByteStream.received Request.decode waiting).1,
          (ByteStream.received Request.decode waiting).2)) :
      OnCourse s ⟨arrived, responses.flatMap Response.framed, .reading waiting, s'⟩
  | answering {arrived part unsent waiting : Bytes} {performed : List Request} {last : Request}
      {responses : List Response} {response : Response} {between s' : σ}
      (hperformed : d.handleAll sys performed s = (.ok responses, between))
      (hlast : d.handle sys last between = (.ok response, s'))
      (hframe : response.framed = part ++ unsent)
      (hreceived : ByteStream.received Request.decode arrived =
        (performed ++ last :: (ByteStream.received Request.decode waiting).1,
          (ByteStream.received Request.decode waiting).2)) :
      OnCourse s ⟨arrived, responses.flatMap Response.framed ++ part, .answering unsent waiting, s'⟩
  /-- Nothing more is done. -/
  | ended {m : Moment σ} {answered unanswered : List Request}
      (hstanding : Standing sys d s m answered unanswered) (hended : m.phase.IsOver) : OnCourse s m

variable {sys d}

/-- What arrives goes on where receiving had stopped. -/
theorem received_arrive {arrived waiting : Bytes} {performed : List Request}
    (h : ByteStream.received Request.decode arrived =
      (performed ++ (ByteStream.received Request.decode waiting).1,
        (ByteStream.received Request.decode waiting).2)) (piece : Bytes) :
    ByteStream.received Request.decode (arrived ++ piece) =
      (performed ++ (ByteStream.received Request.decode (waiting ++ piece)).1,
        (ByteStream.received Request.decode (waiting ++ piece)).2) := by
  rw [ByteStream.received_append, ByteStream.received_append _ waiting, h, List.append_assoc]

/-- A frame that waits holds the request that is received next. -/
theorem received_perform {arrived waiting body rest : Bytes} {performed : List Request}
    {request : Request} (h : ByteStream.received Request.decode arrived =
      (performed ++ (ByteStream.received Request.decode waiting).1,
        (ByteStream.received Request.decode waiting).2))
    (hnext : Connection.next waiting = .body body rest)
    (hdecode : Request.decode body = .ok request) :
    ByteStream.received Request.decode arrived =
      (performed ++ request :: (ByteStream.received Request.decode rest).1,
        (ByteStream.received Request.decode rest).2) := by
  have hwaiting := ByteStream.received_body Request.decode hnext
  rw [hdecode] at hwaiting
  rw [h, hwaiting]

/-- One request more is answered. -/
theorem handleAll_last {performed : List Request} {last : Request} {responses : List Response}
    {response : Response} {s between s' : σ}
    (hperformed : d.handleAll sys performed s = (.ok responses, between))
    (hlast : d.handle sys last between = (.ok response, s')) :
    d.handleAll sys (performed ++ [last]) s = (.ok (responses ++ [response]), s') := by
  rw [Dispatcher.handleAll_append, Act.run_bind, hperformed]
  simp only [Dispatcher.handleAll_cons, Dispatcher.handleAll_nil, Act.run_bind, hlast, Act.run_pure]

/-- All that was performed is answered. -/
theorem standing_answered {s : σ} {m : Moment σ} {performed : List Request}
    {responses : List Response}
    (hperformed : d.handleAll sys performed s = (.ok responses, m.state))
    (hsent : m.sent = responses.flatMap Response.framed)
    (hreceived : performed <+: (ByteStream.received Request.decode m.arrived).1) :
    Standing sys d s m performed [] where
  performed := by rwa [List.append_nil]
  atMostOne := Nat.zero_le 1
  done := ⟨responses, m.state, [], hperformed, rfl, by rw [hsent, List.append_nil],
    List.nil_prefix⟩

/-- All that was performed is answered but the last request, and of the answer to that some part may
be sent. -/
theorem standing_unanswered {s : σ} {m : Moment σ} {performed : List Request} {last : Request}
    {later : List Request} {responses : List Response} {between : σ} {part : Bytes}
    (hperformed : d.handleAll sys performed s = (.ok responses, between))
    (hlast : (d.handle sys last between).2 = m.state)
    (hsent : m.sent = responses.flatMap Response.framed ++ part)
    (hpart : part <+: framesOf ((d.handle sys last between).1.map ([·])))
    (hreceived : (ByteStream.received Request.decode m.arrived).1 = performed ++ last :: later) :
    Standing sys d s m performed [last] := by
  have hone : d.handleAll sys [last] between =
      ((d.handle sys last between).1.map ([·]), (d.handle sys last between).2) := by
    rw [Dispatcher.handleAll_cons, Dispatcher.handleAll_nil]
    simp only [pure_bind, Act.run_bind]
    rcases d.handle sys last between with ⟨stop | response, s'⟩ <;> rfl
  refine ⟨?_, Nat.le_refl 1, responses, between, part, hperformed, ?_, hsent, ?_⟩
  · rw [hreceived]
    exact ⟨later, by simp⟩
  · rw [hone, hlast]
  · rwa [hone]

/-- **A step from a moment on the course** leads to one.

**Proof sketch.** By the kind of the step. A request that is performed is the next one received;
it counts as unanswered until all of its answer is sent. Once the helper is done for, only bytes
arrive, and the requests in them come after those that were received before. -/
theorem OnCourse.step {s : σ} {m m' : Moment σ} (h : OnCourse sys d s m) (hstep : Step sys d m m') :
    OnCourse sys d s m' := by
  cases hstep with
  | arrive m piece =>
    cases h with
    | reading hperformed hreceived =>
      exact .reading hperformed (received_arrive hreceived piece)
    | @answering arrived part unsent waiting performed last responses response between s'
        hperformed hlast hframe hreceived =>
      refine .answering hperformed hlast hframe ?_
      have hsplit : ByteStream.received Request.decode arrived =
          ((performed ++ [last]) ++ (ByteStream.received Request.decode waiting).1,
            (ByteStream.received Request.decode waiting).2) := by
        rw [hreceived, List.append_assoc, List.singleton_append]
      rw [received_arrive hsplit piece, List.append_assoc, List.singleton_append]
    | ended hstanding hended =>
      have hphase : m.phase.await piece = m.phase := by
        revert hended
        cases m.phase <;> simp [Phase.IsOver, Phase.await]
      rw [hphase]
      refine .ended ⟨?_, hstanding.atMostOne, hstanding.done⟩ hended
      exact hstanding.performed.trans (ByteStream.received_prefix _ (List.prefix_append _ _))
  | @perform arrived sent waiting body rest frame request response s₁ s' hnext hdecode hhandle
      hframe =>
    cases h with
    | @reading _ _ performed responses _ hperformed hreceived =>
      have hframed : response.framed = [] ++ frame := by rw [Response.framed, hframe]; rfl
      have hcourse := OnCourse.answering hperformed hhandle hframed
        (received_perform hreceived hnext hdecode)
      rwa [List.append_nil] at hcourse
    | ended _ hended => exact hended.elim
  | send arrived sent part unsent waiting s₁ =>
    cases h with
    | answering hperformed hlast hframe hreceived =>
      rw [List.append_assoc]
      exact .answering hperformed hlast (by rw [hframe, List.append_assoc]) hreceived
    | ended _ hended => exact hended.elim
  | answered arrived sent waiting s₁ =>
    cases h with
    | @answering _ part _ _ performed last responses response between _ hperformed hlast hframe
        hreceived =>
      have hsplit : ByteStream.received Request.decode arrived =
          ((performed ++ [last]) ++ (ByteStream.received Request.decode waiting).1,
            (ByteStream.received Request.decode waiting).2) := by
        rw [hreceived, List.append_assoc, List.singleton_append]
      have hcourse := OnCourse.reading (handleAll_last hperformed hlast) hsplit
      rw [List.append_nil] at hframe
      rwa [List.flatMap_append, List.flatMap_singleton, hframe] at hcourse
    | ended _ hended => exact hended.elim
  | oversized s₁ hnext =>
    cases h with
    | reading hperformed hreceived =>
      exact .ended (standing_answered hperformed rfl ⟨_, by rw [hreceived]⟩) trivial
    | ended _ hended => exact hended.elim
  | undecodable s₁ hnext hdecode =>
    cases h with
    | reading hperformed hreceived =>
      exact .ended (standing_answered hperformed rfl ⟨_, by rw [hreceived]⟩) trivial
    | ended _ hended => exact hended.elim
  | unsendable hnext hdecode hhandle hframe =>
    cases h with
    | reading hperformed hreceived =>
      have hreceived := congrArg Prod.fst (received_perform hreceived hnext hdecode)
      refine .ended (standing_unanswered hperformed ?_ (List.append_nil _).symm List.nil_prefix
        hreceived) trivial
      rw [hhandle]
    | ended _ hended => exact hended.elim
  | breakDown hnext hdecode hhandle =>
    cases h with
    | reading hperformed hreceived =>
      have hreceived := congrArg Prod.fst (received_perform hreceived hnext hdecode)
      refine .ended (standing_unanswered hperformed ?_ (List.append_nil _).symm List.nil_prefix
        hreceived) trivial
      rw [hhandle]
    | ended _ hended => exact hended.elim

/-- **At every moment at most one request is performed and not answered.** -/
theorem exists_standing {s : σ} {m : Moment σ} (h : Reaches sys d (start s) m) :
    ∃ answered unanswered, Standing sys d s m answered unanswered := by
  have hcourse : OnCourse sys d s m := by
    induction h with
    | refl =>
      have hempty : ByteStream.received Request.decode [] = ([], []) :=
        ByteStream.received_incomplete _ rfl
      have hnone : d.handleAll sys [] s = (.ok [], s) := rfl
      exact .reading hnone (by rw [hempty]; rfl)
    | tail _ hstep ih => exact ih.step hstep
  cases hcourse with
  | reading hperformed hreceived =>
    exact ⟨_, [], standing_answered hperformed rfl ⟨_, by rw [hreceived]⟩⟩
  | answering hperformed hlast hframe hreceived =>
    refine ⟨_, [_], standing_unanswered hperformed ?_ rfl ?_ (by rw [hreceived])⟩
    · rw [hlast]
    · rw [hlast]
      show _ <+: [_].flatMap Response.framed
      rw [List.flatMap_singleton, hframe]
      exact List.prefix_append _ _
  | ended hstanding _ => exact ⟨_, _, hstanding⟩

end Standing
end Moment
end Container
