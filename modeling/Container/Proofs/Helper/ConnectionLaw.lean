import Container.Proofs.Helper.Moments

set_option autoImplicit false

/-!
# The law of a helper's connection

A helper that serves an engine performs the requests that it receives, one after the other, sends
the frames of its responses, and ends as what is left of the bytes says. That is so however the
bytes are cut into pieces, and whatever it performs the requests by. More bytes only ever add to
what is done and sent, and whenever the helper is stopped, at most one request is not answered.

## Main definitions

* `Helped` — the state of a helper, with the calls that were made.
* `Helped.serve` — a helper serves an engine that sends pieces and goes.
* `ConnectionLaw` — what is known of that.

## Main results

* `Helped.connection_law` — the law holds for every state and all privileged operations.
-/

namespace Container

variable {σ α β : Type}

/-- The state of a helper: the world with the calls made on it, and whether the root was changed. -/
structure Helped (σ : Type) where
  ledger : Ledger σ
  entered : Bool

namespace Helped

/-- The calls made on the world. -/
def ledgerPlace : Slot (Helped σ) (Ledger σ) where
  get h := h.ledger
  set ledger h := { h with ledger }

/-- Whether the root was changed. -/
def enteredPlace : Slot (Helped σ) Bool where
  get h := h.entered
  set entered h := { h with entered }

/-- The system of a helper. -/
def system (sys : System σ) : System (Helped σ) := Ledger.system ledgerPlace sys

/-- What a helper answers requests by. The privileged operations may be any. -/
def dispatcher (ops : Privileged σ) : Dispatcher (Helped σ) :=
  ⟨Ledger.operations ledgerPlace ops, enteredPlace⟩

/-- A helper serves an engine that sends these pieces and goes. -/
def serve (sys : System σ) (ops : Privileged σ) (socket : Path) (engine : Nat)
    (pieces : List Bytes) : Act (Helped σ) (Service × Bytes) :=
  Service.run (system sys) socket (dispatcher ops) (.serving engine .start)
    (pieces.map (.receive engine) ++ [.hangUp engine])

/-! ## Calls are only ever added -/

/-- Calls are added to those that were made, and none is taken back. -/
def Grows (act : Act (Helped σ) α) : Prop :=
  ∀ h, h.ledger.entries <+: (act h).2.ledger.entries

namespace Grows

/-- What leaves the ledger as it is adds nothing to it. -/
theorem of_eq {act : Act (Helped σ) α} (h : ∀ s, (act s).2.ledger = s.ledger) : Grows act := by
  intro s
  exact ⟨[], by rw [List.append_nil, h]⟩

/-- One computation after another. -/
theorem bind {act : Act (Helped σ) α} {next : α → Act (Helped σ) β} (h : Grows act)
    (hnext : ∀ a, Grows (next a)) : Grows (act >>= next) := by
  intro s
  have hfirst := h s
  rw [Act.run_bind]
  rcases hact : act s with ⟨stop | a, s'⟩
  · rwa [hact] at hfirst
  · rw [hact] at hfirst
    exact hfirst.trans (hnext a s')

/-- A computation whose failure is handed over. -/
theorem guarded {act : Act (Helped σ) α} (h : Grows act) : Grows act.guarded := by
  intro s
  have hgrows := h s
  rw [Act.run_guarded]
  rcases hact : act s with ⟨(f | _) | a, s'⟩
  all_goals
    rw [hact] at hgrows
    exact hgrows

section Helper

variable (sys : System σ) (ops : Privileged σ)

/-- Reports are not written down. -/
theorem report (level : Level) (source : LogSource) (message : String)
    (values : List (String × LogValue)) :
    Grows (liftM ((system sys).report level source message values) : Act (Helped σ) Unit) :=
  of_eq fun _ => rfl

/-- A failure is reported and answered. -/
theorem failed (f : Failure) : Grows (Dispatcher.failed (system sys) f) :=
  (report sys _ _ _ _).bind fun _ => of_eq fun _ => rfl

/-- **A request adds the call that it asks for**, or nothing. -/
theorem handle (request : Request) : Grows ((dispatcher ops).handle (system sys) request) := by
  refine bind (of_eq fun _ => rfl) fun entered => ?_
  cases entered with
  | true => exact (report sys _ _ _ _).bind fun _ => of_eq fun _ => rfl
  | false =>
    simp only [Bool.false_eq_true, if_false]
    cases request with
    | mount request =>
      refine (report sys _ _ _ _).bind fun _ => (guarded fun s => List.prefix_append _ _).bind ?_
      rintro (f | code)
      · exact failed sys f
      · exact of_eq fun _ => rfl
    | chroot path =>
      refine (report sys _ _ _ _).bind fun _ => (guarded fun s => List.prefix_append _ _).bind ?_
      rintro (f | code)
      · exact failed sys f
      · exact of_eq fun _ => rfl
    | ping => exact of_eq fun _ => rfl

/-- What waits adds the calls that its requests ask for. -/
theorem drain (answers waiting : Bytes) :
    Grows (Connection.drain (system sys) (dispatcher ops) answers waiting) := by
  induction waiting using Connection.next_induction generalizing answers with
  | incomplete waiting hnext =>
    rw [Connection.drain_incomplete _ _ hnext]
    exact of_eq fun _ => rfl
  | wrong waiting fault hnext =>
    rw [Connection.drain_wrong _ _ hnext]
    exact of_eq fun _ => rfl
  | body waiting body rest hnext ih =>
    rw [Connection.drain_body _ _ hnext]
    cases Request.decode body with
    | error mismatch => exact of_eq fun _ => rfl
    | ok request =>
      refine (handle sys ops request).bind fun response => ?_
      cases response.frame with
      | error fault => exact of_eq fun _ => rfl
      | ok frame => exact ih _

/-- Bytes that are fed add calls. -/
theorem feed (c : Connection) (bs : Bytes) :
    Grows (c.feed (system sys) (dispatcher ops) bs) := by
  unfold Connection.feed
  cases c.ended? with
  | some e => exact of_eq fun _ => rfl
  | none => exact drain sys ops _ _

end Helper
end Grows

/-! ## The law -/

/-- What is known of a helper that serves an engine, in a state in which the engine connects. -/
structure ConnectionLaw (sys : System σ) (ops : Privileged σ) (socket : Path) (engine : Nat)
    (s : Helped σ) : Prop where
  /-- What is done and sent for bytes in pieces is what handling the requests in them does, and the
  frames of the responses. How it ends depends on what is left, for which nothing is done. -/
  answers : ∀ pieces : List Bytes,
    let received := ByteStream.received Request.decode pieces.flatten
    (dispatcher ops).FitAlong (system sys) received.1 s →
      ∃ result, Leftover received.2 result ∧ (result = .ok () ↔ received.2.length < 4) ∧
        serve sys ops socket engine pieces s =
          ((dispatcher ops).handleAll (system sys) received.1 >>= fun responses =>
            pure (.finished result, responses.flatMap Response.framed)) s
  /-- Where bytes begin with others, what is done and sent for those comes first. -/
  begins : ∀ pieces pieces' : List Bytes, pieces.flatten <+: pieces'.flatten →
    let ended := serve sys ops socket engine pieces s
    let ended' := serve sys ops socket engine pieces' s
    ended.2.ledger.entries <+: ended'.2.ledger.entries ∧
      ∀ service' sent', ended'.1 = .ok (service', sent') →
        ∃ service sent, ended.1 = .ok (service, sent) ∧ sent <+: sent'
  /-- Whatever moment the helper has come to when it is stopped, all that it has performed are the
  first requests received, and at most the last of them is not answered. -/
  stopped : ∀ m, Moment.Reaches (system sys) (dispatcher ops) (Moment.start s) m →
    ∃ answered unanswered, m.Standing (system sys) (dispatcher ops) s answered unanswered
  /-- Every such moment is on the way to where the helper gets to when it is fed all that
  arrived. -/
  onTheWay : ∀ m, Moment.Reaches (system sys) (dispatcher ops) (Moment.start s) m →
    m.finish (system sys) (dispatcher ops) m.state =
      Connection.start.feed (system sys) (dispatcher ops) m.arrived s
  /-- Where the helper gets to when it is fed bytes is such a moment. -/
  passed : ∀ bs c sent s', Connection.start.feed (system sys) (dispatcher ops) bs s =
      (.ok (c, sent), s') →
    Moment.Reaches (system sys) (dispatcher ops) (Moment.start s) ⟨bs, sent, .of c, s'⟩

/-- A helper that serves an engine takes the bytes in as if they came in one piece. -/
theorem serve_eq (sys : System σ) (ops : Privileged σ) (socket : Path) (engine : Nat)
    (pieces : List Bytes) :
    serve sys ops socket engine pieces =
      Connection.start.feed (system sys) (dispatcher ops) pieces.flatten >>= fun fed =>
        (liftM (fed.1.hangUp (system sys)) : Act (Helped σ) _) >>= fun result =>
          pure (.finished result, fed.2) := by
  rw [← Connection.feedPieces_eq Connection.settled_start]
  exact Service.run_pieces (system sys) socket (dispatcher ops) engine .start pieces

/-- An engine that goes leaves the state as it is. -/
theorem hangUp_eq (sys : System σ) (c : Connection) :
    ∃ result, c.hangUp (system sys) = pure result := by
  have hsilent : (system sys).IsSilent := Ledger.system_isSilent ledgerPlace sys
  obtain ⟨waiting, ended?⟩ := c
  cases ended? with
  | some e => exact ⟨.error e, rfl⟩
  | none =>
    simp only [Connection.hangUp, hsilent.report]
    split
    · exact ⟨.ok (), rfl⟩
    · exact ⟨_, rfl⟩

/-- **The law of a helper's connection.** Every helper, in whatever state an engine connects to it
and whatever privileged operations it has, performs the requests that it receives and answers them.

**Proof sketch.** How the bytes are cut makes no difference (`serve_eq`), and answering what waits
is handling the requests in it (`Connection.drain_received`); what is left over decides on how the
connection ends (`Connection.exists_leftover`). Feeding more bytes goes on where feeding the first
ones has stopped (`Connection.feed_append`), so it only adds to what is done and sent
(`Grows.feed`). Between performing a request and sending all of its answer a helper performs no
other, which is the invariant of its moments (`Moment.exists_standing`); and from each moment on the
way it gets to where it gets to from the start (`Moment.finish_of_reaches`). -/
theorem connection_law (sys : System σ) (ops : Privileged σ) (socket : Path) (engine : Nat)
    (s : Helped σ) : ConnectionLaw sys ops socket engine s where
  answers pieces := by
    intro received hfits
    have hsilent : (system sys).IsSilent := Ledger.system_isSilent ledgerPlace sys
    obtain ⟨c, result, hleft, hdrain, hhangUp⟩ := Connection.exists_leftover hsilent
      (dispatcher ops) fun _ _ => ByteStream.next_received _ pieces.flatten
    refine ⟨result, hleft, hleft.eq_ok_iff, ?_⟩
    have hfeed : Connection.start.feed (system sys) (dispatcher ops) pieces.flatten s =
        ((dispatcher ops).handleAll (system sys) received.1 >>= fun responses =>
          pure (c, responses.flatMap Response.framed)) s := by
      have hreceived :=
        Connection.drain_received (system sys) (dispatcher ops) [] pieces.flatten hfits
      simp only [hdrain, List.nil_append] at hreceived
      exact hreceived
    rw [serve_eq, Act.run_bind, hfeed, Act.run_bind, Act.run_bind]
    rcases (dispatcher ops).handleAll (system sys) received.1 s with ⟨stop | responses, s'⟩
    · rfl
    · simp only [Act.run_pure, Act.run_bind, Act.run_lift, hhangUp, Act.pure_apply]
  begins pieces pieces' := by
    rintro ⟨later, hlater⟩ ended ended'
    have hended : ended = _ := congrFun (serve_eq sys ops socket engine pieces) s
    have hended' : ended' = _ := congrFun (serve_eq sys ops socket engine pieces') s
    rw [← hlater, Connection.feed_append] at hended'
    rw [hended, hended']
    simp only [Act.run_bind]
    rcases Connection.start.feed (system sys) (dispatcher ops) pieces.flatten s with
      ⟨stop | ⟨c, sent⟩, s₁⟩
    · dsimp only
      refine ⟨List.prefix_refl _, ?_⟩
      rintro service' sent' ⟨⟩
    · obtain ⟨result, hresult⟩ := hangUp_eq sys c
      have hgrows := Grows.feed sys ops c later s₁
      simp only [Act.run_lift, hresult, Act.pure_apply, Act.run_pure, Act.run_map]
      rcases hfeed : c.feed (system sys) (dispatcher ops) later s₁ with ⟨stop | ⟨c', sent'⟩, s₂⟩
      all_goals rw [hfeed] at hgrows
      · dsimp only [Except.map]
        refine ⟨hgrows, ?_⟩
        rintro service' sent' ⟨⟩
      · obtain ⟨result', hresult'⟩ := hangUp_eq sys c'
        simp only [Except.map, hresult', Act.pure_apply]
        refine ⟨hgrows, ?_⟩
        rintro service' _ ⟨⟩
        exact ⟨_, sent, rfl, List.prefix_append _ _⟩
  stopped _ hreaches := Moment.exists_standing hreaches
  onTheWay _ hreaches := Moment.finish_of_reaches hreaches
  passed _ _ _ _ hfeed := Moment.reaches_of_feed hfeed

/-- Privileged operations that succeed and do nothing. -/
def willing : Privileged Unit := ⟨fun _ => pure 0, fun _ => pure 0, pure ()⟩

/-- An engine asks for a change of the root, in two pieces, and for a sign of life in a third, and
goes within the next frame. The second request comes too late. -/
theorem connection_law_entered :
    let pieces : List Bytes :=
      [[0, 0, 0, 20, 130, 164, 116, 121, 112, 101, 166, 67, 104, 114, 111, 111, 116, 164],
        [112, 97, 116, 104, 161, 47],
        [0, 0, 0, 11, 129, 164, 116, 121, 112, 101, 164, 80, 105, 110, 103, 0, 0]]
    serve System.willing willing "/run/socket" 7 pieces ⟨.start (), false⟩ =
      (.ok (.finished (.ok ()),
        [Response.chroot 0, .error Dispatcher.enteredMessage].flatMap Response.framed),
        ⟨⟨(), [.chroot "/" (.ok 0)]⟩, true⟩) := by
  intro pieces
  have hchroot : (Request.chroot "/").encode? = some [130, 164, 116, 121, 112, 101, 166, 67, 104,
      114, 111, 111, 116, 164, 112, 97, 116, 104, 161, 47] := rfl
  have hping : Request.ping.encode? =
      some [129, 164, 116, 121, 112, 101, 164, 80, 105, 110, 103] := rfl
  have hlater : ByteStream.received Request.decode
      [0, 0, 0, 11, 129, 164, 116, 121, 112, 101, 164, 80, 105, 110, 103, 0, 0] =
        ([.ping], [0, 0]) := by
    refine (ByteStream.received_frame hping (by decide) [0, 0]).trans ?_
    rw [ByteStream.received_incomplete _ rfl]
  have hreceived : ByteStream.received Request.decode pieces.flatten =
      ([.chroot "/", .ping], [0, 0]) :=
    (ByteStream.received_frame hchroot (by decide) _).trans
      (congrArg (fun later => (.chroot "/" :: later.1, later.2)) hlater)
  have hfits : (dispatcher willing).FitAlong (system System.willing) [.chroot "/", .ping]
      ⟨.start (), false⟩ := by
    refine ⟨?_, ?_, trivial⟩
    all_goals
      unfold Response.Fits
      decide
  obtain ⟨result, -, hends, hserve⟩ :=
    (connection_law System.willing willing "/run/socket" 7 ⟨.start (), false⟩).answers pieces
      (by rw [hreceived]; exact hfits)
  have hresult : result = .ok () := hends.mpr (by rw [hreceived]; decide)
  rw [hserve, hreceived, hresult]
  rfl

end Helped
end Container
