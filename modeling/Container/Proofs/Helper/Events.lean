import Container.Proofs.Helper.Serving

set_option autoImplicit false

/-!
# A helper and the order of events

A helper that listens takes the first engine that connects, unless it is told to shut down before.
Either way it removes its socket at once. From then on it heeds that engine alone, and nothing at
all once it was told to shut down.

## Main definitions

* `ServiceEvent.IsDecisive` — the events that a helper waits for while it listens.
* `ServiceEvent.concerns` — the events that a helper heeds while it serves an engine.
* `ServiceEvent.heard` — the bytes that it takes in.

## Main results

* `Service.run_connect`, `Service.run_listening_shutdown` — the first event decides.
* `Service.run_concerns` — what others do makes no difference.
* `Service.run_shutdown` — what happens after the helper was told to shut down makes none either.
* `Service.exists_performed` — which requests are performed.
-/

namespace Container

variable {σ : Type}

namespace ServiceEvent

/-- A helper that listens waits for an engine, or to be told to shut down. -/
def IsDecisive : ServiceEvent → Prop
  | .connect _ | .shutdown => True
  | .receive _ _ | .hangUp _ => False

/-- A helper that serves an engine heeds what this engine does, and that it is told to shut down. -/
def concerns (engine : Nat) : ServiceEvent → Bool
  | .connect _ => false
  | .receive sender _ | .hangUp sender => sender = engine
  | .shutdown => true

/-- The bytes that an engine sends until it goes, or until the helper is told to shut down. -/
def heard (engine : Nat) : List ServiceEvent → Bytes
  | [] => []
  | .connect _ :: events => heard engine events
  | .receive sender bs :: events =>
    if sender = engine then bs ++ heard engine events else heard engine events
  | .hangUp sender :: events => if sender = engine then [] else heard engine events
  | .shutdown :: _ => []

theorem heard_cons_of_not_concerns {engine : Nat} {event : ServiceEvent}
    (hother : event.concerns engine = false) (events : List ServiceEvent) :
    heard engine (event :: events) = heard engine events := by
  cases event with
  | connect => rfl
  | shutdown => cases hother
  | receive | hangUp => exact if_neg (of_decide_eq_false hother)

end ServiceEvent

/-- Where the first requests were answered, the others decide what there is in the end. -/
theorem Dispatcher.state_handleAll_append {sys : System σ} {d : Dispatcher σ}
    {requests : List Request} {responses : List Response} {s s' : σ}
    (h : d.handleAll sys requests s = (.ok responses, s')) (later : List Request) :
    (d.handleAll sys (requests ++ later) s).2 = (d.handleAll sys later s').2 := by
  rw [handleAll_append, Act.run_bind, h]
  simp only [Act.run_bind]
  rcases d.handleAll sys later s' with ⟨stop | responses', s''⟩ <;> rfl

namespace Connection

variable (sys : System σ) (d : Dispatcher σ)

/-- **Which requests are performed when what waits is drained**: the first ones in it. If the
connection goes on, these are all, and no whole frame is left. -/
theorem exists_drained (answers bs : Bytes) (s : σ) :
    ∃ performed, performed <+: (ByteStream.received Request.decode bs).1 ∧
      (drain sys d answers bs s).2 = (d.handleAll sys performed s).2 ∧
      ∀ c sent s', drain sys d answers bs s = (.ok (c, sent), s') → c.ended? = none →
        next c.waiting = .incomplete ∧
        ByteStream.received Request.decode bs = (performed, c.waiting) ∧
        ∃ responses, d.handleAll sys performed s = (.ok responses, s') := by
  induction bs using next_induction generalizing answers s with
  | incomplete bs hnext =>
    refine ⟨[], List.nil_prefix, ?_, ?_⟩
    · rw [drain_incomplete sys d hnext]
      rfl
    · rintro c sent s' hdrain -
      rw [drain_incomplete sys d hnext] at hdrain
      cases hdrain
      exact ⟨hnext, ByteStream.received_incomplete _ hnext, [], rfl⟩
  | wrong bs fault hnext =>
    refine ⟨[], List.nil_prefix, ?_, ?_⟩
    · rw [drain_wrong sys d hnext]
      rfl
    · rintro c sent s' hdrain hended
      rw [drain_wrong sys d hnext] at hdrain
      cases hdrain
      cases hended
  | body bs body rest hnext ih =>
    have hreceived := ByteStream.received_body Request.decode hnext
    rw [drain_body sys d hnext]
    cases hdecode : Request.decode body with
    | error mismatch =>
      refine ⟨[], List.nil_prefix, rfl, ?_⟩
      rintro c sent s' hdrain hended
      cases hdrain
      cases hended
    | ok request =>
      rw [hdecode] at hreceived
      have hone : [request] <+: (ByteStream.received Request.decode bs).1 := by
        rw [hreceived]
        exact ⟨_, rfl⟩
      simp only [Act.run_bind]
      rcases hhandle : d.handle sys request s with ⟨stop | response, s₁⟩
      · refine ⟨[request], hone, ?_, ?_⟩
        · rw [Dispatcher.handleAll_cons, Act.run_bind, hhandle]
        · rintro c sent s' ⟨⟩
      · have hanswered : d.handleAll sys [request] s = (.ok [response], s₁) := by
          simp [Dispatcher.handleAll_cons, Dispatcher.handleAll_nil, hhandle]
        cases hframe : response.frame with
        | error fault =>
          refine ⟨[request], hone, ?_, ?_⟩
          · simp only [hframe, hanswered]
            rfl
          · rintro c sent s' hdrain hended
            simp only [hframe] at hdrain
            cases hdrain
            cases hended
        | ok frame =>
          obtain ⟨performed, hprefix, hstate, hgoesOn⟩ := ih (answers ++ frame) s₁
          refine ⟨request :: performed, ?_, ?_, ?_⟩
          · rw [hreceived]
            exact List.cons_prefix_cons.mpr ⟨rfl, hprefix⟩
          · simp only [hframe, hstate]
            exact (Dispatcher.state_handleAll_append hanswered performed).symm
          · intro c sent s' hdrain hended
            simp only [hframe] at hdrain
            obtain ⟨hwaiting, hall, responses, hperformed⟩ := hgoesOn c sent s' hdrain hended
            refine ⟨hwaiting, by rw [hreceived, hall], response :: responses, ?_⟩
            simp only [Dispatcher.handleAll_cons, Act.run_bind, hhandle, hperformed, Act.run_pure]

end Connection

namespace Service

variable (sys : System σ) (socket : Path) (d : Dispatcher σ)

/-- The removal of the socket is attempted, and a failure of that is reported. -/
theorem closeListener_apply (s : σ) :
    closeListener sys socket s =
      match sys.removeFile socket s with
      | (.ok (), s) => (.ok (), s)
      | (.error fault, s) => (.ok (), (sys.report .warn .helper "failed to remove socket"
          [("error", .shown fault.message)] s).2) := by
  rw [closeListener, Act.run_bind, Act.run_lift]
  rcases sys.removeFile socket s with ⟨fault | _, s'⟩ <;> rfl

/-! ## One event after the other -/

/-- What happens later goes on where the helper got to. -/
theorem run_append (service : Service) (events later : List ServiceEvent) :
    run sys socket d service (events ++ later) =
      run sys socket d service events >>= fun r =>
        (fun r' => (r'.1, r.2 ++ r'.2)) <$> run sys socket d r.1 later := by
  induction events generalizing service with
  | nil => simp [run]
  | cons event events ih => simp [run, ih, List.append_assoc]

/-- Nothing is done any more. -/
theorem run_finished (result : Except ConnectionEnd Unit) (events : List ServiceEvent) :
    run sys socket d (.finished result) events = pure (.finished result, []) := by
  induction events with
  | nil => rfl
  | cons event events ih =>
    have hstep : step sys socket d (.finished result) event = pure (.finished result, []) := by
      cases event <;> rfl
    simp [run, hstep, ih]

/-! ## The first event decides -/

/-- Nothing is done while no engine connects and the helper is not told to shut down. -/
theorem run_quiet {events : List ServiceEvent} (hquiet : ∀ event ∈ events, ¬ event.IsDecisive) :
    run sys socket d .listening events = pure (.listening, []) := by
  induction events with
  | nil => rfl
  | cons event events ih =>
    obtain ⟨hevent, hevents⟩ := List.forall_mem_cons.mp hquiet
    have hstep : step sys socket d .listening event = pure (.listening, []) := by
      cases event with
      | connect | shutdown => exact absurd trivial hevent
      | receive | hangUp => rfl
    simp [run, hstep, ih hevents]

variable {before : List ServiceEvent} (hbefore : ∀ event ∈ before, ¬ event.IsDecisive)

include hbefore in
/-- **The first engine that connects** is served, after the removal of the socket. -/
theorem run_connect (engine : Nat) (after : List ServiceEvent) :
    run sys socket d .listening (before ++ .connect engine :: after) =
      closeListener sys socket >>= fun _ =>
        (liftM (sys.report .info .helper "engine connected") : Act σ Unit) >>= fun _ =>
          run sys socket d (.serving engine .start) after := by
  simp [run_append, run_quiet sys socket d hbefore, run, step]

include hbefore in
/-- **A helper that is told to shut down** before an engine connects removes its socket and is
done. -/
theorem run_listening_shutdown (after : List ServiceEvent) :
    run sys socket d .listening (before ++ .shutdown :: after) =
      closeListener sys socket >>= fun _ => pure (.finished (.ok ()), []) := by
  simp [run_append, run_quiet sys socket d hbefore, run, step, run_finished]

/-- **Told to shut down**, a helper does nothing about what happens afterwards. -/
theorem run_shutdown (service : Service) (before after : List ServiceEvent) :
    run sys socket d service (before ++ .shutdown :: after) =
      run sys socket d service (before ++ [.shutdown]) := by
  have hstep : ∀ service, run sys socket d service (.shutdown :: after) =
      run sys socket d service [.shutdown] := by
    intro service
    cases service <;> simp [run, step, run_finished]
  rw [run_append, run_append]
  simp only [hstep]

/-! ## The engine that is served -/

/-- The engine is served, or the connection has ended: what others do is not heeded. -/
theorem step_not_concerns {engine : Nat} (c : Connection) {event : ServiceEvent}
    (hother : event.concerns engine = false) :
    step sys socket d (settle engine c) event = pure (settle engine c, []) := by
  obtain ⟨waiting, ended?⟩ := c
  cases ended? with
  | some e => cases event <;> rfl
  | none =>
    cases event with
    | connect => rfl
    | shutdown => cases hother
    | receive | hangUp => exact if_neg (of_decide_eq_false hother)

/-- The engine is served, or the connection has ended: the helper can be told to shut down. -/
theorem step_shutdown (engine : Nat) (c : Connection) :
    ∃ result, step sys socket d (settle engine c) .shutdown = pure (.finished result, []) := by
  obtain ⟨waiting, ended?⟩ := c
  cases ended? with
  | some e => exact ⟨.error e, rfl⟩
  | none => exact ⟨.ok (), rfl⟩

/-- Bytes of the engine are taken in, and then comes what is next. -/
theorem run_receive (engine : Nat) (c : Connection) (bs : Bytes) (events : List ServiceEvent) :
    run sys socket d (settle engine c) (.receive engine bs :: events) =
      c.feed sys d bs >>= fun fed =>
        (fun r => (r.1, fed.2 ++ r.2)) <$> run sys socket d (settle engine fed.1) events := by
  simp [run, step_receive]

/-- The engine goes, and nothing is done any more. -/
theorem run_hangUp (engine : Nat) (c : Connection) (events : List ServiceEvent) :
    run sys socket d (settle engine c) (.hangUp engine :: events) =
      (liftM (c.hangUp sys) : Act σ _) >>= fun result => pure (.finished result, []) := by
  simp only [run, step_hangUp, bind_assoc, pure_bind, run_finished, List.append_nil]

/-- **What other clients do** makes no difference to a helper that serves an engine. -/
theorem run_concerns (engine : Nat) (c : Connection) (events : List ServiceEvent) :
    run sys socket d (settle engine c) events =
      run sys socket d (settle engine c) (events.filter (·.concerns engine)) := by
  induction events generalizing c with
  | nil => rfl
  | cons event events ih =>
    cases hconcerns : event.concerns engine with
    | false =>
      rw [List.filter_cons_of_neg (by simp [hconcerns]), run,
        step_not_concerns sys socket d c hconcerns, ← ih]
      simp
    | true =>
      rw [List.filter_cons_of_pos hconcerns]
      cases event with
      | connect => cases hconcerns
      | receive sender bs =>
        obtain rfl := of_decide_eq_true hconcerns
        simp only [run_receive, ih]
      | hangUp sender =>
        obtain rfl := of_decide_eq_true hconcerns
        simp only [run_hangUp]
      | shutdown =>
        exact (run_shutdown sys socket d _ [] events).trans (run_shutdown sys socket d _ [] _).symm

/-- **Which requests are performed**: the first ones that the engine sends, before it goes or the
helper is told to shut down. Nothing else is done, but that the end of the connection may be
reported.

**Proof sketch.** By induction on the events. Draining what waits performs the first requests in it,
and what arrives later goes on where this has stopped, if it has not gone wrong. -/
theorem exists_performed (engine : Nat) {c : Connection} (hc : c.Settled)
    (events : List ServiceEvent) (s : σ) :
    ∃ performed,
      performed <+: (ByteStream.received Request.decode
        (c.waiting ++ ServiceEvent.heard engine events)).1 ∧
      ((run sys socket d (settle engine c) events s).2 = (d.handleAll sys performed s).2 ∨
        (run sys socket d (settle engine c) events s).2 =
          (sys.report .debug .helper "connection closed" []
            (d.handleAll sys performed s).2).2) := by
  induction events generalizing c s with
  | nil => exact ⟨[], List.nil_prefix, .inl rfl⟩
  | cons event events ih =>
    cases hconcerns : event.concerns engine with
    | false =>
      rw [ServiceEvent.heard_cons_of_not_concerns hconcerns, run,
        step_not_concerns sys socket d c hconcerns]
      simpa using ih hc s
    | true =>
      cases event with
      | connect => cases hconcerns
      | shutdown =>
        refine ⟨[], List.nil_prefix, .inl ?_⟩
        obtain ⟨result, hstep⟩ := step_shutdown sys socket d engine c
        simp [run, hstep, run_finished, Dispatcher.handleAll_nil]
      | hangUp sender =>
        obtain rfl := of_decide_eq_true hconcerns
        refine ⟨[], List.nil_prefix, ?_⟩
        rw [run_hangUp, Dispatcher.handleAll_nil]
        obtain ⟨waiting, ended?⟩ := c
        cases ended? with
        | some e => exact .inl rfl
        | none =>
          by_cases hshort : waiting.length < 4
          · right
            simp only [Connection.hangUp, if_pos hshort]
            rfl
          · left
            simp only [Connection.hangUp, if_neg hshort]
            rfl
      | receive sender bs =>
        obtain rfl := of_decide_eq_true hconcerns
        rw [run_receive, ServiceEvent.heard, if_pos rfl, ← List.append_assoc]
        obtain ⟨waiting, ended?⟩ := c
        cases ended? with
        | some e =>
          refine ⟨[], List.nil_prefix, .inl ?_⟩
          have hsettle : settle sender ⟨waiting, some e⟩ = .finished (.error e) := rfl
          simp [Connection.feed, hsettle, run_finished, Dispatcher.handleAll_nil]
        | none =>
          obtain ⟨first, hfirst, hstate, hgoesOn⟩ :=
            Connection.exists_drained sys d [] (waiting ++ bs) s
          have hprefix := ByteStream.received_prefix Request.decode
            (List.prefix_append (waiting ++ bs) (ServiceEvent.heard sender events))
          have hfeed : Connection.feed sys d ⟨waiting, none⟩ bs =
              Connection.drain sys d [] (waiting ++ bs) := rfl
          rw [Act.run_bind, hfeed]
          rcases hdrain : Connection.drain sys d [] (waiting ++ bs) s with ⟨stop | ⟨c', sent⟩, s'⟩
          · rw [hdrain] at hstate
            exact ⟨first, hfirst.trans hprefix, .inl hstate⟩
          simp only [Act.run_map]
          cases hended : c'.ended? with
          | some e =>
            rw [hdrain] at hstate
            refine ⟨first, hfirst.trans hprefix, .inl ?_⟩
            rw [settle, hended, run_finished]
            exact hstate
          | none =>
            obtain ⟨hnext, hreceived, responses, hall⟩ := hgoesOn c' sent s' hdrain hended
            have hsettled : c'.Settled := by
              rw [Connection.Settled, hended]
              exact hnext
            obtain ⟨later, hlater, hrun⟩ := ih hsettled s'
            have hboth := Dispatcher.state_handleAll_append hall later
            refine ⟨first ++ later, ?_, by rwa [hboth]⟩
            rw [ByteStream.received_append, hreceived]
            exact List.prefix_append_right_inj first |>.mpr hlater

end Service
end Container
