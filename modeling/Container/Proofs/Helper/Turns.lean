import Container.Proofs.Helper.Requests

set_option autoImplicit false

/-!
# Callers who take turns

Any number of callers may ask a helper at the same time. Each of them waits for the lock of the
session. The one that holds it looks whether the root is changed, makes its call, says what came of
it, and only then gives the lock back, while others go on asking. So the calls and the responses are
those of one conversation, in the order in which the callers had their turns.

## Main definitions

* `Asking`, `Turn` — a request of a caller, and how far the caller is that holds the lock.
* `Desk` — the session, the caller that holds the lock, and those who wait or have their answers.
* `Desk.Step` — what one caller does next.
* `DeskLaw`, `RequestsLaw` — what is known of a desk, and of all requests to a helper.

## Main results

* `Desk.Sound.step` — what a step preserves.
* `Desk.law_of_reaches` — the law of the desk, at every moment.
* `Helped.requests_law` — what becomes of requests, in order and by turns.
-/

namespace Container

open Relation

variable {σ : Type}

/-- A request of a caller. Callers are told apart by number. -/
structure Asking where
  caller : Nat
  request : Request

/-- How far the caller has come that holds the lock. -/
inductive Progress where
  | begun
  /-- The root was not changed when the caller looked. -/
  | allowed
  | called (answer : Except Failure Int32)

/-- The turn of the caller that holds the lock. -/
structure Turn where
  asking : Asking
  progress : Progress

/-- The session with the calls that were made, those who wait for its lock, the one that holds it,
those who have their answers, in the order in which these were given, and all who have asked. -/
structure Desk (σ : Type) where
  helped : Helped σ
  waiting : List Asking
  turn? : Option Turn
  answered : List (Asking × Response)
  asked : List Asking

namespace Desk

/-- Nobody has asked for anything. -/
def start (world : σ) : Desk σ := ⟨⟨.start world, false⟩, [], none, [], []⟩

/-- What one caller does next. -/
inductive Step (script : Script σ) : Desk σ → Desk σ → Prop
  /-- A caller asks, and waits. -/
  | ask (d : Desk σ) (asking : Asking) :
      Step script d { d with waiting := d.waiting ++ [asking], asked := d.asked ++ [asking] }
  /-- Any of those who wait gets the lock while it is free. -/
  | lock {d : Desk σ} (before : List Asking) {after : List Asking} {asking : Asking}
      (hfree : d.turn? = none) (hwaiting : d.waiting = before ++ asking :: after) :
      Step script d { d with waiting := before ++ after, turn? := some ⟨asking, .begun⟩ }
  /-- The root is changed, and the caller is refused. -/
  | refuse {d : Desk σ} {asking : Asking} (hturn : d.turn? = some ⟨asking, .begun⟩)
      (hentered : d.helped.entered = true) :
      Step script d { d with
        turn? := none
        answered := d.answered ++ [(asking, .error Dispatcher.enteredMessage)] }
  /-- The root is not changed. -/
  | allow {d : Desk σ} {asking : Asking} (hturn : d.turn? = some ⟨asking, .begun⟩)
      (hopen : d.helped.entered = false) :
      Step script d { d with turn? := some ⟨asking, .allowed⟩ }
  /-- The call is made. -/
  | call {d : Desk σ} {asking : Asking} (hturn : d.turn? = some ⟨asking, .allowed⟩) :
      Step script d { d with
        helped := (d.helped.makeCall script asking.request).2
        turn? := some ⟨asking, .called (d.helped.makeCall script asking.request).1⟩ }
  /-- What came of the call is noted and answered, and the lock is given back. -/
  | answer {d : Desk σ} {asking : Asking} {answer : Except Failure Int32}
      (hturn : d.turn? = some ⟨asking, .called answer⟩) :
      Step script d { d with
        helped := (d.helped.conclude answer asking.request).2
        turn? := none
        answered := d.answered ++ [(asking, (d.helped.conclude answer asking.request).1)] }

/-- One state of the desk comes after another, if not at once. -/
def Reaches (script : Script σ) : Desk σ → Desk σ → Prop := ReflTransGen (Step script)

/-- The requests that are answered, in the order of their answers. -/
def served (d : Desk σ) : List Request := d.answered.map fun a => a.1.request

/-- The responses, in the order in which they were given. -/
def given (d : Desk σ) : List Response := d.answered.map Prod.snd

/-- Those who are answered, the one that has the lock, and those who wait. -/
def present (d : Desk σ) : List Asking :=
  d.answered.map Prod.fst ++ (d.turn?.toList.map Turn.asking ++ d.waiting)

end Desk

/-! ## What a step preserves -/

/-- How the session was when the lock was taken that a caller holds, by how far it has come. -/
def Turn.Underway (script : Script σ) (between h : Helped σ) (t : Turn) : Prop :=
  match t.progress with
  | .begun => h = between
  | .allowed => h = between ∧ between.entered = false
  | .called answer =>
    between.entered = false ∧ between.makeCall script t.asking.request = (answer, h)

namespace Desk

variable (script : Script σ) (sys : System σ)

/-- All that was asked is there once. The answers are those to the same requests one after the
other, and what was done since is the work of the caller that holds the lock. -/
structure Sound (start : Helped σ) (d : Desk σ) : Prop where
  present : d.present.Perm d.asked
  session : ∃ between,
    (Helped.dispatcher script.operations).handleAll (Helped.system sys) d.served start =
      (.ok d.given, between) ∧
    match d.turn? with
    | none => d.helped = between
    | some t => t.Underway script between d.helped

variable {script sys} {start : Helped σ} {d d' : Desk σ}

/-- One answer more. -/
theorem handleAll_answered {between : Helped σ} (asking : Asking)
    (h : (Helped.dispatcher script.operations).handleAll (Helped.system sys) d.served start =
      (.ok d.given, between)) :
    (Helped.dispatcher script.operations).handleAll (Helped.system sys)
        (d.served ++ [asking.request]) start =
      (.ok (d.given ++ [(between.respond script asking.request).1]),
        (between.respond script asking.request).2) :=
  Moment.handleAll_last h (Helped.handle_eq script sys asking.request between)

/-- **What a step preserves.** A caller that has the lock finds the session as those before it have
left it, and nobody else touches it until the lock is given back. -/
theorem Sound.step (hsound : Sound script sys start d) (hstep : Step script d d') :
    Sound script sys start d' := by
  obtain ⟨hpresent, between, hserved, hsession⟩ := hsound
  cases hstep with
  | ask asking =>
    refine ⟨?_, between, hserved, hsession⟩
    simp only [Desk.present, ← List.append_assoc] at hpresent ⊢
    exact hpresent.append_right [asking]
  | @lock before after asking hfree hwaiting =>
    rw [hfree] at hsession
    refine ⟨?_, between, hserved, hsession⟩
    have hturn : (asking :: (before ++ after)).Perm (before ++ asking :: after) :=
      List.perm_middle.symm
    simp only [Desk.present, hfree, hwaiting] at hpresent ⊢
    exact (hturn.append_left _).trans hpresent
  | @refuse asking hturn hentered =>
    rw [hturn] at hsession
    obtain rfl : d.helped = between := hsession
    have hrespond := Helped.respond_entered script hentered asking.request
    have hanswered := handleAll_answered asking hserved
    rw [hrespond] at hanswered
    refine ⟨?_, d.helped, ?_, rfl⟩
    · simpa [Desk.present, hturn] using hpresent
    · simpa [Desk.served, Desk.given] using hanswered
  | allow hturn hopen =>
    rw [hturn] at hsession
    obtain rfl : d.helped = between := hsession
    refine ⟨?_, d.helped, hserved, rfl, hopen⟩
    simpa [Desk.present, hturn] using hpresent
  | call hturn =>
    rw [hturn] at hsession
    obtain ⟨rfl, hopen⟩ : d.helped = between ∧ between.entered = false := hsession
    refine ⟨?_, d.helped, hserved, hopen, rfl⟩
    simpa [Desk.present, hturn] using hpresent
  | @answer asking answer hturn =>
    rw [hturn] at hsession
    obtain ⟨hopen, hcall⟩ : between.entered = false ∧
      between.makeCall script asking.request = (answer, d.helped) := hsession
    have hrespond := Helped.respond_open script hopen asking.request
    rw [hcall] at hrespond
    have hanswered := handleAll_answered asking hserved
    rw [hrespond] at hanswered
    refine ⟨?_, _, ?_, rfl⟩
    · simpa [Desk.present, hturn] using hpresent
    · simpa [Desk.served, Desk.given] using hanswered

/-- So it is at every moment. -/
theorem Sound.of_reaches (hsound : Sound script sys start d) (h : Reaches script d d') :
    Sound script sys start d' := by
  induction h with
  | refl => exact hsound
  | tail _ hstep ih => exact ih.step hstep

/-! ## Nobody is left without an answer -/

/-- The caller that holds the lock gives it back, however far it has come. -/
theorem exists_released (script : Script σ) (d : Desk σ) :
    ∃ d', Reaches script d d' ∧ d'.turn? = none ∧ d'.waiting = d.waiting ∧ d'.asked = d.asked := by
  have hallowed : ∀ {d : Desk σ} {asking : Asking}, d.turn? = some ⟨asking, .allowed⟩ →
      ∃ d', Reaches script d d' ∧ d'.turn? = none ∧ d'.waiting = d.waiting ∧
        d'.asked = d.asked := fun hturn =>
    ⟨_, .head (.call hturn) (.single (.answer rfl)), rfl, rfl, rfl⟩
  match hturn : d.turn? with
  | none => exact ⟨d, .refl, hturn, rfl, rfl⟩
  | some ⟨asking, .called answer⟩ => exact ⟨_, .single (.answer hturn), rfl, rfl, rfl⟩
  | some ⟨asking, .allowed⟩ => exact hallowed hturn
  | some ⟨asking, .begun⟩ =>
    cases hentered : d.helped.entered with
    | true => exact ⟨_, .single (.refuse hturn hentered), rfl, rfl, rfl⟩
    | false =>
      obtain ⟨d', hreaches, hd'⟩ := hallowed (d := { d with turn? := some ⟨asking, .allowed⟩ }) rfl
      exact ⟨d', .head (.allow hturn hentered) hreaches, hd'⟩

/-- Whatever has happened so far, all who have asked can have their answers. -/
theorem exists_settled (script : Script σ) (d : Desk σ) :
    ∃ d', Reaches script d d' ∧ d'.turn? = none ∧ d'.waiting = [] ∧ d'.asked = d.asked := by
  induction hwaiting : d.waiting generalizing d with
  | nil =>
    obtain ⟨d', hreaches, hfree, hd', hasked⟩ := exists_released script d
    exact ⟨d', hreaches, hfree, hd'.trans hwaiting, hasked⟩
  | cons asking waiting ih =>
    obtain ⟨d₁, hreleased, hfree, hd₁, hasked₁⟩ := exists_released script d
    obtain ⟨d₂, hreaches, hfree₂, hd₂, hasked₂⟩ :=
      ih { d₁ with waiting := [] ++ waiting, turn? := some ⟨asking, .begun⟩ } rfl
    have hlock : Step script d₁ _ := .lock [] hfree (hd₁.trans hwaiting)
    exact ⟨d₂, hreleased.trans (.head hlock hreaches), hfree₂, hd₂, hasked₂.trans hasked₁⟩

end Desk

/-! ## The law -/

/-- What is known of a desk that was set up in this world. -/
structure DeskLaw (script : Script σ) (sys : System σ) (world : σ) (d : Desk σ) : Prop where
  /-- Everyone who has asked is answered, or has the lock, or waits: once for every request. -/
  present : d.present.Perm d.asked
  /-- The responses are those to the same requests, one after the other. -/
  handled : ∃ between,
    (Helped.dispatcher script.operations).handleAll (Helped.system sys) d.served
      ⟨.start world, false⟩ = (.ok d.given, between)
  /-- The calls that were made are those of one conversation, and so are the responses. At most the
  caller that holds the lock has its call made and no response yet. -/
  conversation : ∃ unanswered responses entered,
    unanswered <+: d.turn?.toList.map (fun t => t.asking.request) ∧
    Conversation (d.served ++ unanswered) d.helped.ledger.entries responses entered ∧
    d.given <+: responses
  /-- All who have asked can have their answers. -/
  settles : ∃ d', Desk.Reaches script d d' ∧ d'.asked = d.asked ∧
    (d'.answered.map Prod.fst).Perm d.asked

/-- What is known of all requests to a helper whose world is this one. -/
structure RequestsLaw (script : Script σ) (sys : System σ) (world : σ) : Prop where
  /-- Requests that are handled in order make a conversation: they are all answered, and the calls
  are those that the first of them ask for, up to a change of the root. -/
  inOrder : ∀ requests, ∃ responses calls world' entered,
    (Helped.dispatcher script.operations).handleAll (Helped.system sys) requests
        ⟨.start world, false⟩ = (.ok responses, ⟨⟨world', calls⟩, entered⟩) ∧
    Conversation requests calls responses entered ∧
    responses.length = requests.length ∧
    ∃ served late answers, Served served calls answers entered ∧ requests = served ++ late ∧
      responses = answers ++ late.map (fun _ => .error Dispatcher.enteredMessage) ∧
      (entered = false → late = [])
  /-- Once the root is changed, every request is refused, and nothing is done any more. -/
  late : ∀ h : Helped σ, h.entered = true → ∀ requests,
    (Helped.dispatcher script.operations).handleAll (Helped.system sys) requests h =
      (.ok (requests.map fun _ => .error Dispatcher.enteredMessage), h)
  /-- The same holds of any number of callers that ask in any order and at any time. -/
  byTurns : ∀ d, Desk.Reaches script (.start world) d → DeskLaw script sys world d

namespace Desk

variable (script : Script σ)

/-- Requests that are handled in order, with the calls that were made for them. -/
theorem exists_conversation (sys : System σ) {world : σ} {requests : List Request}
    {responses : List Response} {h : Helped σ}
    (hhandled : (Helped.dispatcher script.operations).handleAll (Helped.system sys) requests
      ⟨.start world, false⟩ = (.ok responses, h)) :
    ∃ entered, Conversation requests h.ledger.entries responses entered := by
  obtain ⟨_, calls, _, entered, hhandled', hconversation⟩ :=
    Helped.handleAll_conversation script sys (h := ⟨.start world, false⟩) rfl requests
  rw [hhandled] at hhandled'
  cases hhandled'
  exact ⟨entered, hconversation⟩

/-- **The law of the desk**, at every moment. -/
theorem law_of_reaches (sys : System σ) {world : σ} {d : Desk σ}
    (h : Reaches script (.start world) d) : DeskLaw script sys world d := by
  have hstart : Sound script sys ⟨.start world, false⟩ (.start world) := ⟨.refl _, _, rfl, rfl⟩
  have hsound : Sound script sys ⟨.start world, false⟩ d := hstart.of_reaches h
  obtain ⟨between, hserved, hsession⟩ := hsound.session
  obtain ⟨entered, hbetween⟩ := exists_conversation script sys hserved
  refine ⟨hsound.present, ⟨between, hserved⟩, ?_, ?_⟩
  · -- until the call of the one that has the lock is made, the requests that are answered make the
    -- conversation, and afterwards that request is the last of it
    have hidle : d.helped = between → ∃ unanswered responses entered,
        unanswered <+: d.turn?.toList.map (fun t => t.asking.request) ∧
        Conversation (d.served ++ unanswered) d.helped.ledger.entries responses entered ∧
        d.given <+: responses := by
      rintro rfl
      exact ⟨[], _, entered, List.nil_prefix, by rwa [List.append_nil],
        List.prefix_rfl⟩
    match hturn : d.turn? with
    | none =>
      rw [hturn] at hsession hidle
      exact hidle hsession
    | some ⟨asking, .begun⟩ =>
      rw [hturn] at hsession hidle
      exact hidle hsession
    | some ⟨asking, .allowed⟩ =>
      rw [hturn] at hsession hidle
      exact hidle hsession.1
    | some ⟨asking, .called answer⟩ =>
      rw [hturn] at hsession
      obtain ⟨hopen, hcall⟩ := hsession
      have hrespond := Helped.respond_open script hopen asking.request
      rw [hcall] at hrespond
      have hanswered := handleAll_answered asking hserved
      obtain ⟨entered', hconversation⟩ := exists_conversation script sys hanswered
      rw [hrespond, Helped.conclude_ledger] at hconversation
      exact ⟨[asking.request], _, entered', List.prefix_rfl, hconversation, List.prefix_append _ _⟩
  · obtain ⟨d', hreaches, hfree, hwaiting, hasked⟩ := exists_settled script d
    have hpresent := (hsound.of_reaches hreaches).present
    simp only [Desk.present, hfree, hwaiting, Option.toList_none, List.map_nil, List.append_nil,
      hasked] at hpresent
    exact ⟨d', hreaches, hasked, hpresent⟩

end Desk

namespace Helped

/-- **What becomes of requests.** Requests to a helper are all answered, one by one, however its
operations answer and whoever asks. The calls are those that are asked for, up to the first change
of the root.

**Proof sketch.** By induction on the requests: each is an exchange or the change of the root
(`handleAll_conversation`), after which nothing is done and every request is refused
(`handleAll_entered`). A conversation has one response for each request, and its calls are those of
the requests that were served. Callers that ask at the same time have their turns one after the
other, so the session is always as handling the requests of those that are answered leaves it, and
the rest is the work of the one that holds the lock; each turn keeps to that
(`Desk.law_of_reaches`). -/
theorem requests_law (script : Script σ) (sys : System σ) (world : σ) :
    RequestsLaw script sys world where
  inOrder requests := by
    obtain ⟨responses, calls, world', entered, hhandled, hconversation⟩ :=
      handleAll_conversation script sys (h := ⟨.start world, false⟩) rfl requests
    exact ⟨responses, calls, world', entered, hhandled, hconversation,
      hconversation.length_responses, hconversation.exists_served⟩
  late _ hentered requests := handleAll_entered script sys hentered requests
  byTurns _ hreaches := Desk.law_of_reaches script sys hreaches

/-- While one caller changes the root two others ask. The last of them has its turn first, and is
refused. -/
theorem requests_law_overtaken :
    let script : Script Unit := ⟨fun _ => pure (.ok 0), fun _ => pure (.ok 0)⟩
    let first : Asking := ⟨1, .chroot "/"⟩
    let second : Asking := ⟨2, .ping⟩
    let third : Asking := ⟨3, .chroot "/other"⟩
    let d : Desk Unit := ⟨⟨⟨(), [.chroot "/" (.ok 0)]⟩, true⟩, [second], none,
      [(first, .chroot 0), (third, .error Dispatcher.enteredMessage)], [first, second, third]⟩
    Desk.Reaches script (.start ()) d ∧ DeskLaw script System.willing () d := by
  intro script first second third d
  have hreaches : Desk.Reaches script (.start ()) d :=
    .head (.ask _ first) <| .head (.lock [] rfl rfl) <| .head (.allow rfl rfl) <|
      .head (.ask _ second) <| .head (.call rfl) <| .head (.ask _ third) <| .head (.answer rfl) <|
      .head (.lock [second] rfl rfl) <| .single (.refuse rfl rfl)
  exact ⟨hreaches, (requests_law script System.willing ()).byTurns d hreaches⟩

end Helped
end Container
