import Container.Proofs.Helper.ConnectionLaw

set_option autoImplicit false

/-!
# What becomes of requests

A helper answers every request. Until the root is changed it makes the call that a request asks
for, and says how that went; a call that fails leaves everything as it was. The first change of the
root that comes about is the last call of all, and whatever is asked after that is refused.

## Main definitions

* `Helped.makeCall`, `Helped.conclude`, `Helped.respond` — the call for a request, what is made of
  its answer, and both together.
* `Exchange` — a request, its call and its response, while the root is not changed.
* `Conversation` — requests in order, with all calls and all responses.
* `Served` — requests for which calls are made, with those calls.

## Main results

* `Helped.handle_eq` — handling a request is responding to it.
* `Helped.handleAll_conversation` — requests that are handled in order make a conversation.
* `Conversation.exists_served` — for which requests calls are made, and which are refused.
-/

namespace Container

variable {σ : Type}

/-! ## One request -/

namespace Helped

/-- The response that says how a call went. -/
def reported (done : Int32 → Response) : Except Failure Int32 → Response
  | .ok code => done code
  | .error f => .error f.message

/-- Makes a call on the world, and writes it down. -/
def noteCall (h : Helped σ) (call : StateM σ (Except Failure Int32))
    (entry : Except Stop Int32 → Ledger.Entry) : Except Failure Int32 × Helped σ :=
  let made := call h.ledger.world
  (made.1, { h with
    ledger := ⟨made.2, h.ledger.entries ++ [entry (made.1.mapError .failed)]⟩ })

/-- Makes the call that a request asks for. The question whether the helper is there asks for
none. -/
def makeCall (script : Script σ) (h : Helped σ) : Request → Except Failure Int32 × Helped σ
  | .mount mount => h.noteCall (script.mount mount) (.mount mount)
  | .chroot path => h.noteCall (script.chroot path) (.chroot path)
  | .ping => (.ok 0, h)

/-- What is made of the answer to the call for a request. -/
def conclude (h : Helped σ) (answer : Except Failure Int32) : Request → Response × Helped σ
  | .mount _ => (reported .mount answer, h)
  | .chroot _ => (reported .chroot answer, { h with entered := answer.isOk })
  | .ping => (.pong, h)

/-- The response to a request, and what there is after it. -/
def respond (script : Script σ) (h : Helped σ) (request : Request) : Response × Helped σ :=
  if h.entered then (.error Dispatcher.enteredMessage, h)
  else
    let called := h.makeCall script request
    called.2.conclude called.1 request

variable (script : Script σ) (sys : System σ) {h : Helped σ}

/-- A request that comes too late is refused. -/
theorem respond_entered (hentered : h.entered = true) (request : Request) :
    h.respond script request = (.error Dispatcher.enteredMessage, h) := by
  rw [respond, if_pos hentered]

theorem respond_open (hopen : h.entered = false) (request : Request) :
    h.respond script request =
      (h.makeCall script request).2.conclude (h.makeCall script request).1 request := by
  rw [respond, if_neg (by simp [hopen])]

/-- What is made of an answer leaves the calls as they are. -/
theorem conclude_ledger (h : Helped σ) (answer : Except Failure Int32) (request : Request) :
    (h.conclude answer request).2.ledger = h.ledger := by
  cases request <;> rfl

/-- **Handling a request is responding to it**, and it comes to an end whatever is answered to its
call. -/
theorem handle_eq (request : Request) (h : Helped σ) :
    (dispatcher script.operations).handle (system sys) request h =
      (.ok (h.respond script request).1, (h.respond script request).2) := by
  have hsilent : (system sys).IsSilent := Ledger.system_isSilent ledgerPlace sys
  have hread : (dispatcher script.operations).entered.read h = (h.entered, h) := rfl
  simp only [Dispatcher.handle, Act.run_bind, Act.run_lift, hread]
  cases hentered : h.entered with
  | true =>
    rw [respond_entered script hentered]
    simp only [if_true, hsilent.report]
    rfl
  | false =>
    rw [respond_open script hentered]
    simp only [Bool.false_eq_true, if_false]
    obtain ⟨⟨world, entries⟩, entered⟩ := h
    obtain rfl : entered = false := hentered
    cases request with
    | mount mount =>
      have hmount := Act.run_call (script.mount mount) id world
      simp only [Dispatcher.perform, hsilent.report, Act.run_bind, Act.run_lift, Act.pure_apply,
        Act.run_guarded, dispatcher, Ledger.operations, Slot.run, Ledger.note, ledgerPlace,
        ExceptT.mk, ExceptT.run, Script.operations, hmount, makeCall, noteCall]
      rcases script.mount mount world with ⟨f | code, world'⟩
      · simp [Dispatcher.failed, hsilent.report, conclude, reported]
      · rfl
    | chroot path =>
      have hchroot := Act.run_call (script.chroot path) id world
      simp only [Dispatcher.perform, hsilent.report, Act.run_bind, Act.run_lift, Act.pure_apply,
        Act.run_guarded, dispatcher, Ledger.operations, Slot.run, Ledger.note, ledgerPlace,
        ExceptT.mk, ExceptT.run, Script.operations, hchroot, makeCall, noteCall]
      rcases script.chroot path world with ⟨f | code, world'⟩
      · simp [Dispatcher.failed, hsilent.report, conclude, reported, Except.isOk, Except.toBool]
      · rfl
    | ping => rfl

end Helped

/-! ## Conversations -/

/-- A request, the call that is made for it, if it asks for one, and its response, while the root is
not changed. -/
inductive Exchange : Request → List Ledger.Entry → Response → Prop
  | mounted (mount : MountRequest) (code : Int32) :
      Exchange (.mount mount) [.mount mount (.ok code)] (.mount code)
  | notMounted (mount : MountRequest) (f : Failure) :
      Exchange (.mount mount) [.mount mount (.error (.failed f))] (.error f.message)
  | notEntered (path : Path) (f : Failure) :
      Exchange (.chroot path) [.chroot path (.error (.failed f))] (.error f.message)
  | pong : Exchange .ping [] .pong

/-- Requests in order, all calls that were made, all responses, and whether the root was
changed. -/
inductive Conversation : List Request → List Ledger.Entry → List Response → Bool → Prop
  | nothing : Conversation [] [] [] false
  | exchanged {request : Request} {calls : List Ledger.Entry} {response : Response}
      {requests : List Request} {later : List Ledger.Entry} {responses : List Response}
      {entered : Bool} (h : Exchange request calls response)
      (hlater : Conversation requests later responses entered) :
      Conversation (request :: requests) (calls ++ later) (response :: responses) entered
  /-- The root is changed, and whatever is asked then is refused. -/
  | entered (path : Path) (code : Int32) (late : List Request) :
      Conversation (.chroot path :: late) [.chroot path (.ok code)]
        (.chroot code :: late.map fun _ => .error Dispatcher.enteredMessage) true

/-- The request that a call is made for. -/
def Ledger.Entry.asked? : Ledger.Entry → Option Request
  | .mount request _ => some (.mount request)
  | .chroot path _ => some (.chroot path)
  | _ => none

/-- The call is a change of the root that came about. -/
def Ledger.Entry.Enters : Ledger.Entry → Prop
  | .chroot _ (.ok _) => True
  | _ => False

/-- The request asks for a call. -/
def Request.isCall : Request → Bool
  | .mount _ | .chroot _ => true
  | .ping => false

/-- The requests in `served` are those for which the calls are made and the answers are given. If
the root is changed, that is done by the last call, for the last of them. -/
structure Served (served : List Request) (calls : List Ledger.Entry) (answers : List Response)
    (entered : Bool) : Prop where
  answered : answers.length = served.length
  /-- The calls are those that are asked for, in order. -/
  called : calls.map Ledger.Entry.asked? = (served.filter Request.isCall).map some
  stillOpen : entered = false → ∀ call ∈ calls, ¬ call.Enters
  changed : entered = true → ∃ before earlier given path code,
    served = before ++ [.chroot path] ∧ calls = earlier ++ [.chroot path (.ok code)] ∧
      answers = given ++ [.chroot code] ∧ ∀ call ∈ earlier, ¬ call.Enters

namespace Exchange

variable {request : Request} {calls : List Ledger.Entry} {response : Response}

/-- The call of an exchange is what was asked for. -/
theorem map_asked? (h : Exchange request calls response) :
    calls.map Ledger.Entry.asked? = ([request].filter Request.isCall).map some := by
  cases h <;> rfl

/-- An exchange does not change the root. -/
theorem not_enters (h : Exchange request calls response) : ∀ call ∈ calls, ¬ call.Enters := by
  cases h <;> simp [Ledger.Entry.Enters]

end Exchange

/-- One exchange more before those that are served. -/
theorem Served.cons {request : Request} {calls later : List Ledger.Entry} {response : Response}
    {served : List Request} {answers : List Response} {entered : Bool}
    (h : Exchange request calls response) (hlater : Served served later answers entered) :
    Served (request :: served) (calls ++ later) (response :: answers) entered where
  answered := by rw [List.length_cons, List.length_cons, hlater.answered]
  called := by
    rw [List.map_append, h.map_asked?, hlater.called, ← List.map_append, ← List.filter_append]
    rfl
  stillOpen hopen call hcall := by
    rcases List.mem_append.mp hcall with hcall | hcall
    · exact h.not_enters call hcall
    · exact hlater.stillOpen hopen call hcall
  changed hentered := by
    obtain ⟨before, earlier, given, path, code, rfl, rfl, rfl, hearlier⟩ := hlater.changed hentered
    refine ⟨request :: before, calls ++ earlier, response :: given, path, code, rfl,
      (List.append_assoc _ _ _).symm, rfl, fun call hcall => ?_⟩
    rcases List.mem_append.mp hcall with hcall | hcall
    · exact h.not_enters call hcall
    · exact hearlier call hcall

/-- **Which requests are served.** In a conversation the calls that are made are those that the
first requests ask for, up to the change of the root. All that is asked later is refused. -/
theorem Conversation.exists_served {requests : List Request} {calls : List Ledger.Entry}
    {responses : List Response} {entered : Bool}
    (h : Conversation requests calls responses entered) :
    ∃ served late answers, Served served calls answers entered ∧ requests = served ++ late ∧
      responses = answers ++ late.map (fun _ => .error Dispatcher.enteredMessage) ∧
      (entered = false → late = []) := by
  induction h with
  | nothing =>
    exact ⟨[], [], [], ⟨rfl, rfl, by simp, by simp⟩, rfl, rfl, fun _ => rfl⟩
  | exchanged hexchange _ ih =>
    obtain ⟨served, late, answers, hserved, rfl, rfl, hlate⟩ := ih
    exact ⟨_ :: served, late, _ :: answers, hserved.cons hexchange, rfl, rfl, hlate⟩
  | entered path code late =>
    refine ⟨[.chroot path], late, [.chroot code], ⟨rfl, rfl, by simp, fun _ => ?_⟩, rfl, rfl,
      by simp⟩
    exact ⟨[], [], [], path, code, rfl, rfl, rfl, by simp⟩

/-- Every request has one response. -/
theorem Conversation.length_responses {requests : List Request} {calls : List Ledger.Entry}
    {responses : List Response} {entered : Bool}
    (h : Conversation requests calls responses entered) :
    responses.length = requests.length := by
  obtain ⟨served, late, answers, hserved, rfl, rfl, -⟩ := h.exists_served
  simp [hserved.answered]

namespace Helped

variable (script : Script σ) (sys : System σ)

/-- What a request comes to while the root is not changed: an exchange, or the change of the
root. -/
theorem respond_cases {h : Helped σ} (hopen : h.entered = false) (request : Request) :
    (∃ calls response world, Exchange request calls response ∧
      h.respond script request =
        (response, ⟨⟨world, h.ledger.entries ++ calls⟩, false⟩)) ∨
    ∃ path code world, request = .chroot path ∧
      h.respond script request =
        (.chroot code, ⟨⟨world, h.ledger.entries ++ [.chroot path (.ok code)]⟩, true⟩) := by
  rw [respond_open script hopen]
  obtain ⟨⟨world, entries⟩, entered⟩ := h
  obtain rfl : entered = false := hopen
  cases request with
  | mount mount =>
    simp only [makeCall, noteCall]
    rcases script.mount mount world with ⟨f | code, world'⟩
    · exact .inl ⟨_, _, world', .notMounted mount f, rfl⟩
    · exact .inl ⟨_, _, world', .mounted mount code, rfl⟩
  | chroot path =>
    simp only [makeCall, noteCall]
    rcases script.chroot path world with ⟨f | code, world'⟩
    · exact .inl ⟨_, _, world', .notEntered path f, rfl⟩
    · exact .inr ⟨path, code, world', rfl, rfl⟩
  | ping => exact .inl ⟨[], .pong, world, .pong, by simp [makeCall, conclude]⟩

/-- Once the root is changed every request is refused, and nothing is done. -/
theorem handleAll_entered {h : Helped σ} (hentered : h.entered = true) (requests : List Request) :
    (dispatcher script.operations).handleAll (system sys) requests h =
      (.ok (requests.map fun _ => .error Dispatcher.enteredMessage), h) := by
  induction requests with
  | nil => rfl
  | cons request requests ih =>
    rw [Dispatcher.handleAll_cons, Act.run_bind, handle_eq, respond_entered script hentered]
    simp only [Act.run_bind, ih, Act.run_pure, List.map_cons]

/-- **Requests that are handled in order make a conversation.** -/
theorem handleAll_conversation {h : Helped σ} (hopen : h.entered = false)
    (requests : List Request) :
    ∃ responses calls world entered,
      (dispatcher script.operations).handleAll (system sys) requests h =
        (.ok responses, ⟨⟨world, h.ledger.entries ++ calls⟩, entered⟩) ∧
      Conversation requests calls responses entered := by
  induction requests generalizing h with
  | nil =>
    obtain ⟨⟨world, entries⟩, entered⟩ := h
    obtain rfl : entered = false := hopen
    exact ⟨[], [], world, false, by simp [Dispatcher.handleAll_nil], .nothing⟩
  | cons request requests ih =>
    rw [Dispatcher.handleAll_cons, Act.run_bind, handle_eq]
    rcases respond_cases script hopen request with
      ⟨calls, response, world, hexchange, hrespond⟩ | ⟨path, code, world, rfl, hrespond⟩
    · obtain ⟨responses, later, world', entered, hlater, hconversation⟩ :=
        ih (h := ⟨⟨world, h.ledger.entries ++ calls⟩, false⟩) rfl
      refine ⟨response :: responses, calls ++ later, world', entered, ?_,
        .exchanged hexchange hconversation⟩
      simp only [hrespond, Act.run_bind, hlater, Act.run_pure, List.append_assoc]
    · refine ⟨_, _, world, true, ?_, .entered path code requests⟩
      rw [hrespond]
      simp only [Act.run_bind, handleAll_entered script sys (h := ⟨⟨world, _⟩, true⟩) rfl,
        Act.run_pure]

end Helped
end Container
