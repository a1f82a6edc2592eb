import Container.Proofs.Command.Outcome

set_option autoImplicit false

/-!
# From where a cleanup looks for paths

The task that could not create a container cleans up after it in the same process, and from wherever
creating it left that process: a cleanup never moves. That is where the task began unless the
creation failed on entering the root of the container. After that the process is in the session
directory, or already inside the container, and the image, the control group and the record are
looked for from there.

## Main definitions

* `Chronicle.Deed.IsMove` — the deeds that may change from where paths lead.
* `System.Exchanges` — one request to a helper with its response.
* `Runner.Moves` — what is known of a system in which only moves change from where paths lead.
* `Runner.Parting` — where a failed creation leaves the process.

## Main results

* `Runner.create_parting` — every failed creation leaves the process in one of these places.
* `Runner.abandoned_vantage` — the cleanup after it looks for paths from there.
-/

namespace Container

variable {σ ν : Type}

/-- Whether a failure is one of changing the root, or of the conversation about it. -/
def Failure.isOfRoot : Failure → Bool
  | .chroot _ | .channel _ | .protocol _ => true
  | _ => false

/-- Whether a fault is one that is found once the root is changed. -/
def TaskFault.isLate : TaskFault → Bool
  | .failure none (.chdir path _) => path = "/"
  | .failure none (.channel _) | .notEntered _ | .rootUnknown _ => true
  | _ => false

/-! ## Moves -/

/-- Whether a deed may change from where the paths of a process lead: it changes the directory or
the root, asks a helper to change it, or makes a different program of the process. -/
def Chronicle.Deed.IsMove : Chronicle.Deed → Prop
  | .changeDir _ | .changeRoot _ | .execute _ => True
  | .send content => AsksForRoot content
  | _ => False

theorem Chronicle.Deed.IsPreparing.not_isMove {d : Chronicle.Deed} (h : d.IsPreparing) :
    ¬ d.IsMove := by
  cases d <;> first | exact h.elim | exact h | exact not_false

theorem Chronicle.Deed.IsCleaning.not_isMove {d : Chronicle.Deed} (h : d.IsCleaning) :
    ¬ d.IsMove := by
  cases d <;> first | exact h.elim | exact not_false

/-- A request that went out to a helper from one world, and its response, which is there in
another. -/
inductive System.Exchanges (sys : System σ) (request : Request) : Response → σ → σ → Prop
  | intro {response : Response} {content header body : Bytes} {length : Nat} {w sent begun w' : σ}
      (hframe : request.frame = .ok content) (hsent : sys.channel.send content w = (.ok (), sent))
      (hheader : sys.channel.receive 4 sent = (.ok header, begun))
      (hlength : Frame.bodyLength header = .ok length)
      (hbody : sys.channel.receive length begun = (.ok body, w'))
      (hdecode : Response.decode body = .ok response) : Exchanges sys request response w w'

/-- A computation whose failures are blamed on the conversation. -/
theorem Chronicle.Ends.transported {α : Type} {P : σ → Prop} {act : Act (Chronicle σ) α}
    {Q : Except Failure α → σ → Prop} (h : Chronicle.Ends P act Q) :
    Chronicle.Ends P (Remote.transported act) fun
      | .ok a, w => Q (.ok a) w
      | .error f, w => ∃ f', f = Remote.onTheWay f' ∧ Q (.error f') w := by
  intro c hc
  obtain ⟨result, hrun, hresult⟩ := h c hc
  unfold Remote.transported
  rw [Act.run_bind, Act.run_guarded]
  rcases hact : act c with ⟨_, c'⟩
  rw [hact] at hrun hresult
  obtain rfl := hrun
  cases result with
  | error f => exact ⟨.error (Remote.onTheWay f), rfl, f, rfl, hresult⟩
  | ok a => exact ⟨.ok a, rfl, hresult⟩

namespace Runner

/-- What is known of a system in which only moves change from where paths lead. `vantage` says of
a world from where that is, which is the root and the directory of the process, and `quiet` that no
helper is changing the root. -/
structure Moves (sys : System σ) (places : Places σ) (vantage : σ → ν) (quiet : σ → Prop) :
    Prop where
  /-- Nothing but a move changes the vantage, or sets a helper to work on the root. -/
  steady : ∀ (α : Type) (d : Chronicle.Deed) (call : StateM σ α), sys.Makes α d call → ¬ d.IsMove →
    ∀ w, quiet w → vantage (call w).2 = vantage w ∧ quiet (call w).2
  /-- A directory that is refused is not entered. -/
  changeDir : ∀ path w, quiet w → quiet (sys.changeDir path w).2 ∧
    ∀ errno, (sys.changeDir path w).1 = .error errno →
      vantage (sys.changeDir path w).2 = vantage w
  /-- A root that is refused is not entered. -/
  changeRoot : ∀ path w, quiet w → quiet (sys.changeRoot path w).2 ∧
    ∀ errno, (sys.changeRoot path w).1 = .error errno →
      vantage (sys.changeRoot path w).2 = vantage w
  /-- A message that does not go out sets nobody to work. -/
  unsent : ∀ content w fault, quiet w → (sys.channel.send content w).1 = .error fault →
    vantage (sys.channel.send content w).2 = vantage w ∧ quiet (sys.channel.send content w).2
  /-- When its response begins, or can no longer come, a helper is done. -/
  received : ∀ count w, quiet (sys.channel.receive count w).2
  /-- A helper that says that it has not changed the root has not. -/
  denied : ∀ path text w w', quiet w → sys.Exchanges (.chroot path) (.error text) w w' →
    vantage w' = vantage w
  closed : ∀ b w, vantage (places.closed.set b w) = vantage w ∧
    (quiet w → quiet (places.closed.set b w))
  isOpen : ∀ b w, vantage (places.isOpen.set b w) = vantage w ∧
    (quiet w → quiet (places.isOpen.set b w))

section Parting

variable (sys : System σ) (vantage : σ → ν)

/-- A directory is entered from one vantage, which leads to another. -/
def Goes (path : Path) (u u' : ν) : Prop :=
  ∃ w, vantage w = u ∧ (sys.changeDir path w).1 = .ok () ∧ vantage (sys.changeDir path w).2 = u'

/-- A root is entered from one vantage, which leads to another: this process changes the root, or a
helper does. -/
inductive EntersRoot (path : Path) : ν → ν → Prop
  | call {w : σ} (hroot : (sys.changeRoot path w).1 = .ok ()) :
      EntersRoot path (vantage w) (vantage (sys.changeRoot path w).2)
  | message {w w' : σ} {code : Int32}
      (hexchange : sys.Exchanges (.chroot path) (.chroot code) w w') :
      EntersRoot path (vantage w) (vantage w')

/-- A helper was asked for a root from a vantage. -/
def AsksRoot (path : Path) (u : ν) : Prop :=
  ∃ w content, vantage w = u ∧ (Request.chroot path).frame = .ok content ∧
    (sys.channel.send content w).1 = .ok ()

/-- Inside the container: the session directory was entered, then the root, and then the directory
above all others. -/
def Enters (session : Path) (v v' : ν) : Prop :=
  ∃ u u', Goes sys vantage session v u ∧ EntersRoot sys vantage session u u' ∧
    Goes sys vantage "/" u' v'

/-- **Where a failed creation leaves the process**, by its vantage before and after. -/
inductive Parting (session : Path) (v : ν) : TaskFault → ν → Prop
  /-- Where it was. -/
  | outside {fault : TaskFault} : Parting session v fault v
  /-- In the session directory: the root was not changed. -/
  | inSession {f : Failure} {u : ν} (hdir : Goes sys vantage session v u) (hf : f.isOfRoot) :
      Parting session v (.failure none f) u
  /-- In the session directory or inside: a helper was asked for the root and did not say what
  became of it. -/
  | unanswered {f : Failure} {u u' : ν} (hdir : Goes sys vantage session v u)
      (hasked : AsksRoot sys vantage session u) (hf : f.isOfRoot) :
      Parting session v (.failure none f) u'
  /-- Inside the container. -/
  | inside {fault : TaskFault} {u u' v' : ν} (hdir : Goes sys vantage session v u)
      (hroot : EntersRoot sys vantage session u u') (hend : v' = u' ∨ Goes sys vantage "/" u' v')
      (hlate : fault.isLate) : Parting session v fault v'

end Parting

open Chronicle

section Creating

variable {sys : System σ} {places : Places σ} {vantage : σ → ν} {quiet : σ → Prop}

/-- Nothing moves. -/
def still (vantage : σ → ν) (quiet : σ → Prop) (v : ν) : Contract σ :=
  ⟨fun w => vantage w = v ∧ quiet w, fun d => ¬ d.IsMove, fun _ => True⟩

/-- A helper that answers was asked. -/
theorem asksRoot_of_exchanges {path : Path} {response : Response} {w w' : σ}
    (h : sys.Exchanges (.chroot path) response w w') : AsksRoot sys vantage path (vantage w) := by
  obtain ⟨hframe, hsent, -, -, -, -⟩ := h
  exact ⟨w, _, rfl, hframe, by rw [hsent]⟩

namespace Moves

variable (h : Moves sys places vantage quiet) {v u : ν}
include h

theorem admits (v : ν) : (still vantage quiet v).Admits sys := by
  rintro α d call hmakes hdeed w ⟨hw, hquiet⟩
  obtain ⟨hsame, hquiet'⟩ := h.steady α d call hmakes hdeed w hquiet
  exact ⟨hsame.trans hw, hquiet'⟩

theorem admitsPlaces (v : ν) : (still vantage quiet v).AdmitsPlaces places where
  closed b w := fun ⟨hw, hquiet⟩ => ⟨(h.closed b w).1.trans hw, (h.closed b w).2 hquiet⟩
  isOpen b w := fun ⟨hw, hquiet⟩ => ⟨(h.isOpen b w).1.trans hw, (h.isOpen b w).2 hquiet⟩

/-- Waiting for a response comes to the response, or to a failure of the conversation. -/
theorem receive_ends (w₀ : σ) :
    Ends (· = w₀) ((Chronicle.system sys).channel.receiveMessage Response.decode) fun
      | .ok response, w => quiet w ∧ ∃ header begun length body,
          sys.channel.receive 4 w₀ = (.ok header, begun) ∧ Frame.bodyLength header = .ok length ∧
          sys.channel.receive length begun = (.ok body, w) ∧ Response.decode body = .ok response
      | .error f, w => quiet w ∧ (Remote.onTheWay f).isOfRoot := by
  have hquiet : ∀ {count : Nat} {w w' : σ} {answer : Except IoFault Bytes},
      sys.channel.receive count w = (answer, w') → quiet w' := by
    intro count w w' answer hanswer
    have hdone := h.received count w
    rwa [hanswer] at hdone
  unfold Channel.receiveMessage
  refine (Ends.call (.receive 4) (sys.channel.receive 4) .io w₀).bind ?_ fun header => ?_
  · rintro f w ⟨fault, hheader, rfl⟩
    exact ⟨hquiet hheader, rfl⟩
  refine .of_world fun begun hheader => ?_
  cases hlength : Frame.bodyLength header with
  | error fault =>
    refine .fail _ ?_
    rintro w rfl
    exact ⟨hquiet hheader, rfl⟩
  | ok length =>
    refine (Ends.call (.receive length) (sys.channel.receive length) .io begun).bind ?_
      fun body => ?_
    · rintro f w ⟨fault, hbody, rfl⟩
      exact ⟨hquiet hbody, rfl⟩
    cases hdecode : Response.decode body with
    | error mismatch => exact .fail _ fun w hbody => ⟨hquiet hbody, rfl⟩
    | ok response =>
      exact .pure _ fun w hbody =>
        ⟨hquiet hbody, header, begun, length, body, hheader, hlength, hbody, hdecode⟩

/-- A helper that is asked for a root answers, or the process stays where it is, or nobody knows. -/
theorem call_ends (path : Path) (slot : Slot σ Bool) {w₀ : σ} (hw₀ : quiet w₀) :
    Ends (· = w₀) (Remote.call ⟨(Chronicle.system sys).channel, place slot⟩ (.chroot path)) fun
      | .ok response, w => quiet w ∧ sys.Exchanges (.chroot path) response w₀ w
      | .error f, w => quiet w ∧ f.isOfRoot ∧
          (vantage w = vantage w₀ ∨ AsksRoot sys vantage path (vantage w₀)) := by
  unfold Remote.call
  refine (Ends.read slot w₀).bind (fun _ _ => False.elim) fun isOpen => ?_
  cases isOpen with
  | false =>
    refine .fail _ ?_
    rintro w rfl
    exact ⟨hw₀, rfl, .inl rfl⟩
  | true =>
    cases hframe : (Request.chroot path).frame with
    | error fault =>
      have hrefused : Ends (· = w₀) ((Chronicle.system sys).channel.sendFrame (.error fault))
          fun result w => w = w₀ ∧ result = .error (.protocol fault) :=
        .fail _ fun w hw => ⟨hw, rfl⟩
      refine hrefused.transported.bind ?_ fun _ => ?_
      · rintro f w ⟨f', rfl, rfl, hf⟩
        cases hf
        exact ⟨hw₀, rfl, .inl rfl⟩
      · rintro c ⟨-, hok⟩
        cases hok
    | ok content =>
      refine (Ends.call (.send content) (sys.channel.send content) .io w₀).transported.bind ?_
        fun _ => ?_
      · rintro f w ⟨f', rfl, fault, hsent, rfl⟩
        obtain ⟨hsame, hquiet⟩ := h.unsent content w₀ fault hw₀ (by rw [hsent])
        rw [hsent] at hsame hquiet
        exact ⟨hquiet, rfl, .inl hsame⟩
      refine .of_world fun sent hsent => (h.receive_ends sent).transported.mono ?_
      rintro (f | response) w
      · rintro ⟨f', rfl, hquiet, hf⟩
        exact ⟨hquiet, hf, .inr ⟨w₀, content, rfl, hframe, by rw [hsent]⟩⟩
      · rintro ⟨hquiet, header, begun, length, body, hheader, hlength, hbody, hdecode⟩
        exact ⟨hquiet, .intro hframe hsent hheader hlength hbody hdecode⟩

/-- Changing the root comes to one of these: it is changed, or the process stays where it is, or a
helper was asked and nobody knows. -/
theorem chroot_ends (privileges : Privileges) (path : Path) (u : ν) :
    Ends (fun w => vantage w = u ∧ quiet w)
      ((operations (Chronicle.system sys) (Chronicle.places places) privileges).chroot path)
      fun
        | .ok _, w => EntersRoot sys vantage path u (vantage w) ∧ quiet w
        | .error f, w => quiet w ∧ f.isOfRoot ∧
          (vantage w = u ∨ AsksRoot sys vantage path u) := by
  refine .of_world fun w₀ ⟨hu, hw₀⟩ => ?_
  subst hu
  cases privileges with
  | inProcess =>
    have hensure : Ends (· = w₀) (Privileged.ensureOpen (place places.closed)) fun
        | .ok _, w => w = w₀
        | .error f, w => w = w₀ ∧ f = .channel .operationsClosed := by
      unfold Privileged.ensureOpen
      refine (Ends.read places.closed w₀).bind (fun _ _ => False.elim) fun closed => ?_
      cases closed with
      | true => exact .fail _ fun w hw => ⟨hw, rfl⟩
      | false => exact .pure _ fun w hw => hw
    refine hensure.bind ?_ fun _ => ?_
    · rintro f w ⟨rfl, rfl⟩
      exact ⟨hw₀, rfl, .inl rfl⟩
    obtain ⟨hquiet, hrefused⟩ := h.changeRoot path w₀ hw₀
    refine (Ends.call (.changeRoot path) (sys.changeRoot path) _ w₀).bind ?_ fun _ => ?_
    · rintro f w ⟨errno, hanswer, rfl⟩
      rw [hanswer] at hquiet hrefused
      exact ⟨hquiet, rfl, .inl (hrefused errno rfl)⟩
    · refine .pure _ fun w hanswer => ?_
      have hroot : EntersRoot sys vantage path (vantage w₀) (vantage (sys.changeRoot path w₀).2) :=
        .call (by rw [hanswer])
      rw [hanswer] at hquiet hroot
      exact ⟨hroot, hquiet⟩
  | helper socket? =>
    refine (h.call_ends path places.isOpen hw₀).bind (fun _ _ hfailed => hfailed) fun response => ?_
    cases response with
    | chroot code => exact .pure _ fun w ⟨hquiet, hexchange⟩ => ⟨.message hexchange, hquiet⟩
    | error text =>
      exact .fail _ fun w ⟨hquiet, hexchange⟩ =>
        ⟨hquiet, rfl, .inl (h.denied path text w₀ w hw₀ hexchange)⟩
    | _ =>
      exact .fail _ fun w ⟨hquiet, hexchange⟩ =>
        ⟨hquiet, rfl, .inr (asksRoot_of_exchanges hexchange)⟩

/-- A directory is entered, or the process stays where it is. -/
theorem changeDir_ends (path : Path) (u : ν) :
    Ends (fun w => vantage w = u ∧ quiet w) (Engine.changeDir (Chronicle.system sys) path)
      fun
        | .ok _, w => Goes sys vantage path u (vantage w) ∧ quiet w
        | .error f, w => (vantage w = u ∧ quiet w) ∧ ∃ errno, f = .chdir path errno := by
  rintro c ⟨hu, hquiet⟩
  obtain ⟨hquiet', hrefused⟩ := h.changeDir path c.world hquiet
  unfold Engine.changeDir
  rw [Act.run_call]
  have hrun : (Chronicle.system sys).changeDir path c = ((sys.changeDir path c.world).1,
      ⟨(sys.changeDir path c.world).2, c.entries ++ [⟨.changeDir path, c.world⟩]⟩) := rfl
  rw [hrun]
  rcases hanswer : (sys.changeDir path c.world).1 with errno | ⟨⟩
  · exact ⟨.error (.chdir path errno), rfl, ⟨(hrefused errno hanswer).trans hu, hquiet'⟩, errno,
      rfl⟩
  · exact ⟨.ok (), rfl, ⟨c.world, hu, hanswer, rfl⟩, hquiet'⟩

/-- A report is nothing that moves. -/
theorem report_ends (level : Level) (source : LogSource) (message : String)
    (values : List (String × LogValue)) (u : ν) :
    Ends (fun w => vantage w = u ∧ quiet w)
      ((Chronicle.system sys).report level source message values : Act (Chronicle σ) Unit)
      fun
        | .ok _, w => vantage w = u ∧ quiet w
        | .error _, _ => False :=
  fun c hc => ⟨.ok (), rfl, (adds_report (h.admits u) not_false c hc).1⟩

/-- Giving the capability back is nothing that moves, and fails as the connection does. -/
theorem close_ends (privileges : Privileges) (u : ν) :
    Ends (fun w => vantage w = u ∧ quiet w)
      (operations (Chronicle.system sys) (Chronicle.places places) privileges).close
      fun result w => (vantage w = u ∧ quiet w) ∧
        ∀ f, result = .error f → ∃ fault, f = .channel fault := by
  let k : Contract σ := ⟨fun w => vantage w = u ∧ quiet w, fun d => ¬ d.IsMove,
    fun f => ∃ fault, f = .channel fault⟩
  have hplaces : k.AdmitsPlaces places := ⟨(h.admitsPlaces u).closed, (h.admitsPlaces u).isOpen⟩
  have hkeeps := close_keeps (k := k) (h.admits u) (fun fault => ⟨fault, rfl⟩)
    (fun _ hd => hd.not_isMove) hplaces privileges
  exact hkeeps.ends

/-- **Entering the root** leaves the process inside the container, or fails somewhere on the way. -/
theorem enter_ends (engine : Engine) (privileges : Privileges) (v : ν) :
    Ends (fun w => vantage w = v ∧ quiet w)
      (engine.enter (Chronicle.system sys)
        (operations (Chronicle.system sys) (Chronicle.places places) privileges))
      fun
        | .ok _, w => Enters sys vantage engine.config.layout.sessionDir v (vantage w) ∧ quiet w
        | .error f, w => Parting sys vantage engine.config.layout.sessionDir v (.failure none f)
          (vantage w) ∧ quiet w := by
  let session := engine.config.layout.sessionDir
  unfold Engine.enter
  refine (h.report_ends _ _ _ _ v).bind (fun _ _ => False.elim) fun _ => ?_
  refine (h.changeDir_ends session v).bind
    (fun f w ⟨⟨hw, hquiet⟩, _⟩ => ⟨hw ▸ .outside, hquiet⟩) fun _ => ?_
  -- From here on the process is in the session directory.
  refine .of_value fun u hdir => ?_
  refine (h.report_ends _ _ _ _ u).bind (fun _ _ => False.elim) fun _ => ?_
  refine (h.chroot_ends privileges session u).bind ?_ fun _ => ?_
  · rintro f w ⟨hquiet, hf, rfl | hasked⟩
    · exact ⟨.inSession hdir hf, hquiet⟩
    · exact ⟨.unanswered hdir hasked hf, hquiet⟩
  -- From here on its root is the session directory.
  refine .of_value fun u' hroot => ?_
  refine (h.changeDir_ends "/" u').bind ?_ fun _ => ?_
  · rintro f w ⟨⟨rfl, hquiet⟩, errno, rfl⟩
    exact ⟨.inside hdir hroot (.inl rfl) rfl, hquiet⟩
  refine .of_value fun v' htop => ?_
  refine (h.close_ends privileges v').mono ?_
  rintro (f | ⟨⟩) w ⟨⟨rfl, hquiet⟩, hf⟩
  · obtain ⟨fault, rfl⟩ := hf f rfl
    exact ⟨.inside hdir hroot (.inr htop) rfl, hquiet⟩
  · exact ⟨⟨u, u', hdir, hroot, htop⟩, hquiet⟩

/-- Creating a container leaves the process inside it, or fails somewhere on the way. -/
theorem engine_ends (engine : Engine) (privileges : Privileges) (v : ν) :
    Ends (fun w => vantage w = v ∧ quiet w)
      (engine.create (Chronicle.system sys)
        (operations (Chronicle.system sys) (Chronicle.places places) privileges))
      fun
        | .ok _, w => Enters sys vantage engine.config.layout.sessionDir v (vantage w) ∧ quiet w
        | .error f, w => Parting sys vantage engine.config.layout.sessionDir v (.failure none f)
          (vantage w) ∧ quiet w := by
  have hdeed : ∀ d : Deed, d.IsPreparing → (still vantage quiet v).deed d :=
    fun _ hd => hd.not_isMove
  have hmount : ∀ request, Keeps (still vantage quiet v)
      ((operations (Chronicle.system sys) (Chronicle.places places) privileges).mount request) :=
    fun request => mount_keeps (h.admits v) (fun _ => trivial) hdeed privileges request
  have hprepare : Ends (fun w => vantage w = v ∧ quiet w)
      (engine.prepare (Chronicle.system sys)
        (operations (Chronicle.system sys) (Chronicle.places places) privileges))
      fun _ w => vantage w = v ∧ quiet w :=
    (prepare_keeps (h.admits v) hdeed (fun _ => trivial) hmount engine).ends.mono
      fun _ _ hend => hend.1
  rw [Engine.create_eq_prepare]
  refine hprepare.bind (fun f w ⟨hw, hquiet⟩ => ⟨hw ▸ .outside, hquiet⟩) fun _ => ?_
  refine (h.enter_ends engine privileges v).bind (fun _ _ hfailed => hfailed) fun _ => ?_
  refine .of_value fun v' hentered => ?_
  refine (h.report_ends _ _ _ _ v').mono ?_
  rintro (f | _) w
  · exact False.elim
  · rintro ⟨rfl, hquiet⟩
    exact ⟨hentered, hquiet⟩

end Moves

/-- What is found when the root is looked at in the end is a late fault. -/
theorem isLate_of_checkEntered {engine : Engine} {before? : Option FileId} {c c' : Chronicle σ}
    {fault : TaskFault}
    (h : checkEntered (Chronicle.system sys) engine before? c = (.ok (.error fault), c')) :
    fault.isLate := by
  obtain ⟨-, ⟨io, -, hfault⟩ | ⟨root, -, ⟨-, hok⟩ | ⟨before, -, -, hfault⟩⟩⟩ := checkEntered_cases h
  · obtain rfl := Except.error.inj hfault
    rfl
  · cases hok
  · obtain rfl := Except.error.inj hfault
    rfl

/-- **Where a failed creation leaves the process.**

**Proof sketch.** Whatever is done before the session directory is entered keeps the vantage, and so
does looking at the root in the end; between them the vantage changes with the moves, and each of
them that fails leaves it as it was, unless it is a helper that fails. -/
theorem create_parting (h : Moves sys places vantage quiet) {env : Environment} {engine : Engine}
    {privileges : Privileges} {c c' : Chronicle σ} {fault : TaskFault} (hquiet : quiet c.world)
    (hcreates : Creates sys env places engine privileges c (.error fault) c') :
    quiet c'.world ∧ Parting sys vantage engine.config.layout.sessionDir (vantage c.world) fault
      (vantage c'.world) := by
  let v := vantage c.world
  let session := engine.config.layout.sessionDir
  have hdeed : ∀ d : Deed, d.IsPreparing → (still vantage quiet v).deed d :=
    fun _ hd => hd.not_isMove
  -- Before the operations are there nothing has moved.
  let looked := (fileAt? (Chronicle.system sys) engine.config.rootfs c).2
  have hlooked : vantage looked.world = v ∧ quiet looked.world := by
    have hadds : Adds (still vantage quiet v)
        (fileAt? (Chronicle.system sys) engine.config.rootfs) := by
      unfold fileAt?
      refine .bind (adds_note (h.admits v) (.stat _) not_false) fun info => ?_
      split
      · exact .pure _
      · exact .pure _
    exact (hadds c ⟨rfl, hquiet⟩).1
  unfold Creates create at hcreates
  rw [run_bind, run_lift] at hcreates
  obtain ⟨outcome, opened, hopen, hgrows⟩ := openOperations_completes (h.admits v)
    (fun _ => trivial) (h.admitsPlaces v) hdeed env privileges looked hlooked
  simp only at hcreates
  rw [run_bind, hopen] at hcreates
  cases outcome with
  | error fault' =>
    cases hcreates
    exact ⟨hgrows.1.2, hgrows.1.1 ▸ .outside⟩
  | ok given =>
    obtain rfl := eq_operations hopen
    obtain ⟨result, hresult, hpost⟩ := h.engine_ends engine privileges v opened hgrows.1
    rcases hrun : engine.create (Chronicle.system sys)
      (operations (Chronicle.system sys) (Chronicle.places places) privileges) opened
      with ⟨_, created⟩
    rw [hrun] at hresult hpost
    obtain rfl := hresult
    simp only at hcreates
    rw [run_bind, run_within, hrun] at hcreates
    cases result with
    | error f =>
      cases hcreates
      exact ⟨hpost.2, hpost.1⟩
    | ok _ =>
      obtain ⟨⟨u, u', hdir, hroot, htop⟩, hentered⟩ := hpost
      have hlate := isLate_of_checkEntered hcreates
      obtain ⟨outcome, ended, hcheck, hlater⟩ := checkEntered_completes
        (h.admits (vantage created.world)) not_false engine _ created ⟨rfl, hentered⟩
      cases hcreates.symm.trans hcheck
      obtain ⟨hsame, hended⟩ := hlater.1
      exact ⟨hended, .inside hdir hroot (.inr (hsame ▸ htop)) hlate⟩

/-- Loading a description moves nothing. -/
theorem Moves.loads_still (h : Moves sys places vantage quiet) {env : Environment}
    {description : Path} {outcome : Except TaskFault Engine} {c c₁ : Chronicle σ}
    (hquiet : quiet c.world) (hloads : Loads sys env description c outcome c₁) :
    vantage c₁.world = vantage c.world ∧ quiet c₁.world := by
  have hload : Completes (still vantage quiet (vantage c.world))
      (load (Chronicle.system sys) env description) :=
    .bind (.within _ (load_keeps (h.admits _) env description not_false fun _ _ => trivial))
      fun _ => .pure _
  obtain ⟨outcome', c', hrun, hgrows⟩ := hload c ⟨rfl, hquiet⟩
  cases hloads.symm.trans hrun
  exact hgrows.1

/-- Nothing that is done after a failed creation moves the process. -/
theorem Moves.abandon_still (h : Moves sys places vantage quiet) (engine : Engine)
    (fault : TaskFault) {c : Chronicle σ} (hquiet : quiet c.world) :
    ∃ later c₁ c₂,
      cleanup (Chronicle.system sys) engine fault.failure? (.ofInt 0) Registry.defaultRoot c =
        (.ok later, c₁) ∧
      Grows (still vantage quiet (vantage c.world)) c c₁ ∧
      abandon (Chronicle.system sys) engine fault c = (.ok (.error fault), c₂) ∧
      Grows (still vantage quiet (vantage c.world)) c₁ c₂ := by
  obtain ⟨hopened, answer, reached, -, -, hcleanup, hgrows⟩ := cleaning_run engine fault.failure?
    (.ofInt 0) c (h.admits _) (fun _ => trivial) (fun _ hd => hd.not_isMove)
    (fun _ _ => not_false) Registry.defaultRoot ⟨rfl, hquiet⟩
  have hcleaned := hopened.trans (hgrows.mono (fun _ hw => hw) fun _ hd => hd.not_isMove)
  exact ⟨_, _, _, hcleanup, hcleaned, abandon_run hcleanup,
    reported_grows (h.admits _) (fun _ _ => not_false) hcleaned.1⟩

/-- **The cleanup after a failed creation looks for paths from where the creation left the
process**, from the first thing that it does to the last.

**Proof sketch.** Loading the description moves nothing (`Moves.loads_still`), and where a creation
that fails leaves the process is known (`create_parting`). Whatever is done from there on is no
move: not what the cleanup does step by step, nor the report of its own fault
(`Moves.abandon_still`), nor that of the fault of the task (`reported_grows`). So whatever the
chronicle gains after the creation was done in a world with the vantage that the creation left, and
what the task ends with is the chronicle of this one cleanup with those reports added to it
(`finish_run`). -/
theorem abandoned_vantage (h : Moves sys places vantage quiet) {env : Environment}
    {description : Path} {privileges : Privileges} {engine : Engine} {c c₁ c₂ : Chronicle σ}
    {fault : TaskFault} (hquiet : quiet c.world)
    (hloads : Loads sys env description c (.ok engine) c₁)
    (hcreates : Creates sys env places engine privileges c₁ (.error fault) c₂) :
    Parting sys vantage engine.config.layout.sessionDir (vantage c.world) fault
        (vantage c₂.world) ∧
      ∃ later c₃ code c' cleaning told,
        cleanup (Chronicle.system sys) engine fault.failure? (.ofInt 0) Registry.defaultRoot c₂ =
          (.ok later, c₃) ∧
        Finishes sys env places (.run description privileges) c code c' ∧
        c₃.entries = c₂.entries ++ cleaning ∧ c'.entries = c₃.entries ++ told ∧
        ∀ e ∈ cleaning ++ told, vantage e.world = vantage c₂.world := by
  obtain ⟨hsame, hquiet₁⟩ := h.loads_still hquiet hloads
  obtain ⟨hquiet₂, hparting⟩ := create_parting h hquiet₁ hcreates
  rw [hsame] at hparting
  refine ⟨hparting, ?_⟩
  obtain ⟨later, c₃, c₄, hcleanup, hcleaned, habandon, htold⟩ :=
    h.abandon_still engine fault hquiet₂
  have hloaded : Loads sys env (document (.run description privileges)) c (.ok engine) c₁ := hloads
  obtain ⟨code, -, hfinish⟩ := finish_run
    ((perform_of_loaded hloaded).trans ((carryOut_of_not_created hcreates).trans habandon))
  have hended : Grows (still vantage quiet (vantage c₂.world)) c₃
      (c₄.reported sys (lastEvents (.error fault))) :=
    htold.trans (reported_grows (h.admits _) (fun _ _ => not_false) htold.1)
  obtain ⟨-, cleaning, hcleaning, hcleaningStill⟩ := hcleaned
  obtain ⟨-, told, htolds, htoldStill⟩ := hended
  refine ⟨later, c₃, code, _, cleaning, told, hcleanup, hfinish, hcleaning, htolds, ?_⟩
  intro e he
  rcases List.mem_append.1 he with he | he
  · exact (hcleaningStill e he).2.1
  · exact (htoldStill e he).2.1

end Creating

end Runner

/-! ## A container with something bound over its root -/

/-- A process that may be inside a container, and the files that it removed, each with whether it
was inside then. -/
structure Visit where
  inside : Bool
  removed : List (Bool × Path)
  closed : Bool
  isOpen : Bool

namespace Visit

open Runner

/-- A process outside that has removed nothing. -/
def start : Visit := ⟨false, [], true, false⟩

def places : Places Visit where
  closed := { get := closed, set := fun b visit => { visit with closed := b } }
  isOpen := { get := isOpen, set := fun b visit => { visit with isOpen := b } }

/-- A container whose image is to be removed, with another directory bound over its root. -/
def boundRoot : Description where
  identity := ⟨"c1", "shroud", ⟨["/bin/sh"], []⟩⟩
  config := {
    rootfs := "/srv/root"
    image := "/srv/image"
    recipe := .empty
    network? := none
    cgroup? := none
    cryptDevice? := none
    deleteImage := true
    hasRecord := false
    fakeroot := false
    mountTmp := false
    contain := false
    binds := [⟨"/srv/other", some "/"⟩]
    layout := ⟨"/run/session", "/run/final"⟩ }

/-- A system in which every call succeeds. Files are the same wherever they are looked at, but for
the root, which inside is the directory that was bound over it. -/
def system : System Visit where
  stat path visit := (.ok ⟨⟨0, if visit.inside && path == "/" then 2 else 1⟩, true⟩, visit)
  linkStat _ := pure (.ok ⟨⟨0, 3⟩, false⟩)
  readFile _ := pure (.ok (Utf8.bytes (Json.compact (boundRoot.toDatum?.getD .null))))
  writeFile _ _ := pure (.ok ())
  makeDirs _ := pure (.ok ())
  removeFile path visit :=
    (.ok (), { visit with removed := visit.removed ++ [(visit.inside, path)] })
  removeDir _ := pure (.ok ())
  removeTree _ := pure (.ok ())
  listDir _ := pure (.ok [])
  depthBound _ := 0
  changeDir _ := pure (.ok ())
  run _ := pure (.ok (.exited 0))
  execute _ := pure none
  startThread := pure (.ok ())
  userId := pure 0
  setUserIds _ _ _ := pure (.ok ())
  isAdministrator := pure true
  mount _ := pure (.ok ())
  changeRoot _ visit := (.ok (), { visit with inside := true })
  detach _ := pure (.ok ())
  connect _ := pure (.ok ())
  channel := ⟨fun _ => pure (.ok ()), fun _ => pure (.error .streamEnded), pure (.ok ())⟩
  listen _ := pure (.ok ())
  setMode _ _ := pure (.ok ())
  log _ := pure ()

/-- Only changing the root moves the process. -/
theorem moves : Moves system places inside fun _ => True where
  steady α d call hmakes hmove visit _ := by
    refine ⟨?_, trivial⟩
    cases hmakes with
    | changeRoot => exact absurd trivial hmove
    | _ => rfl
  changeDir _ _ _ := ⟨trivial, fun _ _ => rfl⟩
  changeRoot _ _ _ := ⟨trivial, nofun⟩
  unsent _ _ _ _ _ := ⟨rfl, trivial⟩
  received _ _ := trivial
  denied _ _ _ _ _ hexchange := by
    obtain ⟨-, -, hheader, -, -, -⟩ := hexchange
    cases hheader
  closed _ _ := ⟨rfl, fun _ => trivial⟩
  isOpen _ _ := ⟨rfl, fun _ => trivial⟩

/-- Whether running the container fails inside it, and its image is removed there. -/
def removesInside : Bool :=
  match load (Chronicle.system system) .empty "/srv/c1.json" (.start start) with
  | (.ok (.ok engine), c₁) =>
    match create (Chronicle.system system) .empty (Chronicle.places places) engine .inProcess c₁
    with
    | (.ok (.error fault), c₂) =>
      c₂.world.inside && (cleanup (Chronicle.system system) engine fault.failure? (.ofInt 0)
        Registry.defaultRoot c₂).2.world.removed == [(true, boundRoot.config.image)]
    | _ => false
  | _ => false

theorem removesInside_eq_true : removesInside = true := by decide +kernel

/-- The process that began outside cleans up from inside, and removes there what the image is called
outside. -/
theorem abandoned_vantage_boundRoot :
    ∃ engine fault c₁ c₂, Loads system .empty "/srv/c1.json" (.start start) (.ok engine) c₁ ∧
      Creates system .empty places engine .inProcess c₁ (.error fault) c₂ ∧
      Parting system inside engine.config.layout.sessionDir false fault true ∧
      ∃ later c₃ code c' cleaning told,
        cleanup (Chronicle.system system) engine fault.failure? (.ofInt 0) Registry.defaultRoot c₂ =
          (.ok later, c₃) ∧
        Finishes system .empty places (.run "/srv/c1.json" .inProcess) (.start start) code c' ∧
        c₃.entries = c₂.entries ++ cleaning ∧ c'.entries = c₃.entries ++ told ∧
        (∀ e ∈ cleaning ++ told, e.world.inside = true) ∧
        c₃.world.removed = [(true, boundRoot.config.image)] := by
  have hremoves := removesInside_eq_true
  unfold removesInside at hremoves
  split at hremoves
  · rename_i engine c₁ hloads
    split at hremoves
    · rename_i fault c₂ hcreates
      obtain ⟨hinside, hremoved⟩ := Bool.and_eq_true_iff.1 hremoves
      obtain ⟨hparting, later, c₃, code, c', cleaning, told, hcleanup, hfinish, hcleaning, htold,
        hwhere⟩ := abandoned_vantage moves trivial hloads hcreates
      rw [hinside] at hparting hwhere
      rw [hcleanup] at hremoved
      exact ⟨engine, fault, c₁, c₂, hloads, hcreates, hparting, later, c₃, code, c', cleaning, told,
        hcleanup, hfinish, hcleaning, htold, hwhere, eq_of_beq hremoved⟩
    · cases hremoves
  · cases hremoves

end Visit
end Container
