import Container.Proofs.Act
import Container.Command.Runner

set_option autoImplicit false

/-!
# A chronicle of calls

To say what a task does, every call that it makes is written into a chronicle, together with the
world as it was just before. The calls go through to a system of which nothing need be known. What
a part of the library may do is said by a contract: what holds of the world all along, which calls
are made, and how the part may fail.

## Main definitions

* `Chronicle` — a world, and what was done to it so far.
* `Chronicle.system`, `Chronicle.places` — a system whose calls are written down.
* `System.Makes` — which calls of a system are which deeds.
* `Chronicle.Contract`, `Chronicle.Keeps` — what a computation may do.
* `Chronicle.Ends` — what a computation comes to.

## Main results

* `Chronicle.Keeps.bind`, `Chronicle.Keeps.guarded`, … — how computations that keep a contract are
  put together.
* `Chronicle.keeps_call`, `Chronicle.keeps_report` — calls that keep a contract.
* `Chronicle.Ends.bind`, `Chronicle.Ends.call`, … — what one computation after another comes to.
-/

namespace Container

variable {σ τ α β ε : Type}

/-- Something that is done to the world. -/
inductive Chronicle.Deed where
  | readFile (path : Path)
  | run (command : Command)
  | mount (request : MountRequest)
  | changeRoot (path : Path)
  | changeDir (path : Path)
  | send (content : Bytes)
  | receive (count : Nat)
  | execute (handoff : Handoff)
  | report (event : LogEvent)
  /-- Any call that is none of these. -/
  | other
  deriving DecidableEq

/-- Something that was done, and the world before it. -/
structure Chronicle.Entry (σ : Type) where
  deed : Chronicle.Deed
  world : σ

/-- A world, and what was done to it so far. -/
structure Chronicle (σ : Type) where
  world : σ
  entries : List (Chronicle.Entry σ)

/-- The calls of a system, and what they do. -/
inductive System.Makes (sys : System σ) : (α : Type) → Chronicle.Deed → StateM σ α → Prop
  | stat (path : Path) : Makes sys _ .other (sys.stat path)
  | linkStat (path : Path) : Makes sys _ .other (sys.linkStat path)
  | readFile (path : Path) : Makes sys _ (.readFile path) (sys.readFile path)
  | writeFile (path : Path) (content : Bytes) : Makes sys _ .other (sys.writeFile path content)
  | makeDirs (path : Path) : Makes sys _ .other (sys.makeDirs path)
  | removeFile (path : Path) : Makes sys _ .other (sys.removeFile path)
  | removeDir (path : Path) : Makes sys _ .other (sys.removeDir path)
  | removeTree (path : Path) : Makes sys _ .other (sys.removeTree path)
  | listDir (path : Path) : Makes sys _ .other (sys.listDir path)
  | changeDir (path : Path) : Makes sys _ (.changeDir path) (sys.changeDir path)
  | run (command : Command) : Makes sys _ (.run command) (sys.run command)
  | execute (handoff : Handoff) : Makes sys _ (.execute handoff) (sys.execute handoff)
  | startThread : Makes sys _ .other sys.startThread
  | userId : Makes sys _ .other sys.userId
  | setUserIds (real effective saved : Nat) :
      Makes sys _ .other (sys.setUserIds real effective saved)
  | isAdministrator : Makes sys _ .other sys.isAdministrator
  | mount (request : MountRequest) : Makes sys _ (.mount request) (sys.mount request)
  | changeRoot (path : Path) : Makes sys _ (.changeRoot path) (sys.changeRoot path)
  | detach (path : Path) : Makes sys _ .other (sys.detach path)
  | connect (path : Path) : Makes sys _ .other (sys.connect path)
  | send (content : Bytes) : Makes sys _ (.send content) (sys.channel.send content)
  | receive (count : Nat) : Makes sys _ (.receive count) (sys.channel.receive count)
  | close : Makes sys _ .other sys.channel.close
  | listen (path : Path) : Makes sys _ .other (sys.listen path)
  | setMode (path : Path) (mode : UInt32) : Makes sys _ .other (sys.setMode path mode)
  | log (event : LogEvent) : Makes sys _ (.report event) (sys.log event)

namespace Chronicle

/-- The chronicle in which nothing is written yet. -/
def start (world : σ) : Chronicle σ := ⟨world, []⟩

/-- Does something to the world, and writes it down. -/
def note (deed : Deed) (call : StateM σ α) : StateM (Chronicle σ) α := fun c =>
  let (a, world) := call c.world
  (a, ⟨world, c.entries ++ [⟨deed, c.world⟩]⟩)

/-- A system whose calls are written down. -/
def system (sys : System σ) : System (Chronicle σ) where
  stat path := note .other (sys.stat path)
  linkStat path := note .other (sys.linkStat path)
  readFile path := note (.readFile path) (sys.readFile path)
  writeFile path content := note .other (sys.writeFile path content)
  makeDirs path := note .other (sys.makeDirs path)
  removeFile path := note .other (sys.removeFile path)
  removeDir path := note .other (sys.removeDir path)
  removeTree path := note .other (sys.removeTree path)
  listDir path := note .other (sys.listDir path)
  depthBound c := sys.depthBound c.world
  changeDir path := note (.changeDir path) (sys.changeDir path)
  run command := note (.run command) (sys.run command)
  execute handoff := note (.execute handoff) (sys.execute handoff)
  startThread := note .other sys.startThread
  userId := note .other sys.userId
  setUserIds real effective saved := note .other (sys.setUserIds real effective saved)
  isAdministrator := note .other sys.isAdministrator
  mount request := note (.mount request) (sys.mount request)
  changeRoot path := note (.changeRoot path) (sys.changeRoot path)
  detach path := note .other (sys.detach path)
  connect path := note .other (sys.connect path)
  channel := {
    send := fun content => note (.send content) (sys.channel.send content)
    receive := fun count => note (.receive count) (sys.channel.receive count)
    close := note .other sys.channel.close }
  listen path := note .other (sys.listen path)
  setMode path mode := note .other (sys.setMode path mode)
  log event := note (.report event) (sys.log event)

/-- A place in the world of a chronicle. -/
def place (slot : Slot σ τ) : Slot (Chronicle σ) τ where
  get c := slot.get c.world
  set t c := { c with world := slot.set t c.world }
  get_set t c := slot.get_set t c.world
  set_get c := by rw [slot.set_get]
  set_set t u c := by rw [slot.set_set]

/-- The places that the operations of a process need, in the world of a chronicle. -/
def places (places : Runner.Places σ) : Runner.Places (Chronicle σ) :=
  ⟨place places.closed, place places.isOpen⟩

/-! ## Contracts -/

/-- What a computation may do: what holds of the world all along, which deeds it does, and how it
may fail. -/
structure Contract (σ : Type) where
  world : σ → Prop
  deed : Deed → Prop
  failure : Failure → Prop

variable {k : Contract σ} {c c' c'' : Chronicle σ}

/-- A contract does not ask too much of a system: whatever may be done, what holds of the world
holds of it afterwards. -/
def Contract.Admits (k : Contract σ) (sys : System σ) : Prop :=
  ∀ (α : Type) (deed : Deed) (call : StateM σ α), sys.Makes α deed call → k.deed deed →
    ∀ s, k.world s → k.world (call s).2

/-- A contract that says nothing about the world asks nothing of a system. -/
theorem Contract.admits_of_world {sys : System σ} (h : ∀ s, k.world s) : k.Admits sys :=
  fun _ _ call _ _ s _ => h (call s).2

/-- From one chronicle to the other nothing was done but what a contract allows. -/
def Grows (k : Contract σ) (c c' : Chronicle σ) : Prop :=
  k.world c'.world ∧ ∃ added, c'.entries = c.entries ++ added ∧
    ∀ e ∈ added, k.deed e.deed ∧ k.world e.world

theorem Grows.refl (h : k.world c.world) : Grows k c c :=
  ⟨h, [], by simp, by simp⟩

theorem Grows.trans (h : Grows k c c') (h' : Grows k c' c'') : Grows k c c'' := by
  obtain ⟨-, added, hentries, hadded⟩ := h
  obtain ⟨hworld, later, hlaterEntries, hlater⟩ := h'
  refine ⟨hworld, added ++ later, ?_, ?_⟩
  · rw [hlaterEntries, hentries, List.append_assoc]
  · intro e he
    rcases List.mem_append.1 he with he | he
    · exact hadded e he
    · exact hlater e he

/-- What is allowed by one contract is allowed by any that allows more. -/
theorem Grows.mono {k' : Contract σ} (h : Grows k c c') (hworld : ∀ s, k.world s → k'.world s)
    (hdeed : ∀ deed, k.deed deed → k'.deed deed) : Grows k' c c' := by
  obtain ⟨hend, added, hentries, hadded⟩ := h
  refine ⟨hworld _ hend, added, hentries, ?_⟩
  intro e he
  exact ⟨hdeed _ (hadded e he).1, hworld _ (hadded e he).2⟩

/-- What only changes the state keeps a contract. -/
def Adds (k : Contract σ) (m : StateM (Chronicle σ) α) : Prop :=
  ∀ c, k.world c.world → Grows k c (m c).2

/-- A computation keeps a contract: it does nothing else, does not break down, and fails only as it
may. -/
def Keeps (k : Contract σ) (act : Act (Chronicle σ) α) : Prop :=
  ∀ c, k.world c.world →
    Grows k c (act c).2 ∧ ∀ stop, (act c).1 = .error stop → ∃ f, stop = .failed f ∧ k.failure f

theorem Adds.pure (a : α) : Adds k (Pure.pure a : StateM (Chronicle σ) α) :=
  fun _ hc => .refl hc

theorem Adds.bind {m : StateM (Chronicle σ) α} {next : α → StateM (Chronicle σ) β}
    (h : Adds k m) (hnext : ∀ a, Adds k (next a)) : Adds k (m >>= next) := by
  intro c hc
  have hfirst := h c hc
  exact hfirst.trans (hnext (m c).1 (m c).2 hfirst.1)

/-- A call that may be made. -/
theorem adds_note {sys : System σ} (hk : k.Admits sys) {deed : Deed} {call : StateM σ α}
    (hmakes : sys.Makes α deed call) (hdeed : k.deed deed) : Adds k (note deed call) := by
  intro c hc
  refine ⟨hk α deed call hmakes hdeed c.world hc, [⟨deed, c.world⟩], rfl, ?_⟩
  intro e he
  obtain rfl := List.mem_singleton.1 he
  exact ⟨hdeed, hc⟩

namespace Keeps

variable {act : Act (Chronicle σ) α}

theorem pure (a : α) : Keeps k (Pure.pure a : Act (Chronicle σ) α) := by
  intro c hc
  refine ⟨.refl hc, ?_⟩
  intro stop hstop
  cases hstop

theorem fail {f : Failure} (hf : k.failure f) : Keeps k (Act.fail f : Act (Chronicle σ) α) := by
  intro c hc
  refine ⟨.refl hc, ?_⟩
  intro stop hstop
  cases hstop
  exact ⟨f, rfl, hf⟩

theorem lift {m : StateM (Chronicle σ) α} (h : Adds k m) :
    Keeps k (liftM m : Act (Chronicle σ) α) := by
  intro c hc
  refine ⟨h c hc, ?_⟩
  intro stop hstop
  cases hstop

/-- One computation after another. -/
theorem bind {next : α → Act (Chronicle σ) β} (h : Keeps k act)
    (hnext : ∀ a, Keeps k (next a)) : Keeps k (act >>= next) := by
  intro c hc
  obtain ⟨hgrows, hfails⟩ := h c hc
  rw [Act.run_bind]
  rcases hact : act c with ⟨stop | a, c'⟩
  · rw [hact] at hgrows hfails
    exact ⟨hgrows, fun stop' hstop' => hfails stop' (by cases hstop'; rfl)⟩
  · rw [hact] at hgrows
    obtain ⟨hlater, hlaterFails⟩ := hnext a c' hgrows.1
    exact ⟨hgrows.trans hlater, hlaterFails⟩

/-- A call that may be refused, and what is done then and otherwise. -/
theorem bindAnswer {ε : Type} {act : Act (Chronicle σ) (Except ε α)}
    {next : Except ε α → Act (Chronicle σ) β} (h : Keeps k act)
    (hok : ∀ a, Keeps k (next (.ok a))) (herror : ∀ e, Keeps k (next (.error e))) :
    Keeps k (act >>= next) := by
  refine h.bind fun answer => ?_
  cases answer with
  | error e => exact herror e
  | ok a => exact hok a

/-- A computation whose failure is handed over may fail in any way. -/
theorem guarded {failure : Failure → Prop} (h : Keeps ⟨k.world, k.deed, failure⟩ act) :
    Keeps k act.guarded := by
  intro c hc
  obtain ⟨hgrows, hfails⟩ := h c hc
  rw [Act.run_guarded]
  rcases hact : act c with ⟨(f | _) | a, c'⟩
  · rw [hact] at hgrows
    exact ⟨hgrows, fun stop hstop => by cases hstop⟩
  · rw [hact] at hfails
    obtain ⟨f, hf, -⟩ := hfails _ rfl
    cases hf
  · rw [hact] at hgrows
    exact ⟨hgrows, fun stop hstop => by cases hstop⟩

/-- A computation whose failure is reported. -/
theorem onFailure {report : Failure → StateM (Chronicle σ) Unit} (h : Keeps k act)
    (hreport : ∀ f, Adds k (report f)) : Keeps k (act.onFailure report) := by
  intro c hc
  obtain ⟨hgrows, hfails⟩ := h c hc
  rw [Act.run_onFailure]
  rcases hact : act c with ⟨(f | _) | a, c'⟩
  · rw [hact] at hgrows hfails
    exact ⟨hgrows.trans (hreport f c' hgrows.1),
      fun stop hstop => hfails stop (by cases hstop; rfl)⟩
  · rw [hact] at hgrows hfails
    exact ⟨hgrows, fun stop hstop => hfails stop (by cases hstop; rfl)⟩
  · rw [hact] at hgrows
    exact ⟨hgrows, fun stop hstop => by cases hstop⟩

/-- The same computation for each of several things. -/
theorem forM {items : List τ} {body : τ → Act (Chronicle σ) Unit}
    (h : ∀ item ∈ items, Keeps k (body item)) : Keeps k (items.forM body) := by
  induction items with
  | nil => exact pure ()
  | cons item items ih =>
    have hrest := ih fun other hother => h other (List.mem_cons_of_mem item hother)
    exact (h item (List.mem_cons_self ..)).bind fun _ => hrest

end Keeps

section Calls

variable {sys : System σ} (hk : k.Admits sys)
include hk

/-- A call that may be made, and that fails as it may. -/
theorem keeps_call {deed : Deed} {call : StateM σ (Except ε α)} {failure : ε → Failure}
    (hmakes : sys.Makes (Except ε α) deed call) (hdeed : k.deed deed)
    (hfailure : ∀ e, k.failure (failure e)) : Keeps k (Act.call (note deed call) failure) := by
  intro c hc
  refine ⟨?_, ?_⟩
  · rw [Act.run_call]
    exact adds_note hk hmakes hdeed c hc
  · intro stop hstop
    rw [Act.run_call] at hstop
    rcases hanswer : (note deed call c).1 with e | a
    · rw [hanswer] at hstop
      cases hstop
      exact ⟨failure e, rfl, hfailure e⟩
    · rw [hanswer] at hstop
      cases hstop

/-- A call whose answer is looked at. -/
theorem keeps_note {deed : Deed} {call : StateM σ α} (hmakes : sys.Makes α deed call)
    (hdeed : k.deed deed) : Keeps k (liftM (note deed call) : Act (Chronicle σ) α) :=
  .lift (adds_note hk hmakes hdeed)

/-- An event that may be reported. -/
theorem adds_report {level : Level} {source : LogSource} {message : String}
    {values : List (String × LogValue)}
    (hdeed : k.deed (.report ⟨level, source, message, values⟩)) :
    Adds k ((system sys).report level source message values) :=
  adds_note hk (.log _) hdeed

theorem keeps_report {level : Level} {source : LogSource} {message : String}
    {values : List (String × LogValue)}
    (hdeed : k.deed (.report ⟨level, source, message, values⟩)) :
    Keeps k ((system sys).report level source message values : Act (Chronicle σ) Unit) :=
  .lift (adds_report hk hdeed)

end Calls

/-! ## What computations come to -/

section Triples

variable {ν : Type} {P : σ → Prop} {act : Act (Chronicle σ) α} {Q : Except Failure α → σ → Prop}

/-- From a world that satisfies a condition a computation comes to a result or a failure, which
satisfies another together with the world that it leaves. -/
def Ends (P : σ → Prop) (act : Act (Chronicle σ) α) (Q : Except Failure α → σ → Prop) : Prop :=
  ∀ c, P c.world → ∃ result, (act c).1 = result.mapError .failed ∧ Q result (act c).2.world

namespace Ends

theorem mono {Q' : Except Failure α → σ → Prop} (h : Ends P act Q)
    (hQ : ∀ result w, Q result w → Q' result w) : Ends P act Q' := by
  intro c hc
  obtain ⟨result, hrun, hresult⟩ := h c hc
  exact ⟨result, hrun, hQ result _ hresult⟩

/-- One computation after another: where the first fails, that is what both come to. -/
theorem bind {next : α → Act (Chronicle σ) β} {R : Except Failure β → σ → Prop}
    (h : Ends P act Q) (hfails : ∀ f w, Q (.error f) w → R (.error f) w)
    (hnext : ∀ a, Ends (Q (.ok a)) (next a) R) : Ends P (act >>= next) R := by
  intro c hc
  obtain ⟨result, hrun, hresult⟩ := h c hc
  rw [Act.run_bind]
  rcases hact : act c with ⟨_, c'⟩
  rw [hact] at hrun hresult
  obtain rfl := hrun
  cases result with
  | error f => exact ⟨.error f, rfl, hfails f _ hresult⟩
  | ok a => exact hnext a c' hresult

/-- A condition on a part of the world may be said of the value it has. -/
theorem of_value {f : σ → ν} {C : ν → Prop} {D : σ → Prop}
    (h : ∀ u, C u → Ends (fun w => f w = u ∧ D w) act Q) :
    Ends (fun w => C (f w) ∧ D w) act Q :=
  fun c ⟨hC, hD⟩ => h (f c.world) hC c ⟨rfl, hD⟩

/-- A call. -/
theorem call (deed : Deed) (call : StateM σ (Except ε α)) (failure : ε → Failure)
    (w₀ : σ) :
    Ends (· = w₀) (Act.call (note deed call) failure) fun
      | .ok a, w => call w₀ = (.ok a, w)
      | .error f, w => ∃ e, call w₀ = (.error e, w) ∧ f = failure e := by
  rintro c rfl
  rw [Act.run_call]
  rcases hcall : call c.world with ⟨e | a, w⟩
  · refine ⟨.error (failure e), ?_, e, ?_, rfl⟩
    · simp [note, hcall]
    · simp [note, hcall]
  · refine ⟨.ok a, ?_, ?_⟩
    · simp [note, hcall]
    · simp [note, hcall]

/-- Looking up a place. -/
theorem read (slot : Slot σ Bool) (w₀ : σ) :
    Ends (· = w₀) (liftM (place slot).read : Act (Chronicle σ) Bool) fun
      | .ok _, w => w = w₀
      | .error _, _ => False :=
  fun c hc => ⟨.ok (slot.get c.world), rfl, hc⟩

theorem pure (a : α) (h : ∀ w, P w → Q (.ok a) w) : Ends P (Pure.pure a) Q :=
  fun _ hc => ⟨.ok a, rfl, h _ hc⟩

theorem fail (f : Failure) (h : ∀ w, P w → Q (.error f) w) : Ends P (Act.fail f) Q :=
  fun _ hc => ⟨.error f, rfl, h _ hc⟩

/-- What is done may depend on the world in which it begins. -/
theorem of_world (h : ∀ w, P w → Ends (· = w) act Q) : Ends P act Q :=
  fun c hc => h c.world hc c rfl

end Ends

/-- What keeps a contract comes to an end in a world of which that still holds. -/
theorem Keeps.ends {k : Contract σ} (h : Keeps k act) :
    Ends k.world act fun result w => k.world w ∧ ∀ f, result = .error f → k.failure f := by
  intro c hc
  obtain ⟨hgrows, hfails⟩ := h c hc
  rcases hact : act c with ⟨stop | a, c'⟩
  · rw [hact] at hgrows hfails
    obtain ⟨f, rfl, hf⟩ := hfails stop rfl
    refine ⟨.error f, rfl, hgrows.1, ?_⟩
    rintro _ ⟨⟩
    exact hf
  · rw [hact] at hgrows
    exact ⟨.ok a, rfl, hgrows.1, nofun⟩

end Triples

end Chronicle
end Container
