import Container.Engine.Cleanup
import Container.Proofs.Act

set_option autoImplicit false

/-!
# A diary of a cleanup

To say in which order a cleanup does what, every call that it makes is written into a diary with
what came of it: success, a failure, or a breakdown. The calls go through to a world, a system and
helpers of which nothing is known, so what is answered may depend on all that happened before.

## Main definitions

* `Cleanup.Deed`, `Cleanup.Entry` — what is done, and what came of it.
* `Cleanup.Diary` — a world, and what was done to it so far.
* `Cleanup.Diary.system`, `Cleanup.Diary.teardown` — those whose calls are written down.
* `Cleanup.Writes` — what a computation adds to the diary.

## Main results

* `Cleanup.Writes.bind`, `Cleanup.Writes.guarded`, `Cleanup.Writes.onFailure` — how computations are
  put together.
-/

namespace Container.Cleanup

variable {σ α β : Type}

/-- Something that a cleanup does. -/
inductive Deed where
  | examine (path : Path)
  | removeTree (path : Path)
  | removeFile (path : Path)
  | raise
  | restore
  | deleteNetwork (network : Network)
  | removeCgroup (cgroup : Cgroup)
  | findRecord (containerId kind : String)
  | deleteRecord
  | detach (path : Path)
  | closeDevice (name : String)
  deriving DecidableEq

/-- Something that was done, and what came of it. -/
structure Entry where
  deed : Deed
  answer : Except Stop Unit

/-- A world, and what was done to it. -/
structure Diary (σ : Type) where
  world : σ
  entries : List Entry

namespace Diary

/-- Does something to the world, and writes it down. -/
def note (deed : Deed) (act : Act σ α) : Act (Diary σ) α := fun diary =>
  let (answer, world) := act diary.world
  (answer, ⟨world, diary.entries ++ [⟨deed, answer.map fun _ => ()⟩]⟩)

/-- Makes a call of the system, and writes it down. -/
def noteCall (deed : Deed) (call : StateM σ (Except IoFault α)) :
    StateM (Diary σ) (Except IoFault α) := fun diary =>
  let (answer, world) := call diary.world
  (answer, ⟨world, diary.entries ++
    [⟨deed, (answer.map fun _ => ()).mapError fun fault => .failed (.io fault)⟩]⟩)

/-- A system whose calls that take an image away are written down. -/
def system (base : System (Diary σ)) (sys : System σ) : System (Diary σ) :=
  { base with
    linkStat := fun path => noteCall (.examine path) (sys.linkStat path)
    removeTree := fun path => noteCall (.removeTree path) (sys.removeTree path)
    removeFile := fun path => noteCall (.removeFile path) (sys.removeFile path)
    log := fun event diary => ((), { diary with world := (sys.log event diary.world).2 }) }

/-- Those by whom things are given back, with what they do written down. -/
def teardown (teardown : Teardown σ) : Teardown (Diary σ) where
  elevation := ⟨note .raise teardown.elevation.raise, note .restore teardown.elevation.restore⟩
  deleteNetwork network := note (.deleteNetwork network) (teardown.deleteNetwork network)
  removeCgroup cgroup := note (.removeCgroup cgroup) (teardown.removeCgroup cgroup)
  findRecord containerId kind := do
    let delete ← note (.findRecord containerId kind) (teardown.findRecord containerId kind)
    return note .deleteRecord delete
  crypt := {
    detach := fun path => note (.detach path) (teardown.crypt.detach path)
    closeDevice := fun name => note (.closeDevice name) (teardown.crypt.closeDevice name) }

end Diary

/-! ## What a computation writes -/

/-- What a computation adds to the diary, and its result, are always as `P` says. -/
def Writes (act : Act (Diary σ) α) (P : List Entry → Except Stop α → Prop) : Prop :=
  ∀ diary, ∃ entries, (act diary).2.entries = diary.entries ++ entries ∧ P entries (act diary).1

/-- What becomes of a result when failures are handed over. -/
def handedOver : Except Stop α → Except Stop (Except Failure α)
  | .ok a => .ok (.ok a)
  | .error (.failed f) => .ok (.error f)
  | .error .panicked => .error .panicked

namespace Writes

variable {act : Act (Diary σ) α} {P Q : List Entry → Except Stop α → Prop}

/-- What is always so is so where less is said. -/
theorem mono (h : Writes act P) (hPQ : ∀ entries result, P entries result → Q entries result) :
    Writes act Q := by
  intro diary
  obtain ⟨entries, hentries, hP⟩ := h diary
  exact ⟨entries, hentries, hPQ entries _ hP⟩

/-- What is done is written down with what comes of it. -/
theorem note (deed : Deed) (work : Act σ α) :
    Writes (Diary.note deed work) fun entries result =>
      entries = [⟨deed, result.map fun _ => ()⟩] :=
  fun _ => ⟨_, rfl, rfl⟩

/-- A result without anything done. -/
theorem pure (a : α) (h : P [] (.ok a)) : Writes (Pure.pure a : Act (Diary σ) α) P :=
  fun _ => ⟨[], by simp, h⟩

/-- A failure without anything done. -/
theorem fail (f : Failure) (h : P [] (.error (.failed f))) :
    Writes (Act.fail f : Act (Diary σ) α) P :=
  fun _ => ⟨[], by simp, h⟩

/-- One computation after another. -/
theorem bind {next : α → Act (Diary σ) β} {R : List Entry → Except Stop β → Prop}
    (h : Writes act P) (hstop : ∀ entries stop, P entries (.error stop) → R entries (.error stop))
    (hnext : ∀ a, Writes (next a) fun later result =>
      ∀ entries, P entries (.ok a) → R (entries ++ later) result) :
    Writes (act >>= next) R := by
  intro diary
  obtain ⟨entries, hentries, hP⟩ := h diary
  rw [Act.run_bind]
  rcases hact : act diary with ⟨stop | a, diary'⟩
  · rw [hact] at hentries hP
    exact ⟨entries, hentries, hstop entries stop hP⟩
  · rw [hact] at hentries hP
    obtain ⟨later, hlater, hR⟩ := hnext a diary'
    refine ⟨entries ++ later, ?_, hR entries hP⟩
    rw [← List.append_assoc, ← hentries]
    exact hlater

/-- A computation whose failure is handed over. -/
theorem guarded (h : Writes act P) :
    Writes act.guarded fun entries result =>
      ∃ ended, P entries ended ∧ result = handedOver ended := by
  intro diary
  obtain ⟨entries, hentries, hP⟩ := h diary
  have hrun : act.guarded diary = (handedOver (act diary).1, (act diary).2) := by
    rw [Act.run_guarded]
    rcases act diary with ⟨(f | _) | a, diary'⟩ <;> rfl
  rw [hrun]
  exact ⟨entries, hentries, (act diary).1, hP, rfl⟩

/-- A computation whose result is changed. -/
theorem map (h : Writes act P) (f : α → β) :
    Writes (act >>= fun a => Pure.pure (f a)) fun entries result =>
      ∃ ended, P entries ended ∧ result = ended.map f := by
  refine h.bind ?_ fun a => .pure _ ?_
  · intro entries stop hP
    exact ⟨_, hP, rfl⟩
  · intro entries hP
    exact ⟨.ok a, by simpa using hP, rfl⟩

section Reports

variable {base : System (Diary σ)} {sys : System σ}

/-- Reports are not written into the diary. -/
theorem report (level : Level) (source : LogSource) (message : String)
    (values : List (String × LogValue)) {next : Unit → Act (Diary σ) α} (h : Writes (next ()) P) :
    Writes (((Diary.system base sys).report level source message values :
      Act (Diary σ) Unit) >>= next) P := by
  intro diary
  rw [Act.run_bind, Act.run_lift]
  exact h { diary with world := (sys.log ⟨level, source, message, values⟩ diary.world).2 }

/-- The same where nothing follows. -/
theorem report_last (level : Level) (source : LogSource) (message : String)
    (values : List (String × LogValue)) {R : List Entry → Except Stop Unit → Prop}
    (h : R [] (.ok ())) :
    Writes (((Diary.system base sys).report level source message values :
      Act (Diary σ) Unit)) R := by
  intro diary
  refine ⟨[], ?_, h⟩
  rw [Act.run_lift]
  simp [System.report, Diary.system]

/-- A failure that is reported. -/
theorem onFailure (h : Writes act P) (level : Level) (source : LogSource) (message : String)
    (values : Failure → List (String × LogValue)) :
    Writes (act.onFailure fun f =>
      (Diary.system base sys).report level source message (values f)) P := by
  intro diary
  obtain ⟨entries, hentries, hP⟩ := h diary
  rw [Act.run_onFailure]
  rcases hact : act diary with ⟨(f | _) | a, diary'⟩
  all_goals
    rw [hact] at hentries hP
    exact ⟨entries, hentries, hP⟩

/-- A call of the system, with what is made of its answer. -/
theorem call {τ : Type} {deed : Deed} {m : StateM σ (Except IoFault τ)}
    {next : Except IoFault τ → Act (Diary σ) α}
    (h : ∀ answer, Writes (next answer) fun later result =>
      P (⟨deed, (answer.map fun _ => ()).mapError fun fault => .failed (.io fault)⟩ :: later)
        result) :
    Writes ((liftM (Diary.noteCall deed m) : Act (Diary σ) (Except IoFault τ)) >>= next) P := by
  intro diary
  obtain ⟨later, hlater, hP⟩ := h (m diary.world).1 (Diary.noteCall deed m diary).2
  rw [Act.run_bind, Act.run_lift]
  refine ⟨_, ?_, hP⟩
  have hnoted : (Diary.noteCall deed m diary).2.entries = diary.entries ++ [⟨deed, _⟩] := rfl
  show (next (m diary.world).1 (Diary.noteCall deed m diary).2).2.entries = _
  rw [hlater, hnoted, List.append_assoc, List.singleton_append]

end Reports

end Writes
end Container.Cleanup
