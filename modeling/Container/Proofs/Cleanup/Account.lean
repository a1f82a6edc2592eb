import Container.Engine.Cleanup
import Container.Proofs.Act

set_option autoImplicit false

/-!
# Keeping account of a cleanup

To say what cleaning up does, every call that it makes is given an answer beforehand, and the calls
that were made and what was reported are written down. A section of raised privilege is known by
its number, so that its two ends can be answered apart from those of other sections.

## Main definitions

* `Cleanup.Call`, `Cleanup.Answers` — what may be called, and what is answered.
* `Cleanup.Account` — the calls and reports so far.
* `Cleanup.Answers.system`, `Cleanup.Answers.teardown` — those who answer.
* `Cleanup.Does` — what a computation adds to the account, and whether it fails.

## Main results

* `Cleanup.Does.andThen`, `Cleanup.Does.onFailure`, `Cleanup.Does.bracket` — how computations are
  put together.
-/

namespace Container.Cleanup

/-- What may be called when things are given back. -/
inductive Call where
  | examine (path : Path)
  | removeTree (path : Path)
  | removeFile (path : Path)
  /-- The beginning of a section of raised privilege, of which there were so many before. -/
  | raise (section? : Nat)
  /-- The end of that section. -/
  | restore (section? : Nat)
  | deleteNetwork (namespaces : List String)
  | removeCgroup (path : Path)
  | findRecord (containerId kind : String)
  | deleteRecord
  | detach (path : Path)
  | closeDevice (name : String)
  deriving DecidableEq

/-- What is answered: how the image is found and removed, and which of the other calls fail. -/
structure Answers where
  image : Except IoFault FileInfo
  removal : Except IoFault Unit
  fault? : Call → Option Failure

/-- The calls and the reports so far, and how many sections of raised privilege were begun. -/
structure Account where
  calls : List Call
  events : List LogEvent
  sections : Nat

/-- The account of a cleanup that has not begun. -/
def Account.start : Account := ⟨[], [], 0⟩

/-- Whether an event reports that a step failed. -/
def reportsFailure (step : CleanupStep) (event : LogEvent) : Bool :=
  event.level = .error ∧ ("step", .text step.name) ∈ event.values

namespace Answers

variable (answers : Answers)

/-- Answers a call. -/
def answer (call : Call) : Act Account Unit := fun account =>
  let account := { account with calls := account.calls ++ [call] }
  match answers.fault? call with
  | none => (.ok (), account)
  | some f => (.error (.failed f), account)

/-- Writes a call down that is answered otherwise. -/
def note {α : Type} (call : Call) (a : α) : StateM Account α := fun account =>
  (a, { account with calls := account.calls ++ [call] })

/-- A system that answers what is asked of it about the image, and keeps what is reported. -/
def system (base : System Account) : System Account :=
  { base with
    linkStat := fun path => note (.examine path) answers.image
    removeTree := fun path => note (.removeTree path) answers.removal
    removeFile := fun path => note (.removeFile path) answers.removal
    log := fun event account => ((), { account with events := account.events ++ [event] }) }

/-- Raising privilege begins a section, and giving it up ends the one that was begun last. -/
def elevation : Elevation Account where
  raise account :=
    answers.answer (.raise account.sections) { account with sections := account.sections + 1 }
  restore account := answers.answer (.restore (account.sections - 1)) account

/-- Those by whom things are given back. -/
def teardown : Teardown Account where
  elevation := answers.elevation
  deleteNetwork network := answers.answer (.deleteNetwork network.namespaces)
  removeCgroup cgroup := answers.answer (.removeCgroup cgroup.path)
  findRecord containerId kind := do
    answers.answer (.findRecord containerId kind)
    return answers.answer .deleteRecord
  crypt := {
    detach := fun path => answers.answer (.detach path)
    closeDevice := fun name => answers.answer (.closeDevice name) }

end Answers

namespace Answers

variable (answers : Answers)

/-- The calls that are made where some are to be made in order, up to the first that fails. -/
def attempts : List Call → List Call
  | [] => []
  | call :: calls => call :: if (answers.fault? call).isSome then [] else attempts calls

/-- Why that fails: because of the first call that does, or else for a reason that comes last. -/
def firstFault? (calls : List Call) (last? : Option Failure := none) : Option Failure :=
  (calls.findSome? answers.fault?).or last?

/-- The calls of a section of raised privilege in which these are made. -/
def sectionCalls (number : Nat) (calls : List Call) : List Call :=
  .raise number ::
    if (answers.fault? (.raise number)).isSome then [] else calls ++ [.restore number]

/-- Why a section fails: because privilege cannot be raised, or else as the work in it does. -/
def sectionFault? (number : Nat) (fault? : Option Failure) : Option Failure :=
  (answers.fault? (.raise number)).or fault?

end Answers

/-! ## What a computation does -/

/-- The result of a computation that fails with this, or not at all. -/
def outcome : Option Failure → Except Stop Unit
  | none => .ok ()
  | some f => .error (.failed f)

/-- Where `before` sections were begun, a computation makes these calls, fails with this if at all,
and leaves `after` sections begun. It reports no failed step. -/
def Does (before after : Nat) (calls : List Call) (fault? : Option Failure)
    (act : Act Account Unit) : Prop :=
  ∀ account, account.sections = before → ∃ events,
    act account =
      (outcome fault?, ⟨account.calls ++ calls, account.events ++ events, after⟩) ∧
    ∀ event ∈ events, ∀ step, reportsFailure step event = false

namespace Does

variable {before between after : Nat} {calls later : List Call}
  {fault? laterFault? : Option Failure} {act next : Act Account Unit} {answers : Answers}
  {base : System Account}

/-- Nothing. -/
theorem nothing : Does before before [] none (pure ()) := by
  intro account haccount
  exact ⟨[], by simp [outcome, ← haccount], by simp⟩

/-- A failure without a call. -/
theorem fail (f : Failure) : Does before before [] (some f) (Act.fail f) := by
  intro account haccount
  exact ⟨[], by simp [outcome, ← haccount], by simp⟩

/-- A call. -/
theorem answer (call : Call) :
    Does before before [call] (answers.fault? call) (answers.answer call) := by
  intro account haccount
  refine ⟨[], ?_, by simp⟩
  cases hfault : answers.fault? call <;> simp [Answers.answer, hfault, outcome, ← haccount]

/-- A call that is answered otherwise, with what is made of the answer. -/
theorem note {α : Type} {call : Call} {a : α} {rest : α → Act Account Unit}
    (h : Does before after later laterFault? (rest a)) :
    Does before after (call :: later) laterFault? (liftM (Answers.note call a) >>= rest) := by
  intro account haccount
  obtain ⟨events, hrest, hevents⟩ := h ⟨account.calls ++ [call], account.events, before⟩ rfl
  refine ⟨events, ?_, hevents⟩
  rw [Act.run_bind, Act.run_lift, Answers.note, haccount]
  simp only
  rw [hrest]
  simp

/-- A report that is not of a failed step. -/
theorem report (level : Level) (source : LogSource) (message : String)
    (values : List (String × LogValue))
    (h : level ≠ .error ∨ ∀ value, ("step", value) ∉ values) :
    Does before before [] none
      ((answers.system base).report level source message values : StateM _ _) := by
  intro account haccount
  refine ⟨[⟨level, source, message, values⟩], ?_, ?_⟩
  · simp [System.report, Answers.system, outcome, ← haccount]
  · intro event hevent step
    obtain rfl := List.mem_singleton.mp hevent
    rcases h with h | h <;> simp [reportsFailure, h]

/-- One computation after another that goes well. -/
theorem andThen (h : Does before between calls none act)
    (hnext : Does between after later laterFault? next) :
    Does before after (calls ++ later) laterFault? (act >>= fun _ => next) := by
  intro account haccount
  obtain ⟨events, hact, hevents⟩ := h account haccount
  obtain ⟨events', hnext, hevents'⟩ :=
    hnext ⟨account.calls ++ calls, account.events ++ events, between⟩ rfl
  refine ⟨events ++ events', ?_, ?_⟩
  · rw [Act.run_bind, hact]
    show next ⟨_, _, _⟩ = _
    rw [hnext]
    simp
  · intro event hevent
    rcases List.mem_append.mp hevent with hevent | hevent
    · exact hevents event hevent
    · exact hevents' event hevent

/-- Nothing comes after a computation that fails. -/
theorem stop {f : Failure} (h : Does before after calls (some f) act)
    {next : Unit → Act Account Unit} :
    Does before after calls (some f) (act >>= next) := by
  intro account haccount
  obtain ⟨events, hact, hevents⟩ := h account haccount
  exact ⟨events, by rw [Act.run_bind, hact]; rfl, hevents⟩

/-- One call after another, the first with what belongs to it. -/
theorem attempt {call : Call} {last? : Option Failure}
    (h : Does before before [call] (answers.fault? call) act)
    (hnext : Does before before (answers.attempts later) (answers.firstFault? later last?) next) :
    Does before before (answers.attempts (call :: later))
      (answers.firstFault? (call :: later) last?) (act >>= fun _ => next) := by
  unfold Answers.firstFault? at hnext ⊢
  cases hfault : answers.fault? call with
  | none =>
    rw [hfault] at h
    simpa [Answers.attempts, hfault] using h.andThen hnext
  | some f =>
    rw [hfault] at h
    simpa [Answers.attempts, hfault] using h.stop

/-- A failure that is reported, but not as that of a step. -/
theorem onFailure (h : Does before after calls fault? act) (level : Level) (source : LogSource)
    (message : String) (values : Failure → List (String × LogValue))
    (hvalues : level ≠ .error ∨ ∀ f value, ("step", value) ∉ values f) :
    Does before after calls fault?
      (act.onFailure fun f => (answers.system base).report level source message (values f)) := by
  intro account haccount
  obtain ⟨events, hact, hevents⟩ := h account haccount
  cases fault? with
  | none => exact ⟨events, by rw [Act.run_onFailure, hact]; rfl, hevents⟩
  | some f =>
    refine ⟨events ++ [⟨level, source, message, values f⟩], ?_, ?_⟩
    · rw [Act.run_onFailure, hact]
      simp [outcome, System.report, Answers.system]
    · intro event hevent step
      rcases List.mem_append.mp hevent with hevent | hevent
      · exact hevents event hevent step
      · obtain rfl := List.mem_singleton.mp hevent
        rcases hvalues with h | h <;> simp [reportsFailure, h]

/-- Privilege is given up, which is reported where it fails but is no failure. -/
theorem giveUp (answers : Answers) (base : System Account) (number : Nat) :
    Does (number + 1) (number + 1) [.restore number] none
      (Elevation.giveUp (answers.system base) answers.elevation) := by
  intro account haccount
  have hrestore : answers.elevation.restore account = answers.answer (.restore number) account := by
    show answers.answer (.restore (account.sections - 1)) account = _
    rw [haccount, Nat.add_sub_cancel]
  rw [Elevation.giveUp, Act.run_bind, Act.run_guarded, hrestore]
  cases hfault : answers.fault? (.restore number) with
  | none => exact ⟨[], by simp [Answers.answer, hfault, outcome, ← haccount], by simp⟩
  | some f =>
    refine ⟨[⟨.error, .privilege, "failed to drop privileges after privileged section",
      [("error", .shown f.message)]⟩], ?_, ?_⟩
    · simp [Answers.answer, hfault, System.report, Answers.system, outcome, ← haccount]
    · intro event hevent step
      obtain rfl := List.mem_singleton.mp hevent
      simp [reportsFailure]

/-- A section of raised privilege around some work. -/
theorem bracket {number : Nat} (h : Does (number + 1) (number + 1) calls fault? act) :
    Does number (number + 1) (answers.sectionCalls number calls)
      (answers.sectionFault? number fault?)
      (answers.elevation.bracket (answers.system base) act) := by
  intro account haccount
  have hraise : answers.elevation.raise account =
      answers.answer (.raise number) { account with sections := number + 1 } := by
    show answers.answer (.raise account.sections)
      { account with sections := account.sections + 1 } = _
    rw [haccount]
  rw [Elevation.bracket, hraise]
  cases hfault : answers.fault? (.raise number) with
  | some f =>
    refine ⟨[], ?_, by simp⟩
    simp [Answers.answer, hfault, Answers.sectionCalls, Answers.sectionFault?, outcome,
      Elevation.settle]
  | none =>
    let begun : Account := ⟨account.calls ++ [.raise number],
      account.events ++ [⟨.debug, .privilege, "privilege escalated", []⟩], number + 1⟩
    obtain ⟨events, hact, hevents⟩ := h begun rfl
    obtain ⟨events', hgiveUp, hevents'⟩ := giveUp answers base number
      ⟨begun.calls ++ calls, begun.events ++ events, number + 1⟩ rfl
    have hraised : answers.answer (.raise number) { account with sections := number + 1 } =
        (.ok (), ⟨account.calls ++ [.raise number], account.events, number + 1⟩) := by
      simp [Answers.answer, hfault]
    have hreport : (answers.system base).report .debug .privilege "privilege escalated" []
        ⟨account.calls ++ [.raise number], account.events, number + 1⟩ = ((), begun) := rfl
    refine ⟨⟨.debug, .privilege, "privilege escalated", []⟩ :: (events ++ events'), ?_, ?_⟩
    · rw [hraised]
      simp only [hreport, hact, hgiveUp]
      cases fault? <;> simp [Elevation.settle, outcome, Answers.sectionFault?, Answers.sectionCalls,
        hfault, begun]
    · intro event hevent step
      rcases List.mem_cons.mp hevent with rfl | hevent
      · simp [reportsFailure]
      · rcases List.mem_append.mp hevent with hevent | hevent
        · exact hevents event hevent step
        · exact hevents' event hevent step

end Does
end Container.Cleanup
