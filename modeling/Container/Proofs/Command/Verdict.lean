import Container.Proofs.Command.Task

set_option autoImplicit false

/-!
# What the steps of a cleanup come to

A cleanup begins once and hands nothing over. All its steps before the one for the record are taken,
whatever becomes of them, and after that it is the record alone that decides: a cleanup fails where
there is a record that cannot be removed, and nowhere else.

## Main definitions

* `Chronicle.cleanups`, `Chronicle.handovers` — how often a cleanup was begun, and how often the
  process was handed over.

## Main results

* `Engine.runSteps_append` — one list of steps after another.
* `Chronicle.verdict_steps` — what the steps of a cleanup come to.
-/

namespace Container

variable {σ : Type}

/-! ## Counting deeds -/

namespace Chronicle

/-- How often a cleanup was begun. -/
def cleanups (c : Chronicle σ) : Nat := c.deeds.countP Deed.beginsCleanup

/-- Whether a deed hands the process over. -/
def Deed.isHandover : Deed → Bool
  | .execute _ => true
  | _ => false

/-- How often the process was handed over, or was tried to be. -/
def handovers (c : Chronicle σ) : Nat := c.deeds.countP Deed.isHandover

/-- Deeds of which none begins a cleanup do not add to the cleanups. -/
theorem cleanups_eq {c c' : Chronicle σ} {done : List Deed} (h : c'.deeds = c.deeds ++ done)
    (hdone : ∀ d ∈ done, d.beginsCleanup = false) : c'.cleanups = c.cleanups := by
  have hnone : done.countP Deed.beginsCleanup = 0 := by
    rw [List.countP_eq_zero]
    intro d hd
    simp [hdone d hd]
  rw [cleanups, h, List.countP_append, hnone]
  rfl

/-- Deeds of which none hands the process over do not add to the handovers. -/
theorem handovers_eq {c c' : Chronicle σ} {done : List Deed} (h : c'.deeds = c.deeds ++ done)
    (hdone : ∀ d ∈ done, d.isHandover = false) : c'.handovers = c.handovers := by
  have hnone : done.countP Deed.isHandover = 0 := by
    rw [List.countP_eq_zero]
    intro d hd
    simp [hdone d hd]
  rw [handovers, h, List.countP_append, hnone]
  rfl

theorem Deed.IsCreating.beginsCleanup {d : Deed} (h : d.IsCreating) : d.beginsCleanup = false := by
  cases d <;> first | exact h | rfl

theorem Deed.IsCreating.isHandover {d : Deed} (h : d.IsCreating) : d.isHandover = false := by
  cases d <;> first | rfl | exact h.elim

theorem Deed.IsCleaning.beginsCleanup {d : Deed} (h : d.IsCleaning) : d.beginsCleanup = false := by
  cases d <;> first | exact h | rfl

theorem Deed.IsCleaning.isHandover {d : Deed} (h : d.IsCleaning) : d.isHandover = false := by
  cases d <;> first | rfl | exact h.elim

theorem Deed.IsStarting.beginsCleanup {d : Deed} (h : d.IsStarting) : d.beginsCleanup = false := by
  cases d <;> first | exact h | rfl

/-- The opening of a cleanup begins one, and hands nothing over. -/
theorem counts_opened {sys : System σ} {c : Chronicle σ} {engine : Engine}
    {fatal? : Option Failure} {status : ExitStatus} :
    (c.opened sys engine fatal? status).cleanups = c.cleanups + 1 ∧
      (c.opened sys engine fatal? status).handovers = c.handovers := by
  refine ⟨?_, handovers_eq deeds_opened ?_⟩
  · rw [cleanups, deeds_opened, List.countP_append]
    cases fatal? <;> rfl
  · intro d hd
    obtain rfl | hd := List.mem_cons.1 hd
    · rfl
    · obtain ⟨event, -, rfl⟩ := List.mem_map.1 hd
      rfl

end Chronicle

/-! ## The steps of a cleanup -/

/-- One list of steps after another. -/
theorem Engine.runSteps_append (sys : System σ) (teardown : Teardown σ) (engine : Engine)
    (steps later : List CleanupStep) :
    engine.runSteps sys teardown (steps ++ later) = (do
      let outcomes ← engine.runSteps sys teardown steps
      let others ← engine.runSteps sys teardown later
      return outcomes ++ others) := by
  induction steps with
  | nil => simp [runSteps]
  | cons step steps ih =>
    rw [List.cons_append]
    simp only [runSteps, ih, bind_assoc]
    refine bind_congr fun answer => ?_
    cases answer with
    | ok _ => simp
    | error f =>
      cases habortive : step.isAbortive with
      | true => simp [Act.fail]
      | false => simp

namespace Chronicle

/-- Anything may be done. -/
def Contract.anything : Contract σ := ⟨fun _ => True, fun _ => True, fun _ => True⟩

/-- Nothing may be done but to take the steps of a cleanup. -/
def Contract.cleaning : Contract σ := ⟨fun _ => True, Deed.IsCleaning, fun _ => True⟩

/-- The steps of a cleanup neither begin another one nor hand the process over. -/
theorem Grows.counts {c c' : Chronicle σ} (h : Grows .cleaning c c') :
    c'.cleanups = c.cleanups ∧ c'.handovers = c.handovers := by
  obtain ⟨done, hdeeds, hdone⟩ := h.deeds_eq
  exact ⟨cleanups_eq hdeeds fun d hd => (hdone d hd).beginsCleanup,
    handovers_eq hdeeds fun d hd => (hdone d hd).isHandover⟩

section Steps

variable (sys : System σ) (engine : Engine) (user : Nat) (registry : Registry)

/-- A step is taken, or it fails. -/
theorem runStep_cases (step : CleanupStep) (c : Chronicle σ) :
    ((engine.runStep (system sys) (Runner.teardown (system sys) user registry) step c).1 = .ok ()) ∨
      ∃ f, (engine.runStep (system sys) (Runner.teardown (system sys) user registry) step c).1 =
        .error (.failed f) := by
  obtain ⟨-, hfails⟩ := runStep_keeps (k := .anything) (Contract.admits_of_world fun _ => trivial)
    (fun _ _ => trivial) (fun _ => trivial) engine user registry step c trivial
  rcases hrun : (engine.runStep (system sys) (Runner.teardown (system sys) user registry) step c).1
    with stop | ⟨⟩
  · obtain ⟨f, rfl, -⟩ := hfails stop hrun
    exact .inr ⟨f, rfl⟩
  · exact .inl rfl

/-- Steps whose failure ends nothing are all taken. -/
theorem runSteps_completes {steps : List CleanupStep}
    (h : ∀ step ∈ steps, step.isAbortive = false) (c : Chronicle σ) :
    ∃ outcomes reached, engine.runSteps (system sys)
      (Runner.teardown (system sys) user registry) steps c = (.ok outcomes, reached) := by
  induction steps generalizing c with
  | nil => exact ⟨[], c, rfl⟩
  | cons step steps ih =>
    have hstep := h step (List.mem_cons_self ..)
    have hsteps := ih fun other hother => h other (List.mem_cons_of_mem step hother)
    unfold Engine.runSteps
    rw [Act.run_bind, Act.run_guarded]
    rcases hrun : engine.runStep (system sys) (Runner.teardown (system sys) user registry) step c
      with ⟨(f | _) | ⟨⟩, c'⟩
    · obtain ⟨outcomes, reached, hlater⟩ := hsteps ((system sys).report .error .cleanup
        "cleanup step failed" [("step", .text step.name), ("error", .shown f.message)] c').2
      refine ⟨⟨step, some f⟩ :: outcomes, reached, ?_⟩
      simp only [hstep, Bool.false_eq_true, if_false, Act.run_bind, Act.run_lift, hlater,
        Act.run_pure]
    · have hcases := runStep_cases sys engine user registry step c
      rw [hrun] at hcases
      simp at hcases
    · obtain ⟨outcomes, reached, hlater⟩ := hsteps c'
      refine ⟨⟨step, none⟩ :: outcomes, reached, ?_⟩
      simp only [Act.run_bind, hlater, Act.run_pure]

/-- The last steps of a cleanup fail where the record is to be removed and cannot be, and otherwise
they do not. -/
theorem verdict_last (c : Chronicle σ) :
    let removed := (engine.runStep (system sys) (Runner.teardown (system sys) user registry)
      .record c).1
    let ended := verdict (engine.runSteps (system sys) (Runner.teardown (system sys) user registry)
      ((if engine.config.hasRecord then [CleanupStep.record] else []) ++
        if engine.config.cryptDevice?.isSome then [CleanupStep.crypt] else []) c).1
    ((engine.config.hasRecord = true → removed = .ok ()) ∧ ended = .ok ()) ∨
      ∃ f, (engine.config.hasRecord = true ∧ removed = .error (.failed f)) ∧
        ended = .error (.failure none (.cleanup CleanupStep.record.name f)) := by
  let teardown := Runner.teardown (system sys) user registry
  let device := if engine.config.cryptDevice?.isSome then [CleanupStep.crypt] else []
  have hdevice : ∀ c : Chronicle σ, ∃ others last,
      engine.runSteps (system sys) teardown device c = (.ok others, last) := by
    refine runSteps_completes sys engine user registry fun step hstep => ?_
    obtain ⟨-, hstep⟩ := List.mem_ite_nil_right.1 hstep
    obtain rfl := List.mem_singleton.1 hstep
    rfl
  intro removed ended
  cases hrecord : engine.config.hasRecord with
  | false =>
    obtain ⟨others, last, hlater⟩ := hdevice c
    have hended : ended = verdict (engine.runSteps (system sys) teardown device c).1 := by
      simp only [ended, hrecord]
      rfl
    left
    refine ⟨nofun, ?_⟩
    rw [hended, hlater]
    rfl
  | true =>
    have hended : ended =
        verdict (engine.runSteps (system sys) teardown (.record :: device) c).1 := by
      simp only [ended, hrecord]
      rfl
    unfold Engine.runSteps at hended
    rw [Act.run_bind, Act.run_guarded] at hended
    rcases runStep_cases sys engine user registry .record c with hremoved | ⟨f, hremoved⟩
    · left
      refine ⟨fun _ => hremoved, ?_⟩
      rcases hrun : engine.runStep (system sys) teardown .record c with ⟨_ | ⟨⟩, c'⟩
      · rw [hrun] at hremoved
        cases hremoved
      · obtain ⟨others, last, hlater⟩ := hdevice c'
        rw [hended, hrun]
        simp only [Act.run_bind, hlater, Act.run_pure]
        rfl
    · right
      refine ⟨f, ⟨rfl, hremoved⟩, ?_⟩
      rcases hrun : engine.runStep (system sys) teardown .record c with ⟨_ | ⟨⟩, c'⟩
      · rw [hrun] at hremoved
        cases hremoved
        rw [hended, hrun]
        rfl
      · rw [hrun] at hremoved
        cases hremoved

/-- **What the steps of a cleanup come to.** All steps before the one for the record are taken. A
cleanup fails where the record is to be removed and cannot be, and otherwise it does not.

**Proof sketch.** The failure of a step before the record ends nothing, so these steps are taken
whatever becomes of them (`runSteps_completes`), and what the whole list comes to is decided by the
steps from there on (`Cleanup.configured_eq_append`, `Engine.runSteps_append`). Among those it is
the step for the record that counts, for nothing ends with the device (`verdict_last`). -/
theorem verdict_steps (c : Chronicle σ) :
    ∃ outcomes reached,
      engine.runSteps (system sys) (Runner.teardown (system sys) user registry)
        (Cleanup.beforeRecord engine) c = (.ok outcomes, reached) ∧
      (let removed := (engine.runStep (system sys) (Runner.teardown (system sys) user registry)
          .record reached).1
        let ended := verdict (engine.runSteps (system sys)
          (Runner.teardown (system sys) user registry) (Cleanup.configured engine) c).1
        ((engine.config.hasRecord = true → removed = .ok ()) ∧ ended = .ok ()) ∨
          ∃ f, (engine.config.hasRecord = true ∧ removed = .error (.failed f)) ∧
            ended = .error (.failure none (.cleanup CleanupStep.record.name f))) := by
  let teardown := Runner.teardown (system sys) user registry
  let rest := (if engine.config.hasRecord then [CleanupStep.record] else []) ++
    if engine.config.cryptDevice?.isSome then [CleanupStep.crypt] else []
  have hends : ∀ step ∈ Cleanup.beforeRecord engine, step.isAbortive = false :=
    fun _ hstep => (Cleanup.isAbortive_of_mem_beforeRecord hstep).1
  obtain ⟨outcomes, reached, hfirst⟩ := runSteps_completes sys engine user registry hends c
  refine ⟨outcomes, reached, hfirst, ?_⟩
  -- After the first steps it is the rest of them that decides.
  have hrest : (engine.runSteps (system sys) teardown (Cleanup.configured engine) c).1 =
      (engine.runSteps (system sys) teardown rest reached).1.map (outcomes ++ ·) := by
    rw [Cleanup.configured_eq_append, Engine.runSteps_append, Act.run_bind, hfirst]
    exact congrArg Prod.fst (Act.run_map (outcomes ++ ·) _ reached)
  have hverdict : verdict (engine.runSteps (system sys) teardown (Cleanup.configured engine) c).1 =
      verdict (engine.runSteps (system sys) teardown rest reached).1 := by
    rw [hrest]
    rcases (engine.runSteps (system sys) teardown rest reached).1 with (_ | _) | _ <;> rfl
  intro removed ended
  rw [show ended = _ from hverdict]
  exact verdict_last sys engine user registry reached

end Steps

end Chronicle

end Container
