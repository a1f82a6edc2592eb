import Container.Proofs.Cleanup.Order
import Container.Proofs.Cleanup.Steps

set_option autoImplicit false

/-!
# What a cleanup does

Cleaning up takes the steps that a container needs in their fixed order, whatever becomes of each;
only where the record of the container cannot be removed the step after it is left out. Every other
failure is reported once and noted, and does nothing to the steps that follow.

## Main definitions

* `Cleanup.Answers.attempted` — the steps that are taken.
* `CleanupRun` — what is known of a cleanup.
* `Cleanup.recorded?` — what a cleanup recorded of a step.

## Main results

* `Cleanup.runSteps_eq` — what a list of steps does.
* `Engine.cleanup_run` — what a cleanup does, and what two cleanups have in common.
-/

namespace Container

namespace Cleanup

/-! ## Lists of steps -/

namespace Answers

variable (answers : Answers) (engine : Engine)

/-- Why a step ends the cleanup, if it does. -/
def abortFault? (step : CleanupStep) : Option Failure :=
  if step.isAbortive then answers.stepFault? engine step else none

/-- The failure that ends a list of steps, with the step that failed. -/
def abort? (steps : List CleanupStep) : Option (CleanupStep × Failure) :=
  steps.findSome? fun step => (answers.abortFault? engine step).map (step, ·)

/-- The steps of a list that are taken: all up to the first whose failure ends the cleanup. -/
def taken : List CleanupStep → List CleanupStep
  | [] => []
  | step :: steps =>
    step :: if (answers.abortFault? engine step).isSome then [] else taken steps

/-- Why the record of the container cannot be removed, where there is one. -/
def recordFault? : Option Failure :=
  if engine.config.hasRecord then answers.stepFault? engine .record else none

/-- The steps of a cleanup that are attempted: all of them, but not the one after the record of
the container where that cannot be removed. -/
def attempted : List CleanupStep :=
  (configured engine).filter fun step =>
    !(step = .crypt && (answers.recordFault? engine).isSome)

/-- What is recorded of a step. -/
def stepOutcome (step : CleanupStep) : StepOutcome := ⟨step, answers.stepFault? engine step⟩

/-- Whether the failure of a step is reported, and the cleanup goes on. -/
def reports (step : CleanupStep) : Bool :=
  !step.isAbortive && (answers.stepFault? engine step).isSome

end Answers

/-- The sections of raised privilege of a list of steps follow one another. -/
def Chained (engine : Engine) : Nat → List CleanupStep → Prop
  | _, [] => True
  | before, step :: steps =>
    sectionsBefore engine step = before ∧ Chained engine (sectionsAfter engine step) steps

section Lists

variable {answers : Answers} {engine : Engine}

/-- Leaving steps out that begin no section leaves the sections as they are. -/
theorem Chained.filter {keep : CleanupStep → Bool} {steps : List CleanupStep} {before : Nat}
    (h : Chained engine before steps)
    (hskip : ∀ step ∈ steps, keep step = false →
      sectionsAfter engine step = sectionsBefore engine step) :
    Chained engine before (steps.filter keep) := by
  induction steps generalizing before with
  | nil => trivial
  | cons step steps ih =>
    obtain ⟨rfl, hrest⟩ := h
    have hskips : ∀ step ∈ steps, keep step = false →
        sectionsAfter engine step = sectionsBefore engine step :=
      fun step hmem => hskip step (by simp [hmem])
    cases hkeep : keep step with
    | true =>
      rw [List.filter_cons_of_pos hkeep]
      exact ⟨rfl, ih hrest hskips⟩
    | false =>
      rw [List.filter_cons_of_neg (by simp [hkeep])]
      rw [hskip step (by simp) hkeep] at hrest
      exact ih hrest hskips

/-- The sections of the steps that a container needs follow one another. -/
theorem chained_configured (engine : Engine) :
    Chained engine 0 (configured engine) := by
  have horder : Chained engine 0 CleanupStep.order := ⟨rfl, rfl, rfl, rfl, rfl, trivial⟩
  rw [← filter_applies]
  refine horder.filter fun step _ hskip => ?_
  cases step with
  | network => simp_all [CleanupStep.applies, sectionsAfter, sectionsBefore, elevatesNetwork]
  | crypt => simp_all [CleanupStep.applies, sectionsAfter]
  | _ => rfl

/-- A report of a failed step is of that step alone. -/
theorem reportsFailure_event (step step' : CleanupStep) (f : Failure) :
    reportsFailure step' ⟨.error, .cleanup, "cleanup step failed",
      [("step", .text step.name), ("error", .shown f.message)]⟩ = decide (step = step') := by
  cases step <;> cases step' <;> simp [reportsFailure, CleanupStep.name]

/-- What the first of some steps does: it makes its calls and reports its failure, unless that
ends the cleanup. -/
theorem runSteps_cons (answers : Answers) (base : System Account) (engine : Engine)
    (step : CleanupStep) (steps : List CleanupStep) (account : Account)
    (haccount : account.sections = sectionsBefore engine step) :
    ∃ events,
      (∀ other, events.countP (reportsFailure other) =
        if answers.reports engine step ∧ step = other then 1 else 0) ∧
      engine.runSteps (answers.system base) answers.teardown (step :: steps) account =
        (match answers.abortFault? engine step with
          | some f => Act.fail (.cleanup step.name f)
          | none => engine.runSteps (answers.system base) answers.teardown steps >>= fun outcomes =>
              pure (answers.stepOutcome engine step :: outcomes) :
          Act Account (List StepOutcome))
        ⟨account.calls ++ answers.calls engine step, account.events ++ events,
          sectionsAfter engine step⟩ := by
  obtain ⟨events, hstep, hevents⟩ := runStep_does answers base engine step account haccount
  -- While a step is taken, no failure of a step is reported.
  have hnone : ∀ other, events.countP (reportsFailure other) = 0 := by
    intro other
    rw [List.countP_eq_zero]
    intro event hevent
    simp [hevents event hevent other]
  rw [Engine.runSteps, Act.run_bind, Act.run_guarded, hstep]
  unfold Answers.abortFault? Answers.reports Answers.stepOutcome
  cases hfault : answers.stepFault? engine step with
  | none =>
    refine ⟨events, fun other => by simp [hnone], ?_⟩
    rw [ite_self]
    rfl
  | some f =>
    cases habortive : step.isAbortive with
    | true => exact ⟨events, fun other => by simp [hnone], rfl⟩
    | false =>
      let report : LogEvent := ⟨.error, .cleanup, "cleanup step failed",
        [("step", .text step.name), ("error", .shown f.message)]⟩
      refine ⟨events ++ [report], ?_, ?_⟩
      · intro other
        simp [hnone, List.countP_cons, reportsFailure_event, report]
      · rw [← List.append_assoc]
        rfl

/-- **What a list of steps does**: it makes the calls of the steps that are taken, and ends with
the failure that ends it or with what became of each.

**Proof sketch.** By induction on the list. Each step starts with as many sections of raised
privilege begun as the one before it left, so what is known of single steps applies; a step that
fails adds one report, unless its failure ends the list. -/
theorem runSteps_eq (answers : Answers) (base : System Account) (engine : Engine)
    {steps : List CleanupStep} {before : Nat} (hchained : Chained engine before steps)
    (account : Account) (haccount : account.sections = before) :
    ∃ account' events,
      engine.runSteps (answers.system base) answers.teardown steps account =
        ((match answers.abort? engine steps with
          | some (step, f) => .error (.failed (.cleanup step.name f))
          | none => .ok (steps.map (answers.stepOutcome engine))), account') ∧
      account'.calls =
        account.calls ++ (answers.taken engine steps).flatMap (answers.calls engine) ∧
      account'.events = account.events ++ events ∧
      ∀ step, events.countP (reportsFailure step) =
        (answers.taken engine steps).countP fun s => answers.reports engine s && s = step := by
  induction steps generalizing before account with
  | nil => exact ⟨account, [], rfl, by simp [Answers.taken], by simp, by simp [Answers.taken]⟩
  | cons step steps ih =>
    obtain ⟨rfl, hchained⟩ := hchained
    obtain ⟨events, hcount, hcons⟩ := runSteps_cons answers base engine step steps account haccount
    rw [hcons]
    unfold Answers.abort? Answers.taken
    rw [List.findSome?_cons]
    cases habort : answers.abortFault? engine step with
    | some f =>
      refine ⟨⟨account.calls ++ answers.calls engine step, account.events ++ events,
        sectionsAfter engine step⟩, events, rfl, by simp, rfl, ?_⟩
      intro other
      rw [hcount]
      by_cases h : answers.reports engine step ∧ step = other <;> simp_all
    | none =>
      obtain ⟨account', events', hrest, hcalls, hlater, hcounts⟩ := ih hchained
        ⟨account.calls ++ answers.calls engine step, account.events ++ events,
          sectionsAfter engine step⟩ rfl
      refine ⟨account', events ++ events', ?_, by simp [hcalls], by simp [hlater], ?_⟩
      · simp only [Act.run_bind, hrest, Option.map_none]
        unfold Answers.abort?
        cases steps.findSome? _ <;> rfl
      · intro other
        rw [List.countP_append, hcount, hcounts]
        simp [List.countP_cons, Nat.add_comm]

end Lists

/-! ## The steps of a cleanup -/

section Attempted

variable {answers answers' : Answers} {engine : Engine}

/-- Steps whose failure ends nothing are all taken, and those that follow them as well. -/
theorem taken_append {steps : List CleanupStep} (h : ∀ step ∈ steps, step.isAbortive = false)
    (later : List CleanupStep) :
    answers.taken engine (steps ++ later) = steps ++ answers.taken engine later := by
  induction steps with
  | nil => rfl
  | cons step steps ih =>
    have hstep := h step (by simp)
    have hsteps := ih fun step hmem => h step (by simp [hmem])
    have hnone : answers.abortFault? engine step = none := by simp [Answers.abortFault?, hstep]
    simp [Answers.taken, hnone, hsteps]

/-- Steps whose failure ends nothing do not end the list. -/
theorem abort?_append {steps : List CleanupStep} (h : ∀ step ∈ steps, step.isAbortive = false)
    (later : List CleanupStep) :
    answers.abort? engine (steps ++ later) = answers.abort? engine later := by
  unfold Answers.abort?
  rw [List.findSome?_append, List.findSome?_eq_none_iff.mpr]
  · rfl
  · intro step hmem
    simp [Answers.abortFault?, h step hmem]

/-- The steps of a cleanup that are taken are those that are attempted. -/
theorem taken_configured :
    answers.taken engine (configured engine) = answers.attempted engine := by
  have hkept : (beforeRecord engine).filter
      (fun step => !(step = .crypt && (answers.recordFault? engine).isSome)) =
        beforeRecord engine := by
    refine List.filter_eq_self.mpr fun step hmem => ?_
    simp [(isAbortive_of_mem_beforeRecord hmem).2]
  unfold Answers.attempted
  rw [configured_eq_append, taken_append fun _ hmem => (isAbortive_of_mem_beforeRecord hmem).1,
    List.filter_append, hkept]
  unfold Answers.recordFault?
  cases hrecord : engine.config.hasRecord <;> cases hcrypt : engine.config.cryptDevice?.isSome <;>
    cases hfault : answers.stepFault? engine .record <;>
    simp [hfault, Answers.taken, Answers.abortFault?, CleanupStep.isAbortive]

/-- A cleanup ends because of the record of the container or not at all. -/
theorem abort?_configured :
    answers.abort? engine (configured engine) =
      (answers.recordFault? engine).map (CleanupStep.record, ·) := by
  rw [configured_eq_append, abort?_append fun _ hmem => (isAbortive_of_mem_beforeRecord hmem).1]
  unfold Answers.recordFault?
  cases hrecord : engine.config.hasRecord <;> cases hcrypt : engine.config.cryptDevice?.isSome <;>
    cases hfault : answers.stepFault? engine .record <;>
    simp [hfault, Answers.abort?, Answers.abortFault?, CleanupStep.isAbortive]

/-- No step is attempted twice. -/
theorem nodup_attempted : (answers.attempted engine).Nodup :=
  (nodup_configured engine).sublist List.filter_sublist

/-- A step is attempted if the container needs it, unless the record cannot be removed before. -/
theorem mem_attempted {step : CleanupStep} :
    step ∈ answers.attempted engine ↔ step.applies engine.config ∧
      (step = .crypt → answers.recordFault? engine = none) := by
  simp only [Answers.attempted, List.mem_filter, mem_configured]
  cases answers.recordFault? engine <;> simp

/-- Where the record can be removed, all steps of a cleanup are attempted. -/
theorem attempted_eq_configured (h : answers.recordFault? engine = none) :
    answers.attempted engine = configured engine := by
  refine List.filter_eq_self.mpr fun step _ => ?_
  simp [h]

/-- Each step that the container needs makes a call. -/
theorem calls_ne_nil {step : CleanupStep} (h : step.applies engine.config) :
    answers.calls engine step ≠ [] := by
  unfold Answers.calls
  cases step with
  | image => simp
  | network =>
    obtain ⟨network, hnetwork⟩ := Option.isSome_iff_exists.mp h
    simp only [hnetwork]
    split <;> simp [Answers.sectionCalls, Answers.attempts]
  | cgroup =>
    obtain ⟨cgroup, hcgroup⟩ := Option.isSome_iff_exists.mp h
    simp [hcgroup, Answers.attempts]
  | record => simp [Answers.attempts]
  | crypt =>
    obtain ⟨device, hdevice⟩ := Option.isSome_iff_exists.mp h
    simp [hdevice, Answers.sectionCalls]

/-- The calls of one step among those of several. -/
theorem filter_flatMap_calls {steps : List CleanupStep} (h : steps.Nodup) (step : CleanupStep) :
    (steps.flatMap (answers.calls engine)).filter (stepOf engine · = step) =
      if step ∈ steps then answers.calls engine step else [] := by
  induction steps with
  | nil => rfl
  | cons first steps ih =>
    obtain ⟨hfirst, hsteps⟩ := List.nodup_cons.mp h
    rw [List.flatMap_cons, List.filter_append, ih hsteps]
    by_cases heq : first = step
    · subst heq
      have hall : (answers.calls engine first).filter (stepOf engine · = first) =
          answers.calls engine first :=
        List.filter_eq_self.mpr fun call hcall => by simp [stepOf_of_mem_calls hcall]
      simp [hall, hfirst]
    · have hnone : (answers.calls engine first).filter (stepOf engine · = step) = [] :=
        List.filter_eq_nil_iff.mpr fun call hcall => by simp [stepOf_of_mem_calls hcall, heq]
      have hmem : step ∈ first :: steps ↔ step ∈ steps := by simp [Ne.symm heq]
      simp [hnone, hmem]

/-- What is recorded of one step among several. -/
theorem find?_stepOutcome (steps : List CleanupStep) (step : CleanupStep) :
    (steps.map (answers.stepOutcome engine)).find? (·.step = step) =
      if step ∈ steps then some (answers.stepOutcome engine step) else none := by
  induction steps with
  | nil => rfl
  | cons first steps ih =>
    rw [List.map_cons, List.find?_cons, ih]
    by_cases heq : first = step
    · simp [Answers.stepOutcome, heq]
    · simp [Answers.stepOutcome, heq, Ne.symm heq]

end Attempted

/-! ## Whole cleanups -/

/-- What a cleanup recorded of a step, if it recorded anything of it. -/
def recorded? (step : CleanupStep) : Except Stop CleanupReport → Option StepOutcome
  | .ok report => report.outcomes.find? (·.step = step)
  | .error _ => none

/-- The calls of a cleanup that belong to a step. -/
def Account.callsOf (engine : Engine) (step : CleanupStep) (account : Account) : List Call :=
  account.calls.filter (stepOf engine · = step)

end Cleanup

open Cleanup

/-- What is known of a cleanup: how it ended, what it called and what it reported. -/
structure CleanupRun (engine : Engine) (answers : Answers) (status : ExitStatus)
    (result : Except Stop CleanupReport) (account : Account) : Prop where
  /-- It makes the calls of the steps that are attempted, one step after the other. -/
  calls : account.calls = (answers.attempted engine).flatMap (answers.calls engine)
  /-- The steps that are attempted are those that make a call. -/
  attempted : ∀ step, step ∈ answers.attempted engine ↔ account.callsOf engine step ≠ []
  /-- If the record of the container cannot be removed, the cleanup fails with the reason. -/
  aborted : ∀ f, answers.recordFault? engine = some f →
    result = .error (.failed (.cleanup "instance" f))
  /-- Otherwise it answers what became of each step that was attempted. -/
  finished : answers.recordFault? engine = none →
    result = .ok ⟨status, (answers.attempted engine).map (answers.stepOutcome engine)⟩
  /-- Each failure of a step other than the record is reported once, and nothing else is reported
  as the failure of a step. -/
  reported : ∀ step, step ≠ .record → account.events.countP (reportsFailure step) =
    if step ∈ answers.attempted engine ∧ (answers.stepFault? engine step).isSome then 1 else 0

namespace Engine

variable {engine : Engine} {answers answers' : Answers}

/-- What a cleanup comes to: it reports how the container ended and takes its steps. -/
theorem run_cleanup (answers : Answers) (base : System Account) (engine : Engine)
    (fatal? : Option Failure) (status : ExitStatus) :
    ∃ account,
      engine.cleanup (answers.system base) answers.teardown fatal? status .start =
        ((match answers.recordFault? engine with
          | some f => .error (.failed (.cleanup "instance" f))
          | none => .ok ⟨status, (answers.attempted engine).map (answers.stepOutcome engine)⟩),
          account) ∧
      account.calls = (answers.attempted engine).flatMap (answers.calls engine) ∧
      ∀ step, account.events.countP (reportsFailure step) =
        (answers.attempted engine).countP fun s => answers.reports engine s && s = step := by
  let begun : LogEvent := ⟨.debug, .cleanup, "cleaning up container",
    [("container", .shown engine.identity.containerId), ("status", .shown status.message)]⟩
  -- What is reported before the first step is no failure of a step.
  obtain ⟨events, hevents, hcleanup⟩ : ∃ events : List LogEvent,
      (∀ step, events.countP (reportsFailure step) = 0) ∧
        engine.cleanup (answers.system base) answers.teardown fatal? status .start =
          (engine.runSteps (answers.system base) answers.teardown (configured engine) >>=
            fun outcomes => pure (⟨status, outcomes⟩ : CleanupReport)) ⟨[], events, 0⟩ := by
    rw [← filter_applies]
    cases fatal? with
    | none => exact ⟨[begun], by simp [begun, reportsFailure], rfl⟩
    | some f =>
      exact ⟨[⟨.warn, .cleanup, "cleaning up after container failure",
        [("error", .shown f.message)]⟩, begun], by simp [begun, reportsFailure], rfl⟩
  obtain ⟨account, later, hsteps, hcalls, hlater, hcount⟩ :=
    runSteps_eq answers base engine (chained_configured engine) ⟨[], events, 0⟩ rfl
  rw [taken_configured] at hcalls hcount
  refine ⟨account, ?_, hcalls, ?_⟩
  · rw [hcleanup, Act.run_bind, hsteps, abort?_configured]
    cases hfault : answers.recordFault? engine with
    | some f => rfl
    | none =>
      rw [attempted_eq_configured hfault]
      rfl
  · intro step
    rw [hlater, List.countP_append, hevents, hcount, Nat.zero_add]

/-- The failures of a step that are reported: one if it was attempted and failed. -/
theorem countP_attempted (engine : Engine) (answers : Answers) {step : CleanupStep}
    (hstep : step ≠ .record) :
    ((answers.attempted engine).countP fun s => answers.reports engine s && s = step) =
      if step ∈ answers.attempted engine ∧ (answers.stepFault? engine step).isSome then 1
      else 0 := by
  have habortive : step.isAbortive = false := by
    cases step with
    | record => contradiction
    | _ => rfl
  have hreports : answers.reports engine step = (answers.stepFault? engine step).isSome := by
    simp [Answers.reports, habortive]
  rw [← hreports]
  cases hfault : answers.reports engine step with
  | false =>
    rw [List.countP_eq_zero.mpr]
    · simp
    · intro s _
      by_cases heq : s = step <;> simp [heq, hfault]
  | true =>
    have hsame : (fun s => answers.reports engine s && decide (s = step)) = (· == step) := by
      funext s
      by_cases heq : s = step <;> simp [heq, hfault]
    rw [hsame, ← List.count_eq_countP, nodup_attempted.count]
    simp

/-- **What is known of a cleanup.** -/
theorem cleanupRun (answers : Answers) (base : System Account) (engine : Engine)
    (fatal? : Option Failure) (status : ExitStatus) :
    let ended := engine.cleanup (answers.system base) answers.teardown fatal? status .start
    CleanupRun engine answers status ended.1 ended.2 := by
  intro ended
  obtain ⟨account, hended, hcalls, hcount⟩ := run_cleanup answers base engine fatal? status
  rw [show ended = _ from hended]
  refine ⟨hcalls, ?_, ?_, ?_, ?_⟩
  · intro step
    rw [Account.callsOf, hcalls, filter_flatMap_calls nodup_attempted]
    by_cases hmem : step ∈ answers.attempted engine
    · simp [hmem, calls_ne_nil (mem_attempted.mp hmem).1]
    · simp [hmem]
  · intro f hfault
    rw [hfault]
  · intro hfault
    rw [hfault]
  · intro step hstep
    rw [hcount, countP_attempted engine answers hstep]

/-- What a cleanup recorded of a step, in terms of whether the step was attempted. -/
theorem recorded?_eq {status : ExitStatus} {result : Except Stop CleanupReport} {account : Account}
    (h : CleanupRun engine answers status result account) (step : CleanupStep) :
    recorded? step result =
      if (answers.recordFault? engine).isNone ∧ step.applies engine.config then
        some (answers.stepOutcome engine step)
      else none := by
  cases hfault : answers.recordFault? engine with
  | some f =>
    rw [h.aborted f hfault]
    simp [recorded?]
  | none =>
    rw [h.finished hfault]
    simp only [recorded?, find?_stepOutcome]
    simp [mem_attempted, hfault]

/-- **Cleaning up**: whatever is answered to its calls, a cleanup attempts the steps that the
container needs, and a cleanup in which only what other steps are answered is different makes the
same calls for a step and records the same of it. The one step that depends on another is the
last, which is not attempted if the record of the container cannot be removed.

**Proof sketch.** What a list of steps does is known by induction on the list (`runSteps_eq`), and
of the steps that the container needs those are taken that are attempted (`taken_configured`); with
the reports before them that is the whole cleanup (`cleanupRun`). The calls of a step and its
failure are read off what that step is answered (`calls_congr`), and the calls of a cleanup that
belong to a step are those of the step if it is attempted (`filter_flatMap_calls`). Whether it is
depends on the container, and for the last step on the record (`mem_attempted`). -/
theorem cleanup_run (engine : Engine) :
    (∀ (answers : Answers) (base : System Account) (fatal? : Option Failure) (status : ExitStatus),
      let ended := engine.cleanup (answers.system base) answers.teardown fatal? status .start
      CleanupRun engine answers status ended.1 ended.2) ∧
    ∀ (answers answers' : Answers) (base base' : System Account) (fatal? fatal'? : Option Failure)
      (status status' : ExitStatus) (step : CleanupStep), Agree engine step answers answers' →
      let ended := engine.cleanup (answers.system base) answers.teardown fatal? status .start
      let ended' := engine.cleanup (answers'.system base') answers'.teardown fatal'? status' .start
      ((step = .crypt → Agree engine .record answers answers') →
        ended.2.callsOf engine step = ended'.2.callsOf engine step) ∧
      (Agree engine .record answers answers' →
        recorded? step ended.1 = recorded? step ended'.1) := by
  refine ⟨fun answers base => cleanupRun answers base engine, ?_⟩
  intro answers answers' base base' fatal? fatal'? status status' step hagree ended ended'
  have hrun : CleanupRun engine answers status ended.1 ended.2 :=
    cleanupRun answers base engine fatal? status
  have hrun' : CleanupRun engine answers' status' ended'.1 ended'.2 :=
    cleanupRun answers' base' engine fatal'? status'
  obtain ⟨hcalls, hfault⟩ := calls_congr hagree
  have hrecord : Agree engine .record answers answers' →
      answers.recordFault? engine = answers'.recordFault? engine := by
    intro h
    unfold Answers.recordFault?
    rw [(calls_congr h).2]
  refine ⟨?_, ?_⟩
  · intro hcrypt
    have hattempted : step ∈ answers.attempted engine ↔ step ∈ answers'.attempted engine := by
      rw [mem_attempted, mem_attempted]
      by_cases heq : step = .crypt
      · rw [hrecord (hcrypt heq)]
      · simp [heq]
    unfold Account.callsOf
    rw [hrun.calls, hrun'.calls, filter_flatMap_calls nodup_attempted,
      filter_flatMap_calls nodup_attempted]
    simp only [hattempted, hcalls]
  · intro h
    rw [recorded?_eq hrun, recorded?_eq hrun', hrecord h]
    unfold Answers.stepOutcome
    rw [hfault]

end Engine
end Container
