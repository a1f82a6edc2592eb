import Container.Proofs.Creation.RunLaw

set_option autoImplicit false

/-!
# Carrying out a mount plan

The mounts of a plan are asked for one after the other, up to the first required one that fails, and
the failure of that one is reported with the label of its step if it is one of mounting. What
becomes of a mount that the container can do without makes no difference to the other calls or to
the result, and neither does the number that a mount answers with.

## Main definitions

* `MountStep.Passed` — the call of a step, answered in a way after which the next step follows.
* `MountStep.Reports` — how the failure of a required step is reported.
* `MountPlan.Carried` — the calls by which a plan is carried out, and what they come to.
* `MountStep.Alike`, `MountPlan.Agree` — answers between which a plan sees no difference.
* `ApplyRun` — what is known of a plan that was carried out.

## Main results

* `MountPlan.eq_of_agree` — answers that agree lead to the same calls and the same result.
* `MountPlan.apply_run` — what is known of every plan, and with a mount that is passed over
  `MountPlan.apply_run_skipped`.
-/

namespace Container

variable {σ : Type}

/-! ## Steps -/

namespace MountStep

/-- The call of a step, answered in a way after which the next step follows: the mount was made, or
the container can do without it. -/
inductive Passed (step : MountStep) : Ledger.Entry → Prop
  | made (code : Int32) : Passed step (.mount step.request (.ok code))
  | skipped (hoptional : step.required = false) (f : Failure) :
      Passed step (.mount step.request (.error (.failed f)))

/-- How the failure of a required step is reported: one of mounting with the label of the step, and
any other as it is. -/
inductive Reports (step : MountStep) : Failure → Failure → Prop
  | mount {fault reported : MountFault} (hreported : reported = .step step.label fault)
      (hmessage : reported.message = s!"mount {step.label} failed: {fault.message}") :
      Reports step (.mount fault) (.mount reported)
  | other {f : Failure} (hother : ∀ fault, f ≠ .mount fault) : Reports step f f

/-- Two answers between which a step sees no difference: they are both successes, or the same, or
the container can do without the mount anyway. -/
inductive Alike (step : MountStep) : Except Stop Int32 → Except Stop Int32 → Prop
  | made (code code' : Int32) : Alike step (.ok code) (.ok code')
  | same (answer : Except Stop Int32) : Alike step answer answer
  | optional (hoptional : step.required = false) {answer answer' : Except Stop Int32}
      (hanswer : answer ≠ .error .panicked) (hanswer' : answer' ≠ .error .panicked) :
      Alike step answer answer'

variable {step : MountStep} {shell : Path} {entry : Ledger.Entry}

/-- What is made of the failure of a step is how it is reported. -/
theorem reports_blame (step : MountStep) (f : Failure) : step.Reports f (step.blame f) := by
  cases f with
  | mount fault => exact .mount rfl rfl
  | _ => exact .other nofun

/-- Answers between which a step sees no difference come to the same for it. -/
theorem Alike.outcome_eq {answer answer' : Except Stop Int32} (h : step.Alike answer answer') :
    mountOutcome step answer = mountOutcome step answer' := by
  cases h with
  | made => rfl
  | same => rfl
  | optional hoptional hanswer hanswer' =>
    have hok : ∀ answer : Except Stop Int32, answer ≠ .error .panicked →
        mountOutcome step answer = .ok () := by
      rintro ((f | _) | code) hne
      · simp [mountOutcome, hoptional]
      · contradiction
      · rfl
    rw [hok _ hanswer, hok _ hanswer']

/-- The call of a step is for its own mount. -/
theorem exists_answer {outcome : Except Stop Unit}
    (h : (CreationStep.mount step).Answered shell entry outcome) :
    ∃ answer, entry = .mount step.request answer ∧ outcome = mountOutcome step answer := by
  cases h with
  | mount _ answer => exact ⟨answer, rfl, rfl⟩

/-- A step that is passed was answered in a way after which the next one follows. -/
theorem passed_of_answered (h : (CreationStep.mount step).Answered shell entry (.ok ())) :
    step.Passed entry := by
  obtain ⟨(f | _) | code, rfl, houtcome⟩ := exists_answer h
  · cases hrequired : step.required with
    | true => simp [mountOutcome, hrequired] at houtcome
    | false => exact .skipped hrequired f
  · cases houtcome
  · exact .made code

/-- A step that ends a plan is a required one that failed, or something broke down. -/
theorem failed_of_answered {stop : Stop}
    (h : (CreationStep.mount step).Answered shell entry (.error stop)) :
    (∃ f, step.required = true ∧ entry = .mount step.request (.error (.failed f)) ∧
      stop = .failed (step.blame f)) ∨
    entry = .mount step.request (.error .panicked) ∧ stop = .panicked := by
  obtain ⟨(f | _) | code, rfl, houtcome⟩ := exists_answer h
  · cases hrequired : step.required with
    | true =>
      simp only [mountOutcome, hrequired, if_true, Except.error.injEq] at houtcome
      exact .inl ⟨f, rfl, rfl, houtcome⟩
    | false => simp [mountOutcome, hrequired] at houtcome
  · cases houtcome
    exact .inr ⟨rfl, rfl⟩
  · cases houtcome

end MountStep

/-! ## Plans -/

/-- The mounts that were asked for, in order. -/
def Ledger.requests (entries : List Ledger.Entry) : List MountRequest :=
  entries.filterMap fun
    | .mount request _ => some request
    | _ => none

namespace MountPlan

/-- The calls by which a plan is carried out, and what they come to. -/
inductive Carried (plan : MountPlan) : List Ledger.Entry → Except Stop Unit → Prop
  /-- No required step fails, and all steps are taken. -/
  | finished {entries : List Ledger.Entry}
      (hentries : List.Forall₂ MountStep.Passed plan.steps entries) :
      Carried plan entries (.ok ())
  /-- A required step fails. It is the last that is taken, and its failure is reported. -/
  | stopped {before after : List MountStep} {step : MountStep} {early : List Ledger.Entry}
      {f reported : Failure} (hsteps : plan.steps = before ++ step :: after)
      (hearly : List.Forall₂ MountStep.Passed before early) (hrequired : step.required = true)
      (hreported : step.Reports f reported) :
      Carried plan (early ++ [.mount step.request (.error (.failed f))]) (.error (.failed reported))
  /-- A step breaks down, and everything ends there. -/
  | brokeDown {before after : List MountStep} {step : MountStep} {early : List Ledger.Entry}
      (hsteps : plan.steps = before ++ step :: after)
      (hearly : List.Forall₂ MountStep.Passed before early) :
      Carried plan (early ++ [.mount step.request (.error .panicked)]) (.error .panicked)

/-- Where both of two runs come to a step, it sees no difference between what it is answered. -/
def Agree (steps : List MountStep) (entries entries' : List Ledger.Entry) : Prop :=
  ∀ (place : Nat) (step : MountStep) (answer answer' : Except Stop Int32),
    steps[place]? = some step → entries[place]? = some (.mount step.request answer) →
    entries'[place]? = some (.mount step.request answer') → step.Alike answer answer'

variable {plan : MountPlan} {steps : List MountStep} {step : MountStep} {shell : Path}
  {entry entry' : Ledger.Entry} {entries entries' : List Ledger.Entry}
  {result result' : Except Stop Unit}

theorem Agree.tail (h : Agree (step :: steps) (entry :: entries) (entry' :: entries')) :
    Agree steps entries entries' :=
  fun place => h (place + 1)

/-- A run of the steps of a plan carries it out. -/
theorem carried_of_ran (h : Ran shell (plan.steps.map .mount) entries result) :
    Carried plan entries result := by
  rcases h.finished_or_stopped with
    ⟨rfl, hentries⟩ | ⟨before, step, after, early, entry, stop, hsteps, rfl, hearly, hlast, rfl⟩
  · exact .finished (hentries.imp fun _ _ => MountStep.passed_of_answered)
  · have hpassed := hearly.imp fun _ _ => MountStep.passed_of_answered
    rcases MountStep.failed_of_answered hlast with ⟨f, hrequired, rfl, rfl⟩ | ⟨rfl, rfl⟩
    · exact .stopped hsteps hpassed hrequired (step.reports_blame f)
    · exact .brokeDown hsteps hpassed

/-- A plan succeeds exactly if none of its required steps failed and nothing broke down. -/
theorem Carried.ok_iff (h : Carried plan entries result) :
    result = .ok () ↔ ∀ (place : Nat) (step : MountStep) (stop : Stop),
      plan.steps[place]? = some step →
      entries[place]? = some (.mount step.request (.error stop)) →
      step.required = false ∧ stop ≠ .panicked := by
  -- The step that ended a plan has the place at which its call stands.
  have hlast : ∀ {before after : List MountStep} {step : MountStep} {early : List Ledger.Entry}
      {stop : Stop}, plan.steps = before ++ step :: after →
      List.Forall₂ MountStep.Passed before early → plan.steps[before.length]? = some step ∧
        (early ++ [.mount step.request (.error stop)])[before.length]? =
          some (.mount step.request (.error stop)) := by
    intro before after step early stop hsteps hearly
    simp [hsteps, hearly.length_eq]
  cases h with
  | finished hentries =>
    refine iff_of_true rfl fun place step stop hstep hentry => ?_
    have hpassed : step.Passed (.mount step.request (.error stop)) := by
      obtain ⟨hplace, rfl⟩ := List.getElem?_eq_some_iff.mp hstep
      obtain ⟨hplace', hentry⟩ := List.getElem?_eq_some_iff.mp hentry
      rw [← hentry]
      exact hentries.get hplace hplace'
    cases hpassed with
    | skipped hoptional => exact ⟨hoptional, nofun⟩
  | stopped hsteps hearly hrequired =>
    refine iff_of_false nofun fun h => ?_
    obtain ⟨hstep, hentry⟩ := hlast hsteps hearly
    have hoptional := (h _ _ _ hstep hentry).1
    rw [hrequired] at hoptional
    cases hoptional
  | brokeDown hsteps hearly =>
    refine iff_of_false nofun fun h => ?_
    obtain ⟨hstep, hentry⟩ := hlast hsteps hearly
    exact (h _ _ _ hstep hentry).2 rfl

/-- **Answers that agree lead to the same run**: the same mounts are asked for, and they come to the
same.

**Proof sketch.** By induction on the steps. Both runs begin with the first step, which sees no
difference between its two answers; so either both end with it in the same way, or both go on. -/
theorem eq_of_agree (h : Ran shell (steps.map .mount) entries result)
    (h' : Ran shell (steps.map .mount) entries' result') (hagree : Agree steps entries entries') :
    Ledger.requests entries = Ledger.requests entries' ∧ result = result' := by
  induction steps generalizing entries entries' with
  | nil =>
    cases h
    cases h'
    exact ⟨rfl, rfl⟩
  | cons step steps ih =>
    have houtcome : ∀ {answer answer' : Except Stop Int32},
        entries[0]? = some (.mount step.request answer) →
        entries'[0]? = some (.mount step.request answer') →
        mountOutcome step answer = mountOutcome step answer' := fun hentry hentry' =>
      (hagree 0 step _ _ rfl hentry hentry').outcome_eq
    cases h with
    | stopped _ hfirst =>
      obtain ⟨answer, rfl, hstop⟩ := MountStep.exists_answer hfirst
      cases h' with
      | stopped _ hfirst' =>
        obtain ⟨answer', rfl, hstop'⟩ := MountStep.exists_answer hfirst'
        exact ⟨rfl, by rw [hstop, hstop', houtcome rfl rfl]⟩
      | passed hfirst' _ =>
        obtain ⟨answer', rfl, hok'⟩ := MountStep.exists_answer hfirst'
        rw [← houtcome rfl rfl, ← hstop] at hok'
        cases hok'
    | passed hfirst hrest =>
      obtain ⟨answer, rfl, hok⟩ := MountStep.exists_answer hfirst
      cases h' with
      | stopped _ hfirst' =>
        obtain ⟨answer', rfl, hstop'⟩ := MountStep.exists_answer hfirst'
        rw [← houtcome rfl rfl, ← hok] at hstop'
        cases hstop'
      | passed hfirst' hrest' =>
        obtain ⟨answer', rfl, hok'⟩ := MountStep.exists_answer hfirst'
        obtain ⟨hrequests, hresult⟩ := ih hrest hrest' hagree.tail
        refine ⟨?_, hresult⟩
        simpa [Ledger.requests] using hrequests

/-- Carrying a plan out, with the calls written down. -/
def applied (plan : MountPlan) (sys : System σ) (ops : Privileged σ) (world : σ) :
    Except Stop Unit × Ledger σ :=
  plan.apply (Ledger.system .whole sys) (Ledger.operations .whole ops) (.start world)

/-- Carrying a plan out is a run of its steps. -/
theorem applied_ran (plan : MountPlan) (sys : System σ) (ops : Privileged σ) (world : σ)
    (shell : Path) : Ran shell (plan.steps.map .mount) (plan.applied sys ops world).2.entries
      (plan.applied sys ops world).1 := by
  obtain ⟨result, l, entries, hrun, hentries, hran⟩ :=
    CreationStep.forM_ran sys ops shell (plan.steps.map .mount) (.start world)
  unfold applied
  rw [Engine.apply_eq _ shell, hrun]
  rw [show l.entries = entries from hentries]
  exact hran

end MountPlan

/-- What is known of a plan that was carried out, by the calls that were made and what they came
to. -/
structure ApplyRun (plan : MountPlan) (entries : List Ledger.Entry) (result : Except Stop Unit) :
    Prop where
  /-- The steps are taken in order, each once and with its own mount, up to the first required one
  that fails, whose failure is reported. -/
  carried : plan.Carried entries result
  /-- It succeeds exactly if no required step failed and nothing broke down. -/
  ok_iff : result = .ok () ↔ ∀ (place : Nat) (step : MountStep) (stop : Stop),
    plan.steps[place]? = some step →
    entries[place]? = some (.mount step.request (.error stop)) →
    step.required = false ∧ stop ≠ .panicked

/-- **Carrying out a mount plan**: whatever is answered, the steps of a plan are taken in order up
to the first required one that fails. If in two runs every step that both come to is answered alike,
but for the number of a success and for all that befalls a step that the container can do without,
then the same mounts are asked for and the same comes of them.

**Proof sketch.** Carrying a plan out is taking those steps of a creation that are mounts, so it is
a run of them (`MountPlan.applied_ran`). In a run every step but the last was passed, and the last
was passed too or stopped it; with what that means for a mount, the run has carried out the plan
(`carried_of_ran`). Two runs are compared step by step, by induction on the steps: where two answers
agree, what the step makes of them is the same, so both runs stop here or both go on
(`eq_of_agree`). -/
theorem MountPlan.apply_run (plan : MountPlan) (sys : System σ) (ops : Privileged σ) (world : σ) :
    ApplyRun plan (plan.applied sys ops world).2.entries (plan.applied sys ops world).1 ∧
    ∀ {τ : Type} (sys' : System τ) (ops' : Privileged τ) (world' : τ),
      Agree plan.steps (plan.applied sys ops world).2.entries
        (plan.applied sys' ops' world').2.entries →
      Ledger.requests (plan.applied sys ops world).2.entries =
          Ledger.requests (plan.applied sys' ops' world').2.entries ∧
        (plan.applied sys ops world).1 = (plan.applied sys' ops' world').1 := by
  have hran := plan.applied_ran sys ops world Hook.defaultShell
  have hcarried := carried_of_ran hran
  refine ⟨⟨hcarried, hcarried.ok_iff⟩, fun sys' ops' world' hagree => ?_⟩
  exact eq_of_agree hran (plan.applied_ran sys' ops' world' Hook.defaultShell) hagree

/-- Operations without a world, by which every mount is answered in a fixed way. -/
def Privileged.answering (answer : MountRequest → Except Failure Int32) : Privileged Unit where
  mount request := fun _ => ((answer request).mapError .failed, ())
  chroot _ := pure 0
  close := pure ()

/-- A broken channel is passed over where it befalls a mount for temporary files: the mount after it
is asked for all the same, as if the first one had been made. -/
theorem MountPlan.apply_run_skipped :
    let plan : MountPlan := ⟨[(MountStep.bindTree "/tmp" "/tmp" "/final/tmp").optional,
      stagingStep ⟨"/session", "/final"⟩]⟩
    let skipped := plan.applied .willing (.answering fun request =>
      if request.source = "/tmp" then .error (.channel .connectionClosed) else .ok 0) ()
    let made := plan.applied .willing (.answering fun _ => .ok 7) ()
    Agree plan.steps skipped.2.entries made.2.entries ∧
      Ledger.requests made.2.entries = plan.steps.map MountStep.request ∧
      Ledger.requests skipped.2.entries = Ledger.requests made.2.entries ∧
      skipped.1 = made.1 := by
  intro plan skipped made
  have hskipped : skipped.2.entries =
      [.mount ⟨"/tmp", "/final/tmp", "", 20482, ""⟩ (.error (.failed (.channel .connectionClosed))),
        .mount ⟨"/final", "/session", "", 20480, ""⟩ (.ok 0)] := by rfl
  have hagree : Agree plan.steps skipped.2.entries made.2.entries := by
    intro place step answer answer' hstep hentry hentry'
    rw [hskipped] at hentry
    rcases place with _ | _ | place
    · cases hstep
      cases hentry
      cases hentry'
      exact .optional rfl nofun nofun
    · cases hstep
      cases hentry
      cases hentry'
      exact .made 0 7
    · cases hstep
  obtain ⟨-, hsame⟩ := apply_run plan .willing (.answering fun request =>
    if request.source = "/tmp" then .error (.channel .connectionClosed) else .ok 0) ()
  obtain ⟨hrequests, hresult⟩ := hsame .willing (.answering fun _ => .ok 7) () hagree
  exact ⟨hagree, rfl, hrequests, hresult⟩

end Container
