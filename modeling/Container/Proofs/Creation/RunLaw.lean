import Mathlib.Data.List.Forall2
import Container.Proofs.Creation.Course

set_option autoImplicit false

/-!
# What a creation does

A creation that is begun takes the steps of its course up to the first that fails, where a mount
that the container can do without does not count. Each step makes one call, so the calls of a
creation can be read off its course: they are the calls of its first steps, in order, all of them
answered well but perhaps the last one.

## Main definitions

* `CreationStep.Answered` — the call of a step, and what its answer means for the step.
* `Ran` — the calls of a list of steps, and what they come to.
* `CreationRun` — what is known of the calls of a creation that was begun.

## Main results

* `Ran.finished_or_stopped` — where a run ends.
* `Ran.only_at` — what precedes the one step that can make a certain call.
* `CreationStep.forM_ran` — steps that are taken are a run.
* `Engine.create_run` — a creation that is not refused is a run of its course.
-/

namespace Container

variable {σ : Type} {shell : Path}

/-! ## The calls of a step -/

/-- Each step makes one call, and its answer decides what the step comes to. -/
inductive CreationStep.Answered (shell : Path) :
    CreationStep → Ledger.Entry → Except Stop Unit → Prop
  | hook (label script : String) (answer : Except IoFault ExitStatus) :
      Answered shell (.hook label script) (.run (Hook.command shell script) answer)
        (hookOutcome label answer)
  | makeDirs (path : Path) (answer : Except IoFault Unit) :
      Answered shell (.makeDirs path) (.makeDirs path answer)
        (answer.mapError fun fault => .failed (.io fault))
  | mount (step : MountStep) (answer : Except Stop Int32) :
      Answered shell (.mount step) (.mount step.request answer) (mountOutcome step answer)
  | changeDir (path : Path) (answer : Except Errno Unit) :
      Answered shell (.changeDir path) (.changeDir path answer)
        (answer.mapError fun errno => .failed (.chdir path errno))
  | chroot (path : Path) (answer : Except Stop Int32) :
      Answered shell (.chroot path) (.chroot path answer) (answer.map fun _ => ())
  | close (answer : Except Stop Unit) :
      Answered shell .close (.close answer) answer

namespace CreationStep.Answered

variable {step : CreationStep} {entry : Ledger.Entry} {outcome : Except Stop Unit}

/-- A hook that went well was run, and its script ended well. -/
theorem of_hook {label script : String} (h : Answered shell (.hook label script) entry (.ok ())) :
    ∃ status, entry = .run (Hook.command shell script) (.ok status) ∧ status.isSuccess = true := by
  generalize houtcome : (Except.ok () : Except Stop Unit) = outcome at h
  cases h with
  | hook _ _ answer =>
    cases answer with
    | error fault => simp [hookOutcome] at houtcome
    | ok status =>
      cases hstatus : status.isSuccess with
      | false => simp [hookOutcome, hstatus] at houtcome
      | true => exact ⟨status, rfl, hstatus⟩

/-- A required mount that went well was made. -/
theorem of_mount {step : MountStep} (hrequired : step.required = true)
    (h : Answered shell (.mount step) entry (.ok ())) :
    ∃ code, entry = .mount step.request (.ok code) := by
  generalize houtcome : (Except.ok () : Except Stop Unit) = outcome at h
  cases h with
  | mount _ answer =>
    rcases answer with (f | _) | code
    · simp [mountOutcome, hrequired] at houtcome
    · simp [mountOutcome] at houtcome
    · exact ⟨code, rfl⟩

/-- Only hooks run commands. -/
theorem of_run {command : Command} {answer : Except IoFault ExitStatus}
    (h : step.Answered shell (.run command answer) outcome) :
    ∃ label script, step = .hook label script ∧ command = Hook.command shell script := by
  cases h with
  | hook label script => exact ⟨label, script, rfl, rfl⟩

/-- Only one kind of step changes the root. -/
theorem of_chroot {path : Path} {answer : Except Stop Int32}
    (h : step.Answered shell (.chroot path answer) outcome) : step = .chroot path := by
  cases h; rfl

/-- Only one step gives the privileged operations back. -/
theorem of_close {answer : Except Stop Unit}
    (h : step.Answered shell (.close answer) outcome) : step = .close := by
  cases h; rfl

end CreationStep.Answered

/-- Taking a step makes one call, which is the call of the step. -/
theorem CreationStep.perform_answered (sys : System σ) (ops : Privileged σ) (shell : Path)
    (step : CreationStep) (l : Ledger σ) :
    ∃ result l' entry,
      step.perform (Ledger.system .whole sys) (Ledger.operations .whole ops) shell l =
        (result, l') ∧
      l'.entries = l.entries ++ [entry] ∧ step.Answered shell entry result := by
  have hsilent := Ledger.system_isSilent .whole sys
  cases step with
  | hook label script =>
    rw [perform_hook hsilent]
    exact ⟨_, _, _, rfl, rfl, .hook label script _⟩
  | makeDirs path =>
    rw [perform_makeDirs]
    exact ⟨_, _, _, rfl, rfl, .makeDirs path _⟩
  | mount step =>
    rw [perform_mount hsilent]
    exact ⟨_, _, _, rfl, rfl, .mount step _⟩
  | changeDir path =>
    rw [perform_changeDir]
    exact ⟨_, _, _, rfl, rfl, .changeDir path _⟩
  | chroot path =>
    rw [perform_chroot]
    exact ⟨_, _, _, rfl, rfl, .chroot path _⟩
  | close => exact ⟨_, _, _, rfl, rfl, .close _⟩

/-! ## The calls of a list of steps -/

/-- The calls of a list of steps, and what they come to: the steps are taken in order, up to the
first that fails. -/
inductive Ran (shell : Path) : List CreationStep → List Ledger.Entry → Except Stop Unit → Prop
  | finished : Ran shell [] [] (.ok ())
  | stopped {step : CreationStep} {entry : Ledger.Entry} {stop : Stop}
      (rest : List CreationStep) (h : step.Answered shell entry (.error stop)) :
      Ran shell (step :: rest) [entry] (.error stop)
  | passed {step : CreationStep} {entry : Ledger.Entry} {rest : List CreationStep}
      {entries : List Ledger.Entry} {result : Except Stop Unit}
      (h : step.Answered shell entry (.ok ())) (hrest : Ran shell rest entries result) :
      Ran shell (step :: rest) (entry :: entries) result

/-- Steps that are taken are a run. -/
theorem CreationStep.forM_ran (sys : System σ) (ops : Privileged σ) (shell : Path)
    (steps : List CreationStep) (l : Ledger σ) :
    ∃ result l' entries,
      steps.forM (CreationStep.perform (Ledger.system .whole sys)
        (Ledger.operations .whole ops) shell) l = (result, l') ∧
      l'.entries = l.entries ++ entries ∧ Ran shell steps entries result := by
  induction steps generalizing l with
  | nil => exact ⟨.ok (), l, [], rfl, by simp, .finished⟩
  | cons step rest ih =>
    obtain ⟨result, l', entry, hstep, hentry, hanswer⟩ :=
      CreationStep.perform_answered sys ops shell step l
    rw [List.forM_eq_forM, List.forM_cons, Act.run_bind, hstep]
    cases result with
    | error stop => exact ⟨_, l', [entry], rfl, hentry, .stopped rest hanswer⟩
    | ok =>
      obtain ⟨result, l'', entries, hrest, hentries, hran⟩ := ih l'
      refine ⟨result, l'', entry :: entries, hrest, ?_, .passed hanswer hran⟩
      rw [hentries, hentry, List.append_assoc, List.singleton_append]

namespace Ran

variable {steps before after : List CreationStep} {entries early late : List Ledger.Entry}
  {result : Except Stop Unit}

/-- Every call of a run is the call of a step. -/
theorem exists_step (h : Ran shell steps entries result) {entry : Ledger.Entry}
    (hentry : entry ∈ entries) : ∃ step ∈ steps, ∃ outcome, step.Answered shell entry outcome := by
  induction h with
  | finished => simp at hentry
  | @stopped step _ stop rest hstep =>
    rw [List.mem_singleton.mp hentry]
    exact ⟨step, by simp, _, hstep⟩
  | @passed step _ rest _ _ hstep hrest ih =>
    rcases List.mem_cons.mp hentry with rfl | hentry
    · exact ⟨step, by simp, _, hstep⟩
    · obtain ⟨step, hmem, houtcome⟩ := ih hentry
      exact ⟨step, by simp [hmem], houtcome⟩

/-- Every step of a run that went well has made its call, and it was answered well. -/
theorem exists_entry (h : Ran shell steps entries (.ok ())) {step : CreationStep}
    (hstep : step ∈ steps) : ∃ entry ∈ entries, step.Answered shell entry (.ok ()) := by
  induction steps generalizing entries with
  | nil => simp at hstep
  | cons first rest ih =>
    obtain _ | _ | @⟨_, entry, _, entries, _, hfirst, hrest⟩ := h
    rcases List.mem_cons.mp hstep with rfl | hstep
    · exact ⟨entry, by simp, hfirst⟩
    · obtain ⟨later, hmem, hanswered⟩ := ih hrest hstep
      exact ⟨later, by simp [hmem], hanswered⟩

/-- **Where a run ends**: with its last step, if all went well, and else with the first step that
did not. The steps may be those that are made of other things. -/
theorem finished_or_stopped {α : Type} {stepOf : α → CreationStep} {items : List α}
    (h : Ran shell (items.map stepOf) entries result) :
    (result = .ok () ∧
      List.Forall₂ (fun item entry => (stepOf item).Answered shell entry (.ok ())) items entries) ∨
    ∃ before item after early entry stop, items = before ++ item :: after ∧
      entries = early ++ [entry] ∧
      List.Forall₂ (fun item entry => (stepOf item).Answered shell entry (.ok ())) before early ∧
      (stepOf item).Answered shell entry (.error stop) ∧ result = .error stop := by
  induction items generalizing entries with
  | nil =>
    cases h
    exact .inl ⟨rfl, .nil⟩
  | cons item items ih =>
    cases h with
    | stopped _ hfirst => exact .inr ⟨[], item, items, [], _, _, rfl, rfl, .nil, hfirst, rfl⟩
    | passed hfirst hrest =>
      rcases ih hrest with
        ⟨rfl, hall⟩ | ⟨before, last, after, early, entry, stop, rfl, rfl, hearly, hlast, rfl⟩
      · exact .inl ⟨rfl, .cons hfirst hall⟩
      · exact .inr ⟨item :: before, last, after, _ :: early, entry, stop, rfl, rfl,
          .cons hfirst hearly, hlast, rfl⟩

/-- Steps in two parts either stop in the first, or go on with the second when all of the first
went well. -/
theorem split (h : Ran shell (before ++ after) entries result) :
    (∃ stop, Ran shell before entries (.error stop)) ∨
      ∃ early late, entries = early ++ late ∧ Ran shell before early (.ok ()) ∧
        Ran shell after late result := by
  induction before generalizing entries with
  | nil => exact .inr ⟨[], entries, rfl, .finished, h⟩
  | cons first before ih =>
    cases h with
    | stopped _ hfirst => exact .inl ⟨_, .stopped before hfirst⟩
    | passed hfirst hrest =>
      rcases ih hrest with ⟨stop, hstopped⟩ | ⟨early, late, rfl, hearly, hlate⟩
      · exact .inl ⟨stop, .passed hfirst hstopped⟩
      · exact .inr ⟨_ :: early, late, rfl, .passed hfirst hearly, hlate⟩

/-- **What precedes a call that only one step makes**: the steps before it, all of which went
well. Such a call is made once at most. -/
theorem only_at {step : CreationStep} {only : Ledger.Entry → Prop}
    (hother : ∀ other ∈ before ++ after, ∀ entry outcome, other.Answered shell entry outcome →
      ¬ only entry)
    (h : Ran shell (before ++ step :: after) entries result) {entry : Ledger.Entry}
    (hentries : entries = early ++ entry :: late) (hentry : only entry) :
    Ran shell before early (.ok ()) ∧ (∃ outcome, step.Answered shell entry outcome) ∧
      Ran shell (step :: after) (entry :: late) result ∧
      (∀ e ∈ early, ¬ only e) ∧ ∀ e ∈ late, ¬ only e := by
  induction before generalizing entries early with
  | nil =>
    have hafter : ∀ {entries result}, Ran shell after entries result → ∀ e ∈ entries, ¬ only e := by
      intro entries result hran e he
      obtain ⟨other, hmem, outcome, hanswered⟩ := hran.exists_step he
      exact hother other hmem e outcome hanswered
    cases h with
    | stopped _ hstep =>
      cases early with
      | nil =>
        obtain ⟨rfl, rfl⟩ := List.cons.inj hentries
        exact ⟨.finished, ⟨_, hstep⟩, .stopped _ hstep, by simp, by simp⟩
      | cons e early => simp at hentries
    | passed hstep hrest =>
      cases early with
      | nil =>
        obtain ⟨rfl, rfl⟩ := List.cons.inj hentries
        exact ⟨.finished, ⟨_, hstep⟩, .passed hstep hrest, by simp, hafter hrest⟩
      | cons e early =>
        obtain ⟨rfl, rfl⟩ := List.cons.inj hentries
        exact absurd hentry (hafter hrest entry (by simp))
  | cons first before ih =>
    have hfirst : ∀ e outcome, first.Answered shell e outcome → ¬ only e := hother first (by simp)
    have hlater : ∀ other ∈ before ++ after, ∀ entry outcome,
        other.Answered shell entry outcome → ¬ only entry :=
      fun other hmem => hother other (by simp_all)
    cases h with
    | stopped _ hstep =>
      cases early with
      | nil =>
        obtain ⟨rfl, rfl⟩ := List.cons.inj hentries
        exact absurd hentry (hfirst _ _ hstep)
      | cons e early => simp at hentries
    | passed hstep hrest =>
      cases early with
      | nil =>
        obtain ⟨rfl, rfl⟩ := List.cons.inj hentries
        exact absurd hentry (hfirst _ _ hstep)
      | cons e early =>
        obtain ⟨rfl, rfl⟩ := List.cons.inj hentries
        obtain ⟨hbefore, hanswered, hrun, hearly, hlate⟩ := ih hlater hrest rfl
        refine ⟨.passed hstep hbefore, hanswered, hrun, ?_, hlate⟩
        simpa [hfirst _ _ hstep] using hearly

end Ran

/-! ## The calls of a creation -/

/-- What is known of the calls of a creation that was begun with a plan, and of what it came
to. -/
structure CreationRun (engine : Engine) (plan : MountPlan) (entries : List Ledger.Entry)
    (result : Except Stop Unit) : Prop where
  /-- They are the calls of the first steps of its course, up to the first that fails. -/
  ran : Ran engine.shell (engine.course plan) entries result
  /-- No scripts are run but those of two phases. -/
  scripts : ∀ command answer, .run command answer ∈ entries →
    ∃ script ∈ engine.config.recipe.scripts Phase.pre ++ engine.config.recipe.scripts Phase.setup,
      command = Hook.command engine.shell script
  /-- The root is changed once at most, to the session directory, after everything before it
  went well. -/
  entered : ∀ early path answer late, entries = early ++ .chroot path answer :: late →
    path = engine.config.layout.sessionDir ∧
    Ran engine.shell (engine.preparation plan) early (.ok ()) ∧
    ∀ other code, .chroot other code ∉ early ++ late
  /-- Before that every required mount was made and every script ended well. -/
  prepared : ∀ early path answer late, entries = early ++ .chroot path answer :: late →
    (∀ step ∈ plan.steps, step.required = true →
      ∃ code, .mount step.request (.ok code) ∈ early) ∧
    ∀ script ∈ engine.config.recipe.scripts Phase.pre ++ engine.config.recipe.scripts Phase.setup,
      ∃ status, .run (Hook.command engine.shell script) (.ok status) ∈ early ∧
        status.isSuccess = true
  /-- The privileged operations are given back at the very end, after everything went well. -/
  closed : ∀ early answer late, entries = early ++ .close answer :: late →
    late = [] ∧ Ran engine.shell (engine.preparation plan ++
      [.chroot engine.config.layout.sessionDir, .changeDir "/"]) early (.ok ())

namespace Engine

variable {engine : Engine} {plan : MountPlan} {entries : List Ledger.Entry}
  {result : Except Stop Unit}

theorem hook_mem_hookSteps {phase label script : String}
    (h : .hook label script ∈ engine.hookSteps phase) :
    script ∈ engine.config.recipe.scripts phase := by
  simp only [hookSteps, List.mem_map, CreationStep.hook.injEq] at h
  obtain ⟨⟨l, sc⟩, hmem, rfl, rfl⟩ := h
  exact (List.of_mem_zip hmem).2

/-- Every script of a phase is run by a step. -/
theorem exists_hookStep {phase script : String}
    (h : script ∈ engine.config.recipe.scripts phase) :
    ∃ label, .hook label script ∈ engine.hookSteps phase := by
  obtain ⟨i, hi, rfl⟩ := List.getElem_of_mem h
  have hlabel : i < (Hook.labels phase (engine.config.recipe.scripts phase).length).length := by
    simpa using hi
  refine ⟨(Hook.labels phase (engine.config.recipe.scripts phase).length)[i], ?_⟩
  simp only [hookSteps, List.mem_map]
  refine ⟨(_, _), List.mem_iff_getElem.mpr ⟨i, ?_, List.getElem_zip⟩, rfl⟩
  simpa using hi

/-- The preparation neither changes the root nor gives the operations back. -/
theorem not_mem_preparation (step : CreationStep)
    (hstep : step = .close ∨ ∃ path, step = .chroot path) : step ∉ engine.preparation plan := by
  rcases hstep with rfl | ⟨path, rfl⟩ <;>
    simp [preparation, hookSteps, tmpDirSteps]

/-- The course of a creation with the change of the root in its midst. -/
theorem course_eq_chroot : engine.course plan =
    engine.preparation plan ++
      .chroot engine.config.layout.sessionDir :: [.changeDir "/", .close] := rfl

/-- The course of a creation with its last step apart. -/
theorem course_eq_close : engine.course plan =
    (engine.preparation plan ++ [.chroot engine.config.layout.sessionDir, .changeDir "/"]) ++
      [.close] := by
  simp [course]

variable {early late : List Ledger.Entry}

/-- The change of the root comes after the preparation, and comes once. -/
theorem run_before_chroot (h : Ran engine.shell (engine.course plan) entries result) {path : Path}
    {answer : Except Stop Int32} (hentries : entries = early ++ .chroot path answer :: late) :
    path = engine.config.layout.sessionDir ∧
    Ran engine.shell (engine.preparation plan) early (.ok ()) ∧
    ∀ other code, .chroot other code ∉ early ++ late := by
  rw [course_eq_chroot] at h
  have hother : ∀ step ∈ engine.preparation plan ++ [.changeDir "/", .close],
      ∀ entry outcome, step.Answered engine.shell entry outcome →
      ¬ ∃ path answer, entry = .chroot path answer := by
    rintro step hstep _ _ hanswered ⟨path, answer, rfl⟩
    obtain rfl := hanswered.of_chroot
    have hnot : .chroot path ∉ engine.preparation plan :=
      not_mem_preparation (.chroot path) (.inr ⟨path, rfl⟩)
    simp [hnot] at hstep
  obtain ⟨hearly, ⟨outcome, hanswered⟩, -, hnone, hlate⟩ :=
    h.only_at hother hentries ⟨path, answer, rfl⟩
  refine ⟨(CreationStep.chroot.inj hanswered.of_chroot).symm, hearly, fun other code hmem => ?_⟩
  rcases List.mem_append.mp hmem with hmem | hmem
  · exact hnone _ hmem ⟨other, code, rfl⟩
  · exact hlate _ hmem ⟨other, code, rfl⟩

/-- The privileged operations are given back after everything else. -/
theorem run_before_close (h : Ran engine.shell (engine.course plan) entries result)
    {answer : Except Stop Unit} (hentries : entries = early ++ .close answer :: late) :
    late = [] ∧ Ran engine.shell (engine.preparation plan ++
      [.chroot engine.config.layout.sessionDir, .changeDir "/"]) early (.ok ()) := by
  rw [course_eq_close] at h
  have hother : ∀ step ∈ (engine.preparation plan ++
        [.chroot engine.config.layout.sessionDir, .changeDir "/"]) ++ [],
      ∀ entry outcome, step.Answered engine.shell entry outcome →
      ¬ ∃ answer, entry = .close answer := by
    rintro step hstep _ _ hanswered ⟨answer, rfl⟩
    obtain rfl := hanswered.of_close
    have hnot : .close ∉ engine.preparation plan := not_mem_preparation .close (.inl rfl)
    simp [hnot] at hstep
  obtain ⟨hearly, -, hlast, -⟩ := h.only_at hother hentries ⟨answer, rfl⟩
  refine ⟨?_, hearly⟩
  obtain _ | _ | @⟨_, _, _, _, _, _, hrest⟩ := hlast
  · rfl
  · cases hrest; rfl

/-- A preparation that went well has made every required mount and run every script to a good
end. -/
theorem made_by_preparation (h : Ran engine.shell (engine.preparation plan) entries (.ok ())) :
    (∀ step ∈ plan.steps, step.required = true →
      ∃ code, .mount step.request (.ok code) ∈ entries) ∧
    ∀ script ∈ engine.config.recipe.scripts Phase.pre ++ engine.config.recipe.scripts Phase.setup,
      ∃ status, .run (Hook.command engine.shell script) (.ok status) ∈ entries ∧
        status.isSuccess = true := by
  refine ⟨fun step hstep hrequired => ?_, fun script hscript => ?_⟩
  · have hmount : .mount step ∈ engine.preparation plan := by simp [preparation, hstep]
    obtain ⟨entry, hmem, hanswered⟩ := h.exists_entry hmount
    obtain ⟨code, rfl⟩ := hanswered.of_mount hrequired
    exact ⟨code, hmem⟩
  · obtain ⟨label, hstep⟩ : ∃ label, .hook label script ∈ engine.preparation plan := by
      rcases List.mem_append.mp hscript with hpre | hsetup
      · obtain ⟨label, hlabel⟩ := exists_hookStep hpre
        exact ⟨label, by simp [preparation, hlabel]⟩
      · obtain ⟨label, hlabel⟩ := exists_hookStep hsetup
        exact ⟨label, by simp [preparation, hlabel]⟩
    obtain ⟨entry, hmem, hanswered⟩ := h.exists_entry hstep
    obtain ⟨status, rfl, hstatus⟩ := hanswered.of_hook
    exact ⟨status, hmem, hstatus⟩

/-- What is known of the calls of a creation follows from what its course is. -/
theorem creationRun (h : Ran engine.shell (engine.course plan) entries result) :
    CreationRun engine plan entries result where
  ran := h
  scripts command answer hmem := by
    obtain ⟨step, hstep, outcome, hanswered⟩ := h.exists_step hmem
    obtain ⟨label, script, rfl, rfl⟩ := hanswered.of_run
    refine ⟨script, ?_, rfl⟩
    have hhook : .hook label script ∈ engine.hookSteps Phase.pre ∨
        .hook label script ∈ engine.hookSteps Phase.setup := by
      simpa [course, preparation, tmpDirSteps] using hstep
    exact List.mem_append.mpr (hhook.imp hook_mem_hookSteps hook_mem_hookSteps)
  entered early path answer late hentries := run_before_chroot h hentries
  prepared early path answer late hentries :=
    made_by_preparation (run_before_chroot h hentries).2.1
  closed early answer late hentries := run_before_close h hentries

/-- A creation for which there is a reason to refuse it makes no call. Any other is a run of its
course. -/
theorem create_ran (engine : Engine) (sys : System σ) (ops : Privileged σ) (world : σ) :
    let created :=
      engine.create (Ledger.system .whole sys) (Ledger.operations .whole ops) (.start world)
    match engine.refusal? (sys.stat engine.config.rootfs world).1 with
    | some failure => created.1 = .error (.failed failure) ∧ created.2.entries = []
    | none => ∃ plan, MountPlan.forContainer engine.config = .ok plan ∧
        Ran engine.shell (engine.course plan) created.2.entries created.1 := by
  intro created
  have hcreated : created = (engine.checked (Ledger.system .whole sys) >>= fun plan =>
      (engine.course plan).forM (CreationStep.perform (Ledger.system .whole sys)
        (Ledger.operations .whole ops) engine.shell)) (.start world) := by
    rw [← create_eq_course (Ledger.system_isSilent .whole sys)]
  rw [Act.run_bind] at hcreated
  have hchecked := run_checked (Ledger.system .whole sys) engine (.start world)
  have hroot : ((Ledger.system .whole sys).stat engine.config.rootfs (.start world)).1 =
      (sys.stat engine.config.rootfs world).1 := rfl
  have hsilent : (engine.afterCheck (Ledger.system .whole sys) (.start world)).entries = [] := by
    unfold afterCheck
    split <;> rfl
  rw [hroot] at hchecked
  cases hrefusal : engine.refusal? (sys.stat engine.config.rootfs world).1 with
  | some failure =>
    simp only [hrefusal] at hchecked ⊢
    rw [hcreated, hchecked]
    exact ⟨rfl, hsilent⟩
  | none =>
    simp only [hrefusal] at hchecked ⊢
    obtain ⟨plan, hplan, hchecked⟩ := hchecked
    obtain ⟨result, l, entries, hran, hentries, hrun⟩ :=
      CreationStep.forM_ran sys ops engine.shell (engine.course plan)
        (engine.afterCheck (Ledger.system .whole sys) (.start world))
    rw [hchecked] at hcreated
    rw [hsilent, List.nil_append] at hentries
    simp only [hran] at hcreated
    rw [hcreated, hentries]
    exact ⟨plan, hplan, hrun⟩

/-- **The calls of a creation**: a creation for which there is a reason to refuse it fails with
that reason and makes no call. Any other makes the calls of the steps of its course, in order, up
to the first that fails, and fails as that one does.

**Proof sketch.** Where no reason is found, creating is taking the steps of the course one after the
other (`create_eq_course`). Each step makes the one call that belongs to it, and what it comes to is
what the answer means for it; so by induction on the course the calls are a run of it
(`create_ran`). What else is said of them is read off the course (`creationRun`): no scripts are run
but those of two phases, the root is changed once at most and only after all of that went well, and
the operations are given back last. -/
theorem create_run (engine : Engine) (sys : System σ) (ops : Privileged σ) (world : σ) :
    let created :=
      engine.create (Ledger.system .whole sys) (Ledger.operations .whole ops) (.start world)
    match engine.refusal? (sys.stat engine.config.rootfs world).1 with
    | some failure => created.1 = .error (.failed failure) ∧ created.2.entries = []
    | none => ∃ plan, MountPlan.forContainer engine.config = .ok plan ∧
        CreationRun engine plan created.2.entries created.1 := by
  intro created
  have hran := create_ran engine sys ops world
  cases hrefusal : engine.refusal? (sys.stat engine.config.rootfs world).1 with
  | some failure =>
    simp only [hrefusal] at hran ⊢
    exact hran
  | none =>
    simp only [hrefusal] at hran ⊢
    obtain ⟨plan, hplan, hran⟩ := hran
    exact ⟨plan, hplan, creationRun hran⟩

end Engine

end Container
