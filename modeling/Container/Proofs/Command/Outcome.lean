import Container.Proofs.Command.Verdict

set_option autoImplicit false

/-!
# What becomes of a task

A task never breaks down, and its exit code tells what became of it. A container that could not be
created is cleaned up exactly once by the task that would have run it, with the failure that
lies behind, and its program is never started; a container that was created is not cleaned up. Only
a hook that is to blame for a failed creation leads to an exit code of its own, and how the cleanup
goes after that makes no difference to it. Of the steps of a cleanup only the removal of the record
decides on its exit code.

## Main definitions

* `Runner.ExitsWith` — which outcome has which exit code.
* `Runner.Creation` — how the creation of a container ends.
* `Runner.OutcomeLaw` — what becomes of each task.

## Main results

* `Runner.finishes_abandoned` — what becomes of a container that could not be created.
* `Runner.cleaned_run` — what a cleanup comes to.
* `Runner.outcome_law` — every system keeps the law.

## Design

That a container is cleaned up once is said in two ways. The chronicle in which the task ends is
that of the one cleanup, to which only reports of faults are added; and it has one more report with
which a cleanup begins than the chronicle in which the task began. The first says what was done
after the creation failed, and the second that nothing of the kind was done before.
-/

namespace Container

variable {σ : Type}

namespace Runner

/-! ## Exit codes -/

/-- Which outcome of a task has which exit code: a hook that is to blame has one of its own. -/
structure ExitsWith (outcome : Except TaskFault Unit) (code : Nat) : Prop where
  success : code = 0 ↔ outcome = .ok ()
  hook : code = 255 ↔
    ∃ context? label cause, outcome = .error (.failure context? (.hook label cause))
  range : code = 0 ∨ code = 1 ∨ code = 255

/-- The exit code of a success. -/
theorem exitsWith_ok : ExitsWith (.ok ()) 0 where
  success := by simp
  hook := by simp
  range := .inl rfl

/-- A fault for which no hook is to blame. -/
theorem exitsWith_error_one {fault : TaskFault}
    (h : ∀ context? label cause, fault ≠ .failure context? (.hook label cause)) :
    ExitsWith (.error fault) 1 where
  success := by simp
  hook := by simpa using h
  range := .inr (.inl rfl)

/-- The exit code of a fault. -/
theorem exitsWith_error (fault : TaskFault) : ExitsWith (.error fault) fault.exitCode := by
  cases fault with
  | failure context? f =>
    cases f with
    | hook label cause =>
      exact ⟨by simp [TaskFault.exitCode, TaskFault.failure?, Failure.isHook],
        by simp [TaskFault.exitCode, TaskFault.failure?, Failure.isHook], .inr (.inr rfl)⟩
    | _ => exact exitsWith_error_one fun _ _ _ h => by cases h
  | _ => exact exitsWith_error_one fun _ _ _ h => by cases h

/-- An outcome without a hook to blame has one of two exit codes. -/
theorem ExitsWith.zero_or_one {outcome : Except TaskFault Unit} {code : Nat}
    (h : ExitsWith outcome code)
    (hhook : ∀ context? f, outcome = .error (.failure context? f) → f.isHook = false) :
    code = 0 ∨ code = 1 := by
  rcases h.range with hcode | hcode | hcode
  · exact .inl hcode
  · exact .inr hcode
  · obtain ⟨context?, label, cause, houtcome⟩ := h.hook.1 hcode
    cases hhook context? _ houtcome

/-! ## The tasks, written down -/

open Chronicle

section Law

variable (sys : System σ) (env : Environment) (places : Places σ)

/-- What loading a description comes to. -/
def Loads (document : Path) (c : Chronicle σ) (outcome : Except TaskFault Engine)
    (c' : Chronicle σ) : Prop :=
  load (Chronicle.system sys) env document c = (.ok outcome, c')

/-- What creating a container comes to. -/
def Creates (engine : Engine) (privileges : Privileges) (c : Chronicle σ)
    (outcome : Except TaskFault Unit) (c' : Chronicle σ) : Prop :=
  create (Chronicle.system sys) env (Chronicle.places places) engine privileges c =
    (.ok outcome, c')

/-- What starting the program of a container comes to. -/
def Starts (engine : Engine) (c : Chronicle σ) (outcome : Except TaskFault Unit)
    (c' : Chronicle σ) : Prop :=
  within none (engine.start (Chronicle.system sys)) c = (.ok outcome, c')

/-- What a task comes to, with its exit code. -/
def Finishes (task : Task) (c : Chronicle σ) (code : Nat) (c' : Chronicle σ) : Prop :=
  finish (Chronicle.system sys) env (Chronicle.places places) task c = (.ok code, c')

/-- The description that a task is about. -/
def document : Task → Path
  | .create document _ | .start document | .run document _ | .cleanup document _ _ => document

/-- What taking hold of the privileged operations comes to, once it was looked what file the root of
the container is. -/
def Opens (engine : Engine) (privileges : Privileges) (c : Chronicle σ)
    (outcome : Except TaskFault (Privileged (Chronicle σ))) (c' : Chronicle σ) : Prop :=
  openOperations (Chronicle.system sys) env (Chronicle.places places) privileges
    ((Chronicle.system sys).stat engine.config.rootfs c).2 = (.ok outcome, c')

/-- **How the creation of a container ends.** It is looked what file the root of the container is,
the privileged operations are taken hold of, and the container is created with them. In the end the
root of the process has to be that file, if there was one. -/
inductive Creation (engine : Engine) (privileges : Privileges) (c : Chronicle σ) :
    Except TaskFault Unit → Chronicle σ → Prop
  /-- The operations are not to be had. -/
  | unopened {fault : TaskFault} {c' : Chronicle σ}
      (hopen : Opens sys env places engine privileges c (.error fault) c') :
      Creation engine privileges c (.error fault) c'
  /-- The container is not created. -/
  | failed {ops : Privileged (Chronicle σ)} {opened c' : Chronicle σ} {f : Failure}
      (hopen : Opens sys env places engine privileges c (.ok ops) opened)
      (hcreate : engine.create (Chronicle.system sys) ops opened = (.error (.failed f), c')) :
      Creation engine privileges c (.error (.failure none f)) c'
  /-- The root of the process cannot be looked at. -/
  | unknown {ops : Privileged (Chronicle σ)} {opened inside : Chronicle σ} {fault : IoFault}
      (hopen : Opens sys env places engine privileges c (.ok ops) opened)
      (hcreate : engine.create (Chronicle.system sys) ops opened = (.ok (), inside))
      (hroot : (sys.stat "/" inside.world).1 = .error fault) :
      Creation engine privileges c (.error (.rootUnknown fault))
        ((Chronicle.system sys).stat "/" inside).2
  /-- The root of the process is not the file that the root of the container was. -/
  | elsewhere {ops : Privileged (Chronicle σ)} {opened inside : Chronicle σ}
      {before root : FileInfo}
      (hbefore : (sys.stat engine.config.rootfs c.world).1 = .ok before)
      (hopen : Opens sys env places engine privileges c (.ok ops) opened)
      (hcreate : engine.create (Chronicle.system sys) ops opened = (.ok (), inside))
      (hroot : (sys.stat "/" inside.world).1 = .ok root) (hother : root.id ≠ before.id) :
      Creation engine privileges c (.error (.notEntered engine.identity.containerId))
        ((Chronicle.system sys).stat "/" inside).2
  /-- The process is inside the container. -/
  | entered {ops : Privileged (Chronicle σ)} {opened inside : Chronicle σ} {root : FileInfo}
      (hopen : Opens sys env places engine privileges c (.ok ops) opened)
      (hcreate : engine.create (Chronicle.system sys) ops opened = (.ok (), inside))
      (hroot : (sys.stat "/" inside.world).1 = .ok root)
      (hsame : ∀ before, (sys.stat engine.config.rootfs c.world).1 = .ok before →
        root.id = before.id) :
      Creation engine privileges c (.ok ()) ((Chronicle.system sys).stat "/" inside).2

/-- What is reported at the end of a task: its fault, if there is one. -/
def lastEvents : Except TaskFault Unit → List LogEvent
  | .ok () => []
  | .error fault =>
    [⟨.error, .commandLine, "shroud failed", [("error", .text fault.message)]⟩]

/-- What is reported of the cleanup after a failed creation: its own fault, if there is one. -/
def laterEvents : Except TaskFault Unit → List LogEvent
  | .ok () => []
  | .error later =>
    [⟨.error, .commandLine, "cleanup after failed creation", [("error", .text later.message)]⟩]

/-- **What becomes of each task.** The chronicle in which a task ends is always that of its last
part, after which only faults are reported. -/
structure OutcomeLaw : Prop where
  /-- Loading comes to an end, and all it does is to read the description. -/
  loads : ∀ document c, ∃ outcome c₁, Loads sys env document c outcome c₁ ∧
    c₁.deeds = c.deeds ++ [.readFile document]
  /-- If the description cannot be loaded, nothing else is done than to say so, and the exit code is
  one. -/
  unloaded : ∀ task c fault c₁, Loads sys env (document task) c (.error fault) c₁ →
    Finishes sys env places task c 1 (c₁.reported sys (lastEvents (.error fault))) ∧
      (c₁.reported sys (lastEvents (.error fault))).deeds =
        c.deeds ++ .readFile (document task) :: (lastEvents (.error fault)).map .report
  /-- Creating comes to an end, in one of the ways in which it can. It neither begins a cleanup nor
  hands the process over. -/
  creates : ∀ engine privileges c, ∃ outcome c₁,
    Creates sys env places engine privileges c outcome c₁ ∧
    Creation sys env places engine privileges c outcome c₁ ∧
    c₁.cleanups = c.cleanups ∧ c₁.handovers = c.handovers
  /-- Starting comes to an end, begins no cleanup, and no hook is to blame if it fails. -/
  starts : ∀ engine c, ∃ outcome c₁, Starts sys engine c outcome c₁ ∧ c₁.cleanups = c.cleanups ∧
    ∀ context? f, outcome = .error (.failure context? f) → f.isHook = false
  /-- Cleaning up comes to an end. The steps that the container needs are taken, and what they leave
  behind is reported. It begins one cleanup, and hands nothing over. -/
  cleans : ∀ engine fatal? status root c, ∃ answer reached, answer ≠ .error .panicked ∧
    engine.runSteps (Chronicle.system sys)
      (teardown (Chronicle.system sys) (sys.userId c.world).1 ⟨root⟩) (Cleanup.configured engine)
      (c.opened sys engine fatal? status) = (answer, reached) ∧
    cleanup (Chronicle.system sys) engine fatal? status root c =
      (.ok (verdict answer), reached.reported sys (closing answer)) ∧
    (reached.reported sys (closing answer)).cleanups = c.cleanups + 1 ∧
    (reached.reported sys (closing answer)).handovers = c.handovers
  /-- The exit code of a task that only creates tells what became of the creation, and nothing is
  cleaned up or started. -/
  created : ∀ description privileges c engine c₁ outcome c₂,
    Loads sys env description c (.ok engine) c₁ →
    Creates sys env places engine privileges c₁ outcome c₂ →
    ∃ code, ExitsWith outcome code ∧ Finishes sys env places (.create description privileges) c code
      (c₂.reported sys (lastEvents outcome))
  /-- A task that only starts the program does so, and ends with zero or one. -/
  launched : ∀ description c engine c₁ outcome c₂,
    Loads sys env description c (.ok engine) c₁ → Starts sys engine c₁ outcome c₂ →
    ∃ code, (code = 0 ↔ outcome = .ok ()) ∧ (code = 0 ∨ code = 1) ∧
      Finishes sys env places (.start description) c code (c₂.reported sys (lastEvents outcome))
  /-- A task that runs a container starts its program if it was created, and cleans nothing up
  then. -/
  started : ∀ description privileges c engine c₁ c₂ outcome c₃,
    Loads sys env description c (.ok engine) c₁ →
    Creates sys env places engine privileges c₁ (.ok ()) c₂ → Starts sys engine c₂ outcome c₃ →
    ∃ code, (code = 0 ↔ outcome = .ok ()) ∧ (code = 0 ∨ code = 1) ∧
      Finishes sys env places (.run description privileges) c code
        (c₃.reported sys (lastEvents outcome)) ∧
      (c₃.reported sys (lastEvents outcome)).cleanups = c.cleanups
  /-- If the container was not created, for whatever reason, it is cleaned up with the failure that
  lies behind, if there is one, and nothing is started. What is done after that one cleanup is to
  report faults. The exit code tells why the container was not created, whatever the cleanup comes
  to. -/
  abandoned : ∀ description privileges c engine c₁ fault c₂,
    Loads sys env description c (.ok engine) c₁ →
    Creates sys env places engine privileges c₁ (.error fault) c₂ →
    ∃ fatal? later c₃ code,
      (∀ f, fatal? = some f ↔ ∃ context?, fault = .failure context? f) ∧
      cleanup (Chronicle.system sys) engine fatal? (.ofInt 0) Registry.defaultRoot c₂ =
        (.ok later, c₃) ∧
      (∃ done, c₃.deeds = (c₂.opened sys engine fatal? (.ofInt 0)).deeds ++ done ∧
        ∀ d ∈ done, d.IsCleaning) ∧
      ExitsWith (.error fault) code ∧
      Finishes sys env places (.run description privileges) c code
        (c₃.reported sys (laterEvents later ++ lastEvents (.error fault))) ∧
      (c₃.reported sys (laterEvents later ++ lastEvents (.error fault))).cleanups =
        c.cleanups + 1 ∧
      (c₃.reported sys (laterEvents later ++ lastEvents (.error fault))).handovers = c.handovers
  /-- A task that cleans up takes all steps before the one for the record. Its exit code is zero if
  there is no record or it can be removed from what they leave behind, and one if it cannot. -/
  cleaned : ∀ description status root c engine c₁,
    Loads sys env description c (.ok engine) c₁ →
    ∃ later c₂ outcomes reached code,
      cleanup (Chronicle.system sys) engine none status root c₁ = (.ok later, c₂) ∧
      engine.runSteps (Chronicle.system sys)
        (teardown (Chronicle.system sys) (sys.userId c₁.world).1 ⟨root⟩)
        (Cleanup.beforeRecord engine) (c₁.opened sys engine none status) =
          (.ok outcomes, reached) ∧
      (code = 0 ↔ (engine.config.hasRecord = true →
        (engine.runStep (Chronicle.system sys)
          (teardown (Chronicle.system sys) (sys.userId c₁.world).1 ⟨root⟩) .record reached).1 =
            .ok ())) ∧
      (code = 0 ∨ code = 1) ∧
      Finishes sys env places (.cleanup description status root) c code
        (c₂.reported sys (lastEvents later)) ∧
      (c₂.reported sys (lastEvents later)).cleanups = c.cleanups + 1 ∧
      (c₂.reported sys (lastEvents later)).handovers = c.handovers

variable {sys env places}

/-- How a task ends, once it is done with what it was to do. -/
theorem finish_run {task : Task} {c reached : Chronicle σ} {outcome : Except TaskFault Unit}
    (h : perform (Chronicle.system sys) env (Chronicle.places places) task c =
      (.ok outcome, reached)) :
    ∃ code, ExitsWith outcome code ∧
      Finishes sys env places task c code (reached.reported sys (lastEvents outcome)) := by
  have hperform : ExceptT.run
      (perform (Chronicle.system sys) env (Chronicle.places places) task) c =
        (.ok outcome, reached) := h
  unfold Finishes finish
  rw [Act.run_bind, hperform]
  cases outcome with
  | ok _ => exact ⟨0, exitsWith_ok, rfl⟩
  | error fault => exact ⟨fault.exitCode, exitsWith_error fault, rfl⟩

/-- What is reported at the end of a task begins no cleanup and hands nothing over. -/
theorem counts_reported {c : Chronicle σ} {events : List LogEvent}
    (h : ∀ event ∈ events, (Deed.report event).beginsCleanup = false) :
    (c.reported sys events).cleanups = c.cleanups ∧
      (c.reported sys events).handovers = c.handovers := by
  refine ⟨cleanups_eq deeds_reported ?_, handovers_eq deeds_reported ?_⟩
  all_goals
    intro d hd
    obtain ⟨event, hevent, rfl⟩ := List.mem_map.1 hd
  · exact h event hevent
  · rfl

/-- The fault of a task is not the beginning of a cleanup. -/
theorem beginsCleanup_of_mem_lastEvents {outcome : Except TaskFault Unit} {event : LogEvent}
    (h : event ∈ lastEvents outcome) : (Deed.report event).beginsCleanup = false := by
  cases outcome with
  | ok _ => cases h
  | error fault =>
    obtain rfl := List.mem_singleton.1 h
    rfl

/-- Nor is the fault of a cleanup. -/
theorem beginsCleanup_of_mem_laterEvents {later : Except TaskFault Unit} {event : LogEvent}
    (h : event ∈ laterEvents later) : (Deed.report event).beginsCleanup = false := by
  cases later with
  | ok _ => cases h
  | error fault =>
    obtain rfl := List.mem_singleton.1 h
    rfl

/-- What loading comes to. -/
theorem load_run (sys : System σ) (env : Environment) (document : Path) (c : Chronicle σ) :
    ∃ outcome c₁, Loads sys env document c outcome c₁ ∧
      c₁.deeds = c.deeds ++ [.readFile document] := by
  unfold Loads load Description.load
  let read := ((Chronicle.system sys).readFile document c).2
  have hread : read.deeds = c.deeds ++ [.readFile document] := deeds_note _ _ c
  rw [run_bind, run_within, Act.run_bind, Act.run_call]
  rcases ((Chronicle.system sys).readFile document c).1 with fault | content
  · exact ⟨_, read, rfl, hread⟩
  · simp only [mapError_ok]
    cases Description.parse env content with
    | error f => exact ⟨_, read, rfl, hread⟩
    | ok description => exact ⟨_, read, rfl, hread⟩

/-- No hook is to blame if a description cannot be loaded. -/
theorem not_hook_of_loads {document : Path} {c c₁ : Chronicle σ} {fault : TaskFault}
    (h : Loads sys env document c (.error fault) c₁) (context? : Option TaskContext)
    (label : String) (cause : HookFault) : fault ≠ .failure context? (.hook label cause) := by
  let k : Contract σ := ⟨fun _ => True, fun _ => True, fun f => f.isHook = false⟩
  obtain ⟨-, hfails⟩ := load_keeps (k := k) (Contract.admits_of_world fun _ => trivial) env document
    trivial (fun _ hf => hf) c trivial
  unfold Loads load at h
  rw [run_bind, run_within] at h
  rcases hload : Description.load (Chronicle.system sys) env document c with ⟨(f | _) | _, _⟩
  · obtain ⟨f', hf', hhook⟩ := hfails (.failed f) (by rw [hload])
    obtain rfl : f = f' := by cases hf'; rfl
    rw [hload] at h
    rintro rfl
    cases h
    cases hhook
  · rw [hload] at h
    cases h
  · rw [hload] at h
    cases h

/-- Loading does nothing but to read the description. -/
theorem Loads.deeds_eq {document : Path} {c c₁ : Chronicle σ} {outcome : Except TaskFault Engine}
    (h : Loads sys env document c outcome c₁) : c₁.deeds = c.deeds ++ [.readFile document] := by
  obtain ⟨outcome', c', hload, hdeeds⟩ := load_run sys env document c
  obtain ⟨-, rfl⟩ := Prod.mk.inj (h.symm.trans hload)
  exact hdeeds

/-- Loading neither begins a cleanup nor hands the process over. -/
theorem Loads.counts {document : Path} {c c₁ : Chronicle σ} {outcome : Except TaskFault Engine}
    (h : Loads sys env document c outcome c₁) :
    c₁.cleanups = c.cleanups ∧ c₁.handovers = c.handovers := by
  refine ⟨cleanups_eq h.deeds_eq ?_, handovers_eq h.deeds_eq ?_⟩
  all_goals
    intro d hd
    obtain rfl := List.mem_singleton.1 hd
    rfl

/-- Looking where a path leads. -/
theorem fileAt?_run (sys : System σ) (path : Path) (c : Chronicle σ) :
    fileAt? (Chronicle.system sys) path c =
      ((sys.stat path c.world).1.toOption.map (·.id), ((Chronicle.system sys).stat path c).2) := by
  have hstat : ((Chronicle.system sys).stat path c).1 = (sys.stat path c.world).1 := rfl
  unfold fileAt?
  rw [Act.bind_apply, hstat]
  cases (sys.stat path c.world).1 <;> rfl

/-- What looking at the root of the process comes to in the end. -/
theorem checkEntered_cases {engine : Engine} {before? : Option FileId} {inside c₁ : Chronicle σ}
    {outcome : Except TaskFault Unit}
    (h : checkEntered (Chronicle.system sys) engine before? inside = (.ok outcome, c₁)) :
    c₁ = ((Chronicle.system sys).stat "/" inside).2 ∧
      ((∃ fault, (sys.stat "/" inside.world).1 = .error fault ∧
          outcome = .error (.rootUnknown fault)) ∨
        ∃ root, (sys.stat "/" inside.world).1 = .ok root ∧
          (((∀ before, before? = some before → root.id = before) ∧ outcome = .ok ()) ∨
            ∃ before, before? = some before ∧ root.id ≠ before ∧
              outcome = .error (.notEntered engine.identity.containerId))) := by
  unfold checkEntered at h
  rw [run_bind, run_lift] at h
  have hstat : ((Chronicle.system sys).stat "/" inside).1 = (sys.stat "/" inside.world).1 := rfl
  simp only [hstat] at h
  rcases hroot : (sys.stat "/" inside.world).1 with fault | root
  · rw [hroot] at h
    cases h
    exact ⟨rfl, .inl ⟨fault, rfl, rfl⟩⟩
  · rw [hroot] at h
    cases before? with
    | none =>
      cases h
      exact ⟨rfl, .inr ⟨root, rfl, .inl ⟨nofun, rfl⟩⟩⟩
    | some before =>
      simp only at h
      split at h
      · rename_i hsame
        cases h
        exact ⟨rfl, .inr ⟨root, rfl, .inl ⟨fun _ hbefore => hsame.trans (Option.some.inj hbefore),
          rfl⟩⟩⟩
      · rename_i hother
        cases h
        exact ⟨rfl, .inr ⟨root, rfl, .inr ⟨before, rfl, hother, rfl⟩⟩⟩

/-- Creating ends in one of the ways in which it can. -/
theorem Creates.creation {engine : Engine} {privileges : Privileges} {c c₁ : Chronicle σ}
    {outcome : Except TaskFault Unit} (h : Creates sys env places engine privileges c outcome c₁) :
    Creation sys env places engine privileges c outcome c₁ := by
  unfold Creates create at h
  rw [run_bind, run_lift, fileAt?_run] at h
  simp only at h
  rw [run_bind] at h
  rcases hopen : openOperations (Chronicle.system sys) env (Chronicle.places places) privileges
    ((Chronicle.system sys).stat engine.config.rootfs c).2 with ⟨_ | fault | ops, opened⟩
  · rw [hopen] at h
    cases h
  · rw [hopen] at h
    cases h
    exact .unopened hopen
  · rw [hopen] at h
    simp only at h
    rw [run_bind, run_within] at h
    rcases hcreate : engine.create (Chronicle.system sys) ops opened with ⟨(f | _) | ⟨⟩, inside⟩
    · rw [hcreate] at h
      cases h
      exact .failed hopen hcreate
    · rw [hcreate] at h
      cases h
    · rw [hcreate] at h
      obtain ⟨rfl, ⟨fault, hroot, rfl⟩ | ⟨root, hroot, hcases⟩⟩ := checkEntered_cases h
      · exact .unknown hopen hcreate hroot
      · rcases hcases with ⟨hsame, rfl⟩ | ⟨id, hid, hother, rfl⟩
        · exact .entered hopen hcreate hroot fun before hbefore => hsame _ (by rw [hbefore]; rfl)
        · cases hbefore : (sys.stat engine.config.rootfs c.world).1 with
          | error _ =>
            rw [hbefore] at hid
            cases hid
          | ok before =>
            rw [hbefore] at hid
            cases hid
            exact .elsewhere hbefore hopen hcreate hroot hother

/-- What creating comes to. -/
theorem creating_run (sys : System σ) (env : Environment) (places : Places σ) (engine : Engine)
    (privileges : Privileges) (c : Chronicle σ) :
    ∃ outcome c₁, Creates sys env places engine privileges c outcome c₁ ∧
      Creation sys env places engine privileges c outcome c₁ ∧
      c₁.cleanups = c.cleanups ∧ c₁.handovers = c.handovers := by
  let k : Contract σ := ⟨fun _ => True, Deed.IsCreating, fun _ => True⟩
  have hplaces : k.AdmitsPlaces places := ⟨fun _ _ _ => trivial, fun _ _ _ => trivial⟩
  obtain ⟨outcome, c₁, hcreate, hgrows⟩ := create_completes (k := k)
    (Contract.admits_of_world fun _ => trivial) (fun _ => trivial) hplaces (fun _ hd => hd) env
    engine privileges c trivial
  obtain ⟨done, hdeeds, hdone⟩ := hgrows.deeds_eq
  exact ⟨outcome, c₁, hcreate, Creates.creation hcreate,
    cleanups_eq hdeeds fun d hd => (hdone d hd).beginsCleanup,
    handovers_eq hdeeds fun d hd => (hdone d hd).isHandover⟩

/-- Creating neither begins a cleanup nor hands the process over. -/
theorem Creates.counts {engine : Engine} {privileges : Privileges} {c c₁ : Chronicle σ}
    {outcome : Except TaskFault Unit} (h : Creates sys env places engine privileges c outcome c₁) :
    c₁.cleanups = c.cleanups ∧ c₁.handovers = c.handovers := by
  obtain ⟨outcome', c', hcreate, -, hcounts⟩ := creating_run sys env places engine privileges c
  obtain ⟨-, rfl⟩ := Prod.mk.inj (h.symm.trans hcreate)
  exact hcounts

/-- What starting comes to. -/
theorem start_run (sys : System σ) (engine : Engine) (c : Chronicle σ) :
    ∃ outcome c₁, Starts sys engine c outcome c₁ ∧ c₁.cleanups = c.cleanups ∧
      ∀ context? f, outcome = .error (.failure context? f) → f.isHook = false := by
  let k : Contract σ := ⟨fun _ => True, Deed.IsStarting, fun f => f.isHook = false⟩
  obtain ⟨hgrows, hfails⟩ := start_keeps (k := k) (Contract.admits_of_world fun _ => trivial)
    (fun _ hd => hd) (fun _ hf => hf) engine c trivial
  obtain ⟨done, hdeeds, hdone⟩ := hgrows.deeds_eq
  have hcleanups := cleanups_eq hdeeds fun d hd => (hdone d hd).beginsCleanup
  unfold Starts
  rw [run_within]
  rcases hstart : engine.start (Chronicle.system sys) c with ⟨(f | _) | ⟨⟩, c₁⟩
  · rw [hstart] at hfails hcleanups
    obtain ⟨f', hf', hhook⟩ := hfails _ rfl
    obtain rfl : f = f' := by cases hf'; rfl
    refine ⟨_, c₁, rfl, hcleanups, ?_⟩
    rintro _ _ ⟨⟩
    exact hhook
  · rw [hstart] at hfails
    obtain ⟨f, hf, -⟩ := hfails _ rfl
    cases hf
  · rw [hstart] at hcleanups
    exact ⟨_, c₁, rfl, hcleanups, nofun⟩

/-- What comes of starting, with no hook to blame. -/
theorem Starts.facts {engine : Engine} {c c₁ : Chronicle σ} {outcome : Except TaskFault Unit}
    (h : Starts sys engine c outcome c₁) : c₁.cleanups = c.cleanups ∧
      ∀ context? f, outcome = .error (.failure context? f) → f.isHook = false := by
  obtain ⟨outcome', c', hstart, hfacts⟩ := start_run sys engine c
  obtain ⟨houtcome, rfl⟩ := Prod.mk.inj (h.symm.trans hstart)
  obtain rfl := Except.ok.inj houtcome
  exact hfacts

/-- What a task does with the container once it is loaded. -/
def carryOut (sys : System σ) (env : Environment) (places : Places σ) (engine : Engine) :
    Task → TaskAct σ Unit
  | .create _ privileges => create sys env places engine privileges
  | .start _ => within none (engine.start sys)
  | .run _ privileges => do
    match ← attempt (create sys env places engine privileges) with
    | .ok () => within none (engine.start sys)
    | .error fault => abandon sys engine fault
  | .cleanup _ status root => cleanup sys engine none status root

/-- Every task loads the container first. -/
theorem perform_eq (sys : System σ) (env : Environment) (places : Places σ) (task : Task) :
    perform sys env places task = (do
      let engine ← load sys env (document task)
      carryOut sys env places engine task) := by
  cases task <;> rfl

/-- A task whose description cannot be loaded. -/
theorem perform_of_unloaded {task : Task} {c c₁ : Chronicle σ} {fault : TaskFault}
    (h : Loads sys env (document task) c (.error fault) c₁) :
    perform (Chronicle.system sys) env (Chronicle.places places) task c =
      (.ok (.error fault), c₁) := by
  rw [perform_eq, run_bind, h]

/-- A task whose description is loaded. -/
theorem perform_of_loaded {task : Task} {c c₁ : Chronicle σ} {engine : Engine}
    (h : Loads sys env (document task) c (.ok engine) c₁) :
    perform (Chronicle.system sys) env (Chronicle.places places) task c =
      carryOut (Chronicle.system sys) env (Chronicle.places places) engine task c₁ := by
  rw [perform_eq, run_bind, h]

/-- A container that was created is started by the task that runs it. -/
theorem carryOut_of_created {description : Path} {privileges : Privileges} {engine : Engine}
    {c c₁ : Chronicle σ} (h : Creates sys env places engine privileges c (.ok ()) c₁) :
    carryOut (Chronicle.system sys) env (Chronicle.places places) engine
        (.run description privileges) c =
      within none (engine.start (Chronicle.system sys)) c₁ := by
  simp only [carryOut]
  rw [run_bind, run_attempt, h]

/-- A container that was not created is given up by the task that was to run it. -/
theorem carryOut_of_not_created {description : Path} {privileges : Privileges} {engine : Engine}
    {c c₁ : Chronicle σ} {fault : TaskFault}
    (h : Creates sys env places engine privileges c (.error fault) c₁) :
    carryOut (Chronicle.system sys) env (Chronicle.places places) engine
        (.run description privileges) c =
      abandon (Chronicle.system sys) engine fault c₁ := by
  simp only [carryOut]
  rw [run_bind, run_attempt, h]

/-- The fault with which a container is given up is the one that it was given up for. After the
cleanup nothing is done but that its own fault is reported. -/
theorem abandon_run {engine : Engine} {fault : TaskFault} {later : Except TaskFault Unit}
    {c c₁ : Chronicle σ}
    (h : cleanup (Chronicle.system sys) engine fault.failure? (.ofInt 0) Registry.defaultRoot c =
      (.ok later, c₁)) :
    abandon (Chronicle.system sys) engine fault c =
      (.ok (.error fault), c₁.reported sys (laterEvents later)) := by
  unfold abandon
  rw [run_bind, run_attempt, h]
  cases later <;> rfl

/-- The failure that lies behind a fault is the one that it reports. -/
theorem failure?_eq_some_iff {fault : TaskFault} {f : Failure} :
    fault.failure? = some f ↔ ∃ context?, fault = .failure context? f := by
  cases fault <;> simp [TaskFault.failure?, eq_comm]

/-- What a cleanup comes to, and what is done for it. -/
theorem cleaning_facts (sys : System σ) (engine : Engine) (fatal? : Option Failure)
    (status : ExitStatus) (root : Path) (c : Chronicle σ) :
    ∃ answer reached, answer ≠ .error .panicked ∧
      engine.runSteps (Chronicle.system sys)
        (teardown (Chronicle.system sys) (sys.userId c.world).1 ⟨root⟩) (Cleanup.configured engine)
        (c.opened sys engine fatal? status) = (answer, reached) ∧
      cleanup (Chronicle.system sys) engine fatal? status root c =
        (.ok (verdict answer), reached.reported sys (closing answer)) ∧
      Grows .cleaning (c.opened sys engine fatal? status)
        (reached.reported sys (closing answer)) := by
  have hadmits : Contract.anything.Admits sys := Contract.admits_of_world fun _ => trivial
  exact (cleaning_run engine fatal? status c hadmits (fun _ => trivial) (fun _ _ => trivial)
    (fun _ _ => trivial) root trivial).2

/-- A cleanup begins one cleanup. -/
theorem counts_of_grows {engine : Engine} {fatal? : Option Failure} {status : ExitStatus}
    {c c' : Chronicle σ} (h : Grows .cleaning (c.opened sys engine fatal? status) c') :
    c'.cleanups = c.cleanups + 1 ∧ c'.handovers = c.handovers :=
  ⟨h.counts.1.trans counts_opened.1, h.counts.2.trans counts_opened.2⟩

/-- A cleanup is the only one of a task of which neither the deeds before it nor the reports after
it begin another. -/
theorem counts_once {engine : Engine} {fatal? : Option Failure} {status : ExitStatus}
    {c c₁ c₂ : Chronicle σ} {events : List LogEvent}
    (hbefore : c₁.cleanups = c.cleanups ∧ c₁.handovers = c.handovers)
    (hgrows : Grows .cleaning (c₁.opened sys engine fatal? status) c₂)
    (hafter : ∀ event ∈ events, (Deed.report event).beginsCleanup = false) :
    (c₂.reported sys events).cleanups = c.cleanups + 1 ∧
      (c₂.reported sys events).handovers = c.handovers := by
  constructor
  · calc (c₂.reported sys events).cleanups = c₂.cleanups := (counts_reported hafter).1
      _ = c₁.cleanups + 1 := (counts_of_grows hgrows).1
      _ = c.cleanups + 1 := congrArg (· + 1) hbefore.1
  · calc (c₂.reported sys events).handovers = c₂.handovers := (counts_reported hafter).2
      _ = c₁.handovers := (counts_of_grows hgrows).2
      _ = c.handovers := hbefore.2

/-- What becomes of a container that could not be created. -/
theorem finishes_abandoned {description : Path} {privileges : Privileges} {engine : Engine}
    {c c₁ c₂ : Chronicle σ} {fault : TaskFault}
    (hloads : Loads sys env description c (.ok engine) c₁)
    (hcreates : Creates sys env places engine privileges c₁ (.error fault) c₂) :
    ∃ later c₃ code,
      cleanup (Chronicle.system sys) engine fault.failure? (.ofInt 0) Registry.defaultRoot c₂ =
        (.ok later, c₃) ∧
      Grows .cleaning (c₂.opened sys engine fault.failure? (.ofInt 0)) c₃ ∧
      ExitsWith (.error fault) code ∧
      Finishes sys env places (.run description privileges) c code
        (c₃.reported sys (laterEvents later ++ lastEvents (.error fault))) := by
  have hloaded : Loads sys env (document (.run description privileges)) c (.ok engine) c₁ := hloads
  obtain ⟨answer, reached, -, -, hcleanup, hgrows⟩ :=
    cleaning_facts sys engine fault.failure? (.ofInt 0) Registry.defaultRoot c₂
  obtain ⟨code, hexits, hfinish⟩ := finish_run ((perform_of_loaded hloaded).trans
    ((carryOut_of_not_created hcreates).trans (abandon_run hcleanup)))
  rw [← reported_append] at hfinish
  exact ⟨_, _, code, hcleanup, hgrows, hexits, hfinish⟩

/-- A cleanup fails only over the record, and no hook is to blame for that. -/
theorem cleaned_run (sys : System σ) (engine : Engine) (status : ExitStatus) (root : Path)
    (c : Chronicle σ) :
    ∃ later c' outcomes reached,
      cleanup (Chronicle.system sys) engine none status root c = (.ok later, c') ∧
      Grows .cleaning (c.opened sys engine none status) c' ∧
      engine.runSteps (Chronicle.system sys)
        (teardown (Chronicle.system sys) (sys.userId c.world).1 ⟨root⟩)
        (Cleanup.beforeRecord engine) (c.opened sys engine none status) = (.ok outcomes, reached) ∧
      (later = .ok () ↔ (engine.config.hasRecord = true →
        (engine.runStep (Chronicle.system sys)
          (teardown (Chronicle.system sys) (sys.userId c.world).1 ⟨root⟩) .record reached).1 =
            .ok ())) ∧
      ∀ context? f, later = .error (.failure context? f) → f.isHook = false := by
  obtain ⟨answer, ended, -, hsteps, hcleanup, hgrows⟩ :=
    cleaning_facts sys engine none status root c
  obtain ⟨outcomes, reached, hfirst, hverdict⟩ := verdict_steps sys engine (sys.userId c.world).1
    ⟨root⟩ (c.opened sys engine none status)
  rw [hsteps] at hverdict
  refine ⟨_, _, outcomes, reached, hcleanup, hgrows, hfirst, ?_, ?_⟩
  · rcases hverdict with ⟨hremoved, hended⟩ | ⟨f, ⟨hrecord, hremoved⟩, hended⟩
    · exact ⟨fun _ => hremoved, fun _ => hended⟩
    · refine ⟨fun h => ?_, fun h => ?_⟩
      · cases hended.symm.trans h
      · cases hremoved.symm.trans (h hrecord)
  · intro context? f hf
    rcases hverdict with ⟨-, hended⟩ | ⟨f', -, hended⟩
    · cases hended.symm.trans hf
    · cases hended.symm.trans hf
      rfl

/-- **Every system keeps the law**: the exit code of a task tells what became of it, a container is
cleaned up exactly once by the task that could not create it, and started by the task that did.

**Proof sketch.** A task is what `carryOut` does with the container that was loaded (`perform_eq`),
and it ends by reporting its fault (`finish_run`). What each part does is known from its contract:
creating neither begins a cleanup nor hands the process over (`creating_run`), starting begins no
cleanup (`start_run`), and of a cleanup the steps are known one by one (`cleaning_facts`). A
container that is given up keeps its own fault whatever the cleanup comes to (`abandon_run`), and
the exit code of a cleanup depends on the step for the record alone (`cleaned_run`). The counts add
up along these parts, for no report at the end begins a cleanup (`counts_once`). -/
theorem outcome_law (sys : System σ) (env : Environment) (places : Places σ) :
    OutcomeLaw sys env places where
  loads := load_run sys env
  unloaded := by
    intro task c fault c₁ hloads
    obtain ⟨code, hexits, hfinish⟩ := finish_run (perform_of_unloaded hloads)
    have hcode : code = 1 := by
      rcases hexits.range with h | h | h
      · cases hexits.success.1 h
      · exact h
      · obtain ⟨context?, label, cause, hfault⟩ := hexits.hook.1 h
        exact absurd (Except.error.inj hfault) (not_hook_of_loads hloads context? label cause)
    refine ⟨hcode ▸ hfinish, ?_⟩
    rw [deeds_reported, hloads.deeds_eq, List.append_assoc]
    rfl
  creates := creating_run sys env places
  starts := start_run sys
  cleans := by
    intro engine fatal? status root c
    obtain ⟨answer, reached, hanswer, hsteps, hcleanup, hgrows⟩ :=
      cleaning_facts sys engine fatal? status root c
    exact ⟨answer, reached, hanswer, hsteps, hcleanup, counts_of_grows hgrows⟩
  created := by
    intro description privileges c engine c₁ outcome c₂ hloads hcreates
    have hloaded : Loads sys env (document (.create description privileges)) c (.ok engine) c₁ :=
      hloads
    exact finish_run ((perform_of_loaded hloaded).trans hcreates)
  launched := by
    intro description c engine c₁ outcome c₂ hloads hstarts
    have hloaded : Loads sys env (document (.start description)) c (.ok engine) c₁ := hloads
    obtain ⟨code, hexits, hfinish⟩ := finish_run ((perform_of_loaded hloaded).trans hstarts)
    exact ⟨code, hexits.success, hexits.zero_or_one hstarts.facts.2, hfinish⟩
  started := by
    intro description privileges c engine c₁ c₂ outcome c₃ hloads hcreates hstarts
    have hloaded : Loads sys env (document (.run description privileges)) c (.ok engine) c₁ :=
      hloads
    obtain ⟨code, hexits, hfinish⟩ := finish_run
      ((perform_of_loaded hloaded).trans ((carryOut_of_created hcreates).trans hstarts))
    refine ⟨code, hexits.success, hexits.zero_or_one hstarts.facts.2, hfinish, ?_⟩
    calc (c₃.reported sys (lastEvents outcome)).cleanups = c₃.cleanups :=
          (counts_reported fun _ => beginsCleanup_of_mem_lastEvents).1
      _ = c₂.cleanups := hstarts.facts.1
      _ = c₁.cleanups := hcreates.counts.1
      _ = c.cleanups := hloads.counts.1
  abandoned := by
    intro description privileges c engine c₁ fault c₂ hloads hcreates
    obtain ⟨later, c₃, code, hcleanup, hgrows, hexits, hfinish⟩ :=
      finishes_abandoned hloads hcreates
    have hquiet : ∀ event ∈ laterEvents later ++ lastEvents (.error fault),
        (Deed.report event).beginsCleanup = false := by
      intro event hevent
      rcases List.mem_append.1 hevent with h | h
      · exact beginsCleanup_of_mem_laterEvents h
      · exact beginsCleanup_of_mem_lastEvents h
    obtain ⟨hcleanups, hhandovers⟩ := counts_once
      ⟨hcreates.counts.1.trans hloads.counts.1, hcreates.counts.2.trans hloads.counts.2⟩
      hgrows hquiet
    exact ⟨fault.failure?, later, c₃, code, fun _ => failure?_eq_some_iff, hcleanup,
      hgrows.deeds_eq, hexits, hfinish, hcleanups, hhandovers⟩
  cleaned := by
    intro description status root c engine c₁ hloads
    have hloaded : Loads sys env (document (.cleanup description status root)) c (.ok engine) c₁ :=
      hloads
    obtain ⟨later, c₂, outcomes, reached, hcleanup, hgrows, hfirst, hlater, hhook⟩ :=
      cleaned_run sys engine status root c₁
    obtain ⟨code, hexits, hfinish⟩ := finish_run ((perform_of_loaded hloaded).trans hcleanup)
    obtain ⟨hcleanups, hhandovers⟩ :=
      counts_once hloads.counts hgrows fun _ => beginsCleanup_of_mem_lastEvents
    exact ⟨later, c₂, outcomes, reached, code, hcleanup, hfirst, hexits.success.trans hlater,
      hexits.zero_or_one hhook, hfinish, hcleanups, hhandovers⟩

end Law

end Runner
end Container
