import Container.Proofs.Cleanup.Order
import Container.Proofs.Command.Parts
import Mathlib.Data.List.Basic

set_option autoImplicit false

/-!
# How tasks run

A task is put together of parts whose failures are faults in some context. This module says what
each way of putting parts together comes to, that creating a container always comes to an end and
neither begins a cleanup nor hands the process over, and what a cleanup comes to step by step.

## Main definitions

* `Chronicle.Completes` — a part of a task that ends with a result or with a fault.
* `Chronicle.reported` — a chronicle after some events are reported.
* `Chronicle.opening`, `Chronicle.closing` — what a cleanup reports before and after its steps.
* `Chronicle.verdict` — what the steps of a cleanup make of it.

## Main results

* `Runner.run_bind`, `Runner.run_within`, `Runner.run_attempt` — how tasks run.
* `Chronicle.create_completes` — creating a container.
* `Chronicle.cleaning_run` — a cleanup.
-/

namespace Container

variable {σ α β : Type}

namespace Runner

/-! ## Running a task -/

@[simp] theorem run_pure (a : α) (s : σ) : (pure a : TaskAct σ α) s = (.ok (.ok a), s) := rfl

@[simp] theorem run_throw (fault : TaskFault) (s : σ) :
    (throw fault : TaskAct σ α) s = (.ok (.error fault), s) := rfl

@[simp] theorem run_lift (m : StateM σ α) (s : σ) :
    (liftM m : TaskAct σ α) s = (.ok (.ok (m s).1), (m s).2) := rfl

theorem run_liftAct (act : Act σ α) (s : σ) :
    (liftM act : TaskAct σ α) s = match act s with
      | (.ok a, s) => (.ok (.ok a), s)
      | (.error stop, s) => (.error stop, s) := by
  refine Eq.trans (Act.run_bind act (fun a => (pure (.ok a) : Act σ (Except TaskFault α))) s) ?_
  rcases act s with ⟨_ | _, _⟩ <;> rfl

/-- One part of a task after another. -/
@[simp] theorem run_bind (task : TaskAct σ α) (next : α → TaskAct σ β) (s : σ) :
    (task >>= next) s = match task s with
      | (.ok (.ok a), s) => next a s
      | (.ok (.error fault), s) => (.ok (.error fault), s)
      | (.error stop, s) => (.error stop, s) := by
  have hrun := Act.run_bind (task : Act σ (Except TaskFault α)) (ExceptT.bindCont next) s
  refine Eq.trans hrun ?_
  rcases (task : Act σ (Except TaskFault α)) s with ⟨_ | _ | _, _⟩ <;> rfl

/-- A part of a task in a context: a failure is a fault in that context. -/
theorem run_within (context? : Option TaskContext) (act : Act σ α) (s : σ) :
    within context? act s = match act s with
      | (.ok a, s) => (.ok (.ok a), s)
      | (.error (.failed f), s) => (.ok (.error (.failure context? f)), s)
      | (.error .panicked, s) => (.error .panicked, s) := by
  unfold within
  rw [run_bind, run_liftAct, Act.run_guarded]
  rcases act s with ⟨(f | _) | a, s'⟩ <;> rfl

/-- A part of a task whose fault is handed over. -/
theorem run_attempt (task : TaskAct σ α) (s : σ) :
    attempt task s = match task s with
      | (.ok outcome, s) => (.ok (.ok outcome), s)
      | (.error stop, s) => (.error stop, s) := by
  have hrun := Act.run_map (Except.ok : _ → Except TaskFault (Except TaskFault α))
    (task : Act σ (Except TaskFault α)) s
  refine Eq.trans hrun ?_
  rcases (task : Act σ (Except TaskFault α)) s with ⟨_ | _, _⟩ <;> rfl

/-- A part of a task in a context succeeds only as it does. -/
theorem eq_ok_of_within {context? : Option TaskContext} {act : Act σ α} {s s' : σ} {a : α}
    (h : within context? act s = (.ok (.ok a), s')) : act s = (.ok a, s') := by
  rw [run_within] at h
  rcases hact : act s with ⟨(f | _) | a', s''⟩
  · rw [hact] at h
    cases h
  · rw [hact] at h
    cases h
  · rw [hact] at h
    cases h
    rfl

/-- Whoever takes hold of the privileged operations gets those of the task. -/
theorem eq_operations {sys : System σ} {env : Environment} {places : Places σ}
    {privileges : Privileges} {ops : Privileged σ} {s s' : σ}
    (h : openOperations sys env places privileges s = (.ok (.ok ops), s')) :
    ops = operations sys places privileges := by
  cases privileges with
  | inProcess =>
    have hopen := eq_ok_of_within h
    unfold Privileged.openInProcess at hopen
    rw [Act.run_bind, Act.run_lift] at hopen
    simp only at hopen
    split at hopen
    · rw [Act.run_bind, Act.run_lift] at hopen
      cases hopen
      rfl
    · cases hopen
  | helper socket? =>
    have hconnected : ∀ {remote : Remote σ} {socket : Path} {s s' : σ},
        Remote.connect sys places.isOpen socket s = (.ok remote, s') →
          remote = ⟨sys.channel, places.isOpen⟩ := by
      intro remote socket s s' hconnect
      unfold Remote.connect at hconnect
      simp only [Act.run_bind, Act.run_lift, Act.run_call] at hconnect
      rcases hanswer : sys.connect socket
        (sys.report .debug .remote "connecting to privileged helper"
          [("socket", .shown socket.display)] s).2 with ⟨_ | _, reached⟩
      · rw [hanswer] at hconnect
        cases hconnect
      · rw [hanswer] at hconnect
        simp only [mapError_ok] at hconnect
        rcases hgreet : Remote.greet ⟨sys.channel, places.isOpen⟩ reached with ⟨_ | _, greeted⟩
        · rw [hgreet] at hconnect
          cases hconnect
        · rw [hgreet] at hconnect
          cases hconnect
          rfl
    unfold openOperations at h
    simp only [run_bind] at h
    rcases hopen : within (some (.connecting (socket?.getD (defaultSocket env))))
      (Remote.connect sys places.isOpen (socket?.getD (defaultSocket env))) s with
      ⟨_ | (_ | remote), opened⟩
    · rw [hopen] at h
      cases h
    · rw [hopen] at h
      cases h
    · rw [hopen] at h
      cases h
      rw [hconnected (eq_ok_of_within hopen)]
      rfl

end Runner

/-! ## Parts that come to an end -/

namespace Chronicle

open Runner

variable {k : Contract σ}

/-- A part of a task keeps a contract and ends with a result or a fault. -/
def Completes (k : Contract σ) (task : TaskAct (Chronicle σ) α) : Prop :=
  ∀ c, k.world c.world → ∃ outcome c', task c = (.ok outcome, c') ∧ Grows k c c'

namespace Completes

theorem pure (a : α) : Completes k (Pure.pure a : TaskAct (Chronicle σ) α) :=
  fun c hc => ⟨.ok a, c, rfl, .refl hc⟩

theorem throw (fault : TaskFault) :
    Completes k (MonadExcept.throw fault : TaskAct (Chronicle σ) α) :=
  fun c hc => ⟨.error fault, c, rfl, .refl hc⟩

theorem lift {m : StateM (Chronicle σ) α} (h : Adds k m) :
    Completes k (liftM m : TaskAct (Chronicle σ) α) :=
  fun c hc => ⟨.ok (m c).1, (m c).2, rfl, h c hc⟩

theorem bind {task : TaskAct (Chronicle σ) α} {next : α → TaskAct (Chronicle σ) β}
    (h : Completes k task) (hnext : ∀ a, Completes k (next a)) : Completes k (task >>= next) := by
  intro c hc
  obtain ⟨outcome, c', hrun, hgrows⟩ := h c hc
  rw [run_bind, hrun]
  cases outcome with
  | error fault => exact ⟨.error fault, c', rfl, hgrows⟩
  | ok a =>
    obtain ⟨outcome, c'', hlater, hlaterGrows⟩ := hnext a c' hgrows.1
    exact ⟨outcome, c'', hlater, hgrows.trans hlaterGrows⟩

theorem within (context? : Option TaskContext) {act : Act (Chronicle σ) α} (h : Keeps k act) :
    Completes k (Runner.within context? act) := by
  intro c hc
  obtain ⟨hgrows, hfails⟩ := h c hc
  rw [run_within]
  rcases hact : act c with ⟨(f | _) | a, c'⟩
  · rw [hact] at hgrows
    exact ⟨.error (.failure context? f), c', rfl, hgrows⟩
  · rw [hact] at hfails
    obtain ⟨f, hf, -⟩ := hfails _ rfl
    cases hf
  · rw [hact] at hgrows
    exact ⟨.ok a, c', rfl, hgrows⟩

end Completes

/-! ## Creating -/

/-- What is done to create a container. -/
def Deed.IsCreating : Deed → Prop
  | .readFile _ | .execute _ => False
  | .report event => (Deed.report event).beginsCleanup = false
  | _ => True

theorem Deed.IsPreparing.isCreating {d : Deed} (h : d.IsPreparing) : d.IsCreating := by
  cases d <;> trivial

/-- Looking whether the process is inside is all that is done for it. -/
theorem checkEntered_completes {sys : System σ} (hk : k.Admits sys) (hother : k.deed .other)
    (engine : Engine) (before? : Option FileId) :
    Completes k (checkEntered (system sys) engine before?) := by
  unfold checkEntered
  refine .bind (.lift (adds_note hk (.stat "/") hother)) fun root => ?_
  split
  · exact .throw _
  · exact .pure ()
  · split
    · exact .pure ()
    · exact .throw _

section Creating

variable {sys : System σ} {places : Places σ} (hk : k.Admits sys)
  (hfailure : ∀ f, k.failure f) (hplaces : k.AdmitsPlaces places)
include hk hfailure hplaces

/-- Taking hold of the privileged operations. -/
theorem openOperations_completes (hdeed : ∀ d : Deed, d.IsPreparing → k.deed d) (env : Environment)
    (privileges : Privileges) :
    Completes k (openOperations (system sys) env (Chronicle.places places) privileges) := by
  cases privileges with
  | inProcess =>
    refine .within none ?_
    unfold Privileged.openInProcess
    refine .bind (keeps_note hk .isAdministrator (hdeed _ trivial)) fun administrator => ?_
    split
    · exact .bind (keeps_modify hplaces.closed _) fun _ => .pure _
    · exact .fail (hfailure _)
  | helper socket? =>
    exact .bind (.within _ (connect_keeps hk hfailure hdeed hplaces _)) fun _ => .pure _

/-- **Creating a container** never begins a cleanup and never hands the process over. -/
theorem create_completes (hdeed : ∀ d : Deed, d.IsCreating → k.deed d) (env : Environment)
    (engine : Engine) (privileges : Privileges) :
    Completes k (create (system sys) env (Chronicle.places places) engine privileges) := by
  have hpreparing : ∀ d : Deed, d.IsPreparing → k.deed d := fun d hd => hdeed d hd.isCreating
  let ops := operations (system sys) (Chronicle.places places) privileges
  have hengine : Keeps k (engine.create (system sys) ops) := by
    rw [Engine.create_eq_prepare]
    refine .bind (prepare_keeps hk hpreparing hfailure
      (fun request => mount_keeps hk hfailure hpreparing privileges request) engine) fun _ => ?_
    refine .bind ?_ fun _ => keeps_report hk (hdeed _ (by rfl))
    have hchangeDir : ∀ path, Keeps k (Engine.changeDir (system sys) path) := fun path =>
      keeps_call hk (.changeDir path) (hdeed _ trivial) fun _ => hfailure _
    unfold Engine.enter
    refine .bind (keeps_report hk (hdeed _ (by rfl))) fun _ => ?_
    refine .bind (hchangeDir _) fun _ => ?_
    refine .bind (keeps_report hk (hdeed _ (by rfl))) fun _ => ?_
    refine .bind (chroot_keeps hk hfailure hpreparing (fun _ => hdeed _ trivial)
      (fun _ => hdeed _ trivial) privileges _) fun _ => ?_
    refine .bind (hchangeDir _) fun _ => ?_
    exact close_keeps hk (fun _ => hfailure _) hpreparing hplaces privileges
  have hentered : ∀ before?, Completes k (do
      Runner.within none (engine.create (system sys) ops)
      checkEntered (system sys) engine before?) := fun before? =>
    .bind (.within none hengine) fun _ =>
      checkEntered_completes hk (hdeed _ trivial) engine before?
  have hbefore : Adds k (fileAt? (system sys) engine.config.rootfs) := by
    unfold fileAt?
    refine .bind (adds_note hk (.stat _) (hdeed _ trivial)) fun info => ?_
    split
    · exact .pure _
    · exact .pure _
  unfold create
  refine .bind (.lift hbefore) fun before? => ?_
  intro c hc
  obtain ⟨outcome, c', hopen, hgrows⟩ :=
    openOperations_completes hk hfailure hplaces hpreparing env privileges c hc
  rw [run_bind, hopen]
  cases outcome with
  | error fault => exact ⟨.error fault, c', rfl, hgrows⟩
  | ok given =>
    obtain rfl := eq_operations hopen
    obtain ⟨outcome, c'', hrun, hlater⟩ := hentered before? c' hgrows.1
    exact ⟨outcome, c'', hrun, hgrows.trans hlater⟩

end Creating

/-! ## Cleaning up -/

/-- What has been done so far. -/
def deeds (c : Chronicle σ) : List Deed := c.entries.map (·.deed)

/-- A deed is written down once. -/
theorem deeds_note (deed : Deed) (call : StateM σ α) (c : Chronicle σ) :
    (note deed call c).2.deeds = c.deeds ++ [deed] := by
  have hentries : (note deed call c).2.entries = c.entries ++ [⟨deed, c.world⟩] := rfl
  rw [deeds, hentries, List.map_append]
  rfl

/-- Whatever a contract does not allow is not added. -/
theorem Grows.deeds_eq {c c' : Chronicle σ} (h : Grows k c c') :
    ∃ added, c'.deeds = c.deeds ++ added ∧ ∀ d ∈ added, k.deed d := by
  obtain ⟨-, added, hentries, hadded⟩ := h
  refine ⟨added.map (·.deed), ?_, ?_⟩
  · rw [deeds, hentries, List.map_append]
    rfl
  · intro d hd
    obtain ⟨e, he, rfl⟩ := List.mem_map.1 hd
    exact (hadded e he).1

/-- The chronicle after some events are reported, one after another. -/
def reported (sys : System σ) (c : Chronicle σ) (events : List LogEvent) : Chronicle σ :=
  events.foldl (fun c event => ((system sys).log event c).2) c

section Reported

variable {sys : System σ} {c : Chronicle σ} {events later : List LogEvent}

/-- Events and later ones. -/
theorem reported_append :
    c.reported sys (events ++ later) = (c.reported sys events).reported sys later :=
  List.foldl_append

/-- Every event that is reported is one deed. -/
theorem deeds_reported : (c.reported sys events).deeds = c.deeds ++ events.map .report := by
  induction events generalizing c with
  | nil => exact (List.append_nil _).symm
  | cons event events ih =>
    let noted := (note (.report event) (sys.log event) c).2
    calc (noted.reported sys events).deeds = noted.deeds ++ events.map .report := ih
      _ = c.deeds ++ [.report event] ++ events.map .report := by rw [deeds_note]
      _ = c.deeds ++ (event :: events).map .report := List.append_assoc ..

/-- Events that may be reported. -/
theorem reported_grows (hk : k.Admits sys) (hdeed : ∀ event ∈ events, k.deed (.report event))
    (hc : k.world c.world) : Grows k c (c.reported sys events) := by
  induction events generalizing c with
  | nil => exact .refl hc
  | cons event events ih =>
    have hfirst := adds_note hk (.log event) (hdeed event (List.mem_cons_self ..)) c hc
    have hrest := ih (fun other hother => hdeed other (List.mem_cons_of_mem event hother)) hfirst.1
    exact hfirst.trans hrest

end Reported

/-- What a cleanup reports before its first step: the failure that lies behind it, if there is one,
and that it begins. -/
def opening (engine : Engine) (fatal? : Option Failure) (status : ExitStatus) : List LogEvent :=
  (fatal?.map fun f => ⟨.warn, .cleanup, "cleaning up after container failure",
    [("error", .shown f.message)]⟩).toList ++
  [⟨.debug, .cleanup, "cleaning up container",
    [("container", .shown engine.identity.containerId), ("status", .shown status.message)]⟩]

/-- The chronicle just before the first step of a cleanup. The user was asked for first. -/
def opened (sys : System σ) (c : Chronicle σ) (engine : Engine) (fatal? : Option Failure)
    (status : ExitStatus) : Chronicle σ :=
  ((system sys).userId c).2.reported sys (opening engine fatal? status)

/-- What is reported of a step that left something behind. -/
def leftBehind? (outcome : StepOutcome) : Option LogEvent :=
  outcome.failure?.map fun f => ⟨.warn, .commandLine, "left behind",
    [("step", .text outcome.step.name), ("error", .shown f.message)]⟩

/-- What a cleanup reports after its steps: each that left something behind, and that the cleanup is
finished. It reports nothing more if one of its steps ended it. -/
def closing : Except Stop (List StepOutcome) → List LogEvent
  | .error _ => []
  | .ok outcomes => outcomes.filterMap leftBehind? ++
    [⟨.info, .commandLine, "cleanup finished", [("attempted", .number outcomes.length),
      ("clean", .truth (outcomes.all (·.failure?.isNone)))]⟩]

/-- What the steps of a cleanup make of it. -/
def verdict : Except Stop (List StepOutcome) → Except TaskFault Unit
  | .error (.failed f) => .error (.failure none f)
  | _ => .ok ()

/-- A loop whose rounds do nothing but to report reports what they do, one after another. -/
theorem forIn_run {sys : System σ} {body : α → PUnit → TaskAct (Chronicle σ) (ForInStep PUnit)}
    {events : α → List LogEvent}
    (h : ∀ a c, body a ⟨⟩ c = (.ok (.ok (.yield ⟨⟩)), c.reported sys (events a)))
    (items : List α) (c : Chronicle σ) :
    (forIn items ⟨⟩ body : TaskAct (Chronicle σ) PUnit) c =
      (.ok (.ok ⟨⟩), c.reported sys (items.flatMap events)) := by
  induction items generalizing c with
  | nil => rfl
  | cons a items ih =>
    rw [List.forIn_cons, run_bind, h, List.flatMap_cons, reported_append]
    exact ih _

/-- Reports what one step of a cleanup left behind. -/
def tellOne (sys : System σ) (outcome : StepOutcome) : TaskAct σ (ForInStep PUnit) := do
  if let some f := outcome.failure? then
    (sys.report .warn .commandLine "left behind"
      [("step", .text outcome.step.name), ("error", .shown f.message)] : StateM σ Unit)
  return .yield ⟨⟩

/-- Reports what is left behind by a cleanup, and that it is finished. -/
def tell (sys : System σ) (report : CleanupReport) : TaskAct σ Unit := do
  forIn report.failures ⟨⟩ fun outcome _ => tellOne sys outcome
  (sys.report .info .commandLine "cleanup finished"
    [("attempted", .number report.outcomes.length), ("clean", .truth report.isClean)] :
      StateM σ Unit)

/-- A cleanup ends with its report. -/
theorem cleanup_eq_tell (sys : System σ) (engine : Engine) (fatal? : Option Failure)
    (status : ExitStatus) (root : Path) :
    Runner.cleanup sys engine fatal? status root = (do
      let user ← (sys.userId : StateM σ _)
      let report ← within none (engine.cleanup sys (teardown sys user ⟨root⟩) fatal? status)
      tell sys report) :=
  rfl

/-- The steps that failed are those that left something behind. -/
theorem flatMap_failures (report : CleanupReport) :
    (report.failures.flatMap fun outcome => (leftBehind? outcome).toList) =
      report.outcomes.filterMap leftBehind? := by
  rw [← List.filterMap_eq_flatMap_toList, CleanupReport.failures, List.filterMap_filter]
  refine List.filterMap_congr fun outcome _ => ?_
  cases hfailure : outcome.failure? <;> simp [leftBehind?, hfailure]

/-- A cleanup is clean if no step failed. -/
theorem isClean_eq_all (report : CleanupReport) :
    report.isClean = report.outcomes.all (·.failure?.isNone) := by
  rw [CleanupReport.isClean, CleanupReport.failures, Bool.eq_iff_iff, List.isEmpty_iff,
    List.filter_eq_nil_iff, List.all_eq_true]
  simp

/-- Telling what is left behind always succeeds. -/
theorem tell_run (sys : System σ) (report : CleanupReport) (c : Chronicle σ) :
    tell (system sys) report c =
      (.ok (.ok ()), c.reported sys (closing (.ok report.outcomes))) := by
  have hround : ∀ outcome c, tellOne (system sys) outcome c =
      (.ok (.ok (.yield ⟨⟩)), c.reported sys (leftBehind? outcome).toList) := by
    rintro ⟨step, _ | f⟩ c <;> rfl
  unfold tell closing
  rw [run_bind, forIn_run hround, flatMap_failures, isClean_eq_all, reported_append]
  rfl

section Cleaning

variable {sys : System σ} {engine : Engine} {fatal? : Option Failure} {status : ExitStatus}
  {c : Chronicle σ}

/-- A cleanup reports that it begins, and takes its steps. -/
theorem cleanup_eq_runSteps (teardown : Teardown (Chronicle σ)) :
    engine.cleanup (system sys) teardown fatal? status c =
      (CleanupReport.mk status <$>
        engine.runSteps (system sys) teardown (Cleanup.configured engine))
          (c.reported sys (opening engine fatal? status)) := by
  unfold Engine.cleanup
  rw [Cleanup.filter_applies]
  cases fatal? <;> rfl

/-- What is done before the first step of a cleanup. -/
theorem deeds_opened : (c.opened sys engine fatal? status).deeds =
    c.deeds ++ .other :: (opening engine fatal? status).map .report := by
  rw [opened, deeds_reported]
  exact (congrArg (· ++ _) (deeds_note .other sys.userId c)).trans (List.append_assoc ..)

/-- What a cleanup comes to is what its steps come to, and it reports what they leave behind. -/
theorem cleanup_of_runSteps {root : Path} {answer : Except Stop (List StepOutcome)}
    {reached : Chronicle σ}
    (h : engine.runSteps (system sys) (teardown (system sys) (sys.userId c.world).1 ⟨root⟩)
      (Cleanup.configured engine) (c.opened sys engine fatal? status) = (answer, reached))
    (hanswer : answer ≠ .error .panicked) :
    Runner.cleanup (system sys) engine fatal? status root c =
      (.ok (verdict answer), reached.reported sys (closing answer)) := by
  have hcleanup : Runner.cleanup (system sys) engine fatal? status root c =
      (within none (engine.cleanup (system sys)
        (teardown (system sys) (sys.userId c.world).1 ⟨root⟩) fatal? status) >>= tell (system sys))
          ((system sys).userId c).2 := by
    rw [cleanup_eq_tell, run_bind, run_lift]
    rfl
  have hsteps := h
  unfold opened at hsteps
  rw [hcleanup, run_bind, run_within, cleanup_eq_runSteps, Act.run_map, hsteps]
  rcases answer with (f | _) | outcomes
  · rfl
  · exact absurd rfl hanswer
  · exact tell_run sys ⟨status, outcomes⟩ reached

variable (engine fatal? status c) in
/-- **A cleanup** opens, takes its steps, and comes to what the steps come to. Whatever is left
behind is reported. -/
theorem cleaning_run (hk : k.Admits sys) (hfailure : ∀ f, k.failure f)
    (hdeed : ∀ d : Deed, d.IsCleaning → k.deed d)
    (hopening : ∀ event ∈ opening engine fatal? status, k.deed (.report event)) (root : Path)
    (hc : k.world c.world) :
    Grows k c (c.opened sys engine fatal? status) ∧
      ∃ answer reached, answer ≠ .error .panicked ∧
        engine.runSteps (system sys) (teardown (system sys) (sys.userId c.world).1 ⟨root⟩)
          (Cleanup.configured engine) (c.opened sys engine fatal? status) = (answer, reached) ∧
        Runner.cleanup (system sys) engine fatal? status root c =
          (.ok (verdict answer), reached.reported sys (closing answer)) ∧
        Grows ⟨k.world, Deed.IsCleaning, k.failure⟩ (c.opened sys engine fatal? status)
          (reached.reported sys (closing answer)) := by
  let quiet : Contract σ := ⟨k.world, Deed.IsCleaning, k.failure⟩
  have hquiet : quiet.Admits sys := fun α d call hmakes hd => hk α d call hmakes (hdeed d hd)
  have hasked : Grows k c ((system sys).userId c).2 := adds_note hk .userId (hdeed _ trivial) c hc
  have hopened := hasked.trans (reported_grows hk hopening hasked.1)
  obtain ⟨hsteps, hfails⟩ := runSteps_keeps hquiet (fun _ hd => hd) hfailure engine
    (sys.userId c.world).1 ⟨root⟩ (Cleanup.configured engine) (c.opened sys engine fatal? status)
    hopened.1
  rcases hrun : engine.runSteps (system sys) (teardown (system sys) (sys.userId c.world).1 ⟨root⟩)
    (Cleanup.configured engine) (c.opened sys engine fatal? status) with ⟨answer, reached⟩
  rw [hrun] at hsteps hfails
  have hanswer : answer ≠ .error .panicked := by
    rintro rfl
    obtain ⟨f, hf, -⟩ := hfails .panicked rfl
    cases hf
  have hclosing : ∀ event ∈ closing answer, quiet.deed (.report event) := by
    intro event hevent
    cases answer with
    | error _ => cases hevent
    | ok outcomes =>
      rcases List.mem_append.1 hevent with hmem | hmem
      · obtain ⟨⟨step, failure?⟩, -, hleft⟩ := List.mem_filterMap.1 hmem
        obtain ⟨f, -, rfl⟩ := Option.map_eq_some_iff.1 hleft
        rfl
      · obtain rfl := List.mem_singleton.1 hmem
        rfl
  exact ⟨hopened, answer, reached, hanswer, rfl, cleanup_of_runSteps hrun hanswer,
    hsteps.trans (reported_grows hquiet hclosing hsteps.1)⟩

end Cleaning

end Chronicle

end Container
