import Container.Proofs.Cleanup.Account

set_option autoImplicit false

/-!
# What a step of a cleanup does

Each step of a cleanup makes its calls in a fixed order, up to the first that fails, and two of the
steps make them with raised privilege. What is called for a step, and why the step fails, is read
off the answers to the calls of that step alone.

## Main definitions

* `Cleanup.Answers.calls`, `Cleanup.Answers.stepFault?` — the calls of a step, and why it fails.
* `Cleanup.stepOf` — the step that a call belongs to.
* `Cleanup.Agree` — answers that are the same for a step.

## Main results

* `Cleanup.runStep_does` — what a step does.
* `Cleanup.stepOf_of_mem_calls` — the calls of a step belong to it.
* `Cleanup.calls_congr` — answers to other steps make no difference to a step.
-/

namespace Container.Cleanup

/-! ## The calls of a step -/

/-- Whether the network is given back in a section of raised privilege. -/
def elevatesNetwork (engine : Engine) : Bool :=
  engine.config.network?.isSome && engine.config.fakeroot

/-- How many sections of raised privilege are begun before a step. -/
def sectionsBefore (engine : Engine) : CleanupStep → Nat
  | .image | .network => 0
  | .cgroup | .record | .crypt => if elevatesNetwork engine then 1 else 0

/-- How many sections of raised privilege are begun when a step was taken. -/
def sectionsAfter (engine : Engine) : CleanupStep → Nat
  | .image => 0
  | .network | .cgroup | .record => if elevatesNetwork engine then 1 else 0
  | .crypt => sectionsBefore engine .crypt + if engine.config.cryptDevice?.isSome then 1 else 0

/-- The calls that giving an encrypted device back takes. -/
def cryptCalls (layout : Layout) (device : Path) : List Call :=
  [.detach layout.overlayMount, .detach layout.rootfsMount] ++
    match CryptTeardown.deviceName device with
    | .ok name => [.closeDevice name]
    | .error _ => []

/-- Why an encrypted device is not given back although all calls go well. -/
def cryptFault? (device : Path) : Option Failure :=
  match CryptTeardown.deviceName device with
  | .ok _ => none
  | .error fault => some (.crypt fault)

namespace Answers

variable (answers : Answers) (engine : Engine)

/-- The calls of a step. -/
def calls : CleanupStep → List Call
  | .image =>
    .examine engine.config.image ::
      match answers.image with
      | .ok info =>
        [if info.isDir then .removeTree engine.config.image else .removeFile engine.config.image]
      | .error _ => []
  | .network =>
    match engine.config.network? with
    | none => []
    | some network =>
      let work := answers.attempts [.deleteNetwork network.namespaces]
      if engine.config.fakeroot then answers.sectionCalls 0 work else work
  | .cgroup =>
    match engine.config.cgroup? with
    | none => []
    | some cgroup => answers.attempts [.removeCgroup cgroup.path]
  | .record =>
    answers.attempts [.findRecord engine.identity.containerId Registry.engineKind, .deleteRecord]
  | .crypt =>
    match engine.config.cryptDevice? with
    | none => []
    | some device =>
      answers.sectionCalls (sectionsBefore engine .crypt)
        (answers.attempts (cryptCalls engine.config.layout device))

/-- Why a step fails, if it does. An image that is gone already is no failure. -/
def stepFault? : CleanupStep → Option Failure
  | .image =>
    match answers.image.bind fun _ => answers.removal with
    | .ok () => none
    | .error fault => if fault.isNotFound then none else some (.io fault)
  | .network =>
    match engine.config.network? with
    | none => none
    | some network =>
      let fault? := answers.firstFault? [.deleteNetwork network.namespaces]
      if engine.config.fakeroot then answers.sectionFault? 0 fault? else fault?
  | .cgroup =>
    match engine.config.cgroup? with
    | none => none
    | some cgroup => answers.firstFault? [.removeCgroup cgroup.path]
  | .record =>
    answers.firstFault? [.findRecord engine.identity.containerId Registry.engineKind, .deleteRecord]
  | .crypt =>
    match engine.config.cryptDevice? with
    | none => none
    | some device =>
      answers.sectionFault? (sectionsBefore engine .crypt)
        (answers.firstFault? (cryptCalls engine.config.layout device) (cryptFault? device))

end Answers

/-! ## What a step does -/

section Steps

variable (answers : Answers) (base : System Account) (engine : Engine)

/-- The last of the calls that are made in order. -/
theorem Does.attemptLast {before : Nat} (call : Call) :
    Does before before (answers.attempts [call]) (answers.firstFault? [call])
      (answers.answer call) := by
  have hnothing : Does before before (answers.attempts []) (answers.firstFault? []) (pure ()) :=
    Does.nothing
  simpa using (Does.answer call).attempt hnothing

/-- What removing the image does. -/
theorem removeImage_does :
    Does 0 0 (answers.calls engine .image) (answers.stepFault? engine .image)
      (engine.removeImage (answers.system base)) := by
  have hinfo : Does 0 0 [] none ((answers.system base).report .info .cleanup "cleaning up image"
      [("image", .shown engine.config.image.display)] : StateM _ _) :=
    Does.report _ _ _ _ (.inl (by decide))
  have hgone : Does 0 0 [] none ((answers.system base).report .debug .cleanup "image already gone"
      [("image", .shown engine.config.image.display)] : StateM _ _) :=
    Does.report _ _ _ _ (.inl (by decide))
  refine hinfo.andThen (Does.note ?_)
  unfold Answers.stepFault?
  cases answers.image with
  | error fault =>
    simp only [pure_bind, Except.bind]
    cases fault.isNotFound with
    | true => exact hgone
    | false => exact Does.fail _
  | ok info =>
    simp only [Except.bind]
    cases info.isDir <;> refine Does.note ?_
    all_goals
      cases answers.removal with
      | ok => exact Does.nothing
      | error fault =>
        simp only
        cases fault.isNotFound with
        | true => exact hgone
        | false => exact Does.fail _

/-- What releasing an encrypted device does once privilege was raised. -/
theorem cryptSteps_does (before : Nat) (layout : Layout) (device : Path) :
    Does before before (answers.attempts (cryptCalls layout device))
      (answers.firstFault? (cryptCalls layout device) (cryptFault? device))
      (CryptTeardown.steps (answers.system base) answers.teardown.crypt layout device) := by
  unfold cryptCalls cryptFault? CryptTeardown.steps
  refine Does.attempt ?_ (Does.attempt ?_ ?_)
  · exact (Does.answer _).onFailure _ _ _ _ (.inl (by decide))
  · exact (Does.answer _).onFailure _ _ _ _ (.inl (by decide))
  · cases CryptTeardown.deviceName device with
    | error fault => exact Does.fail (.crypt fault)
    | ok name =>
      refine Does.attempt ?_ ?_
      · exact (Does.answer _).onFailure _ _ _ _ (.inl (by decide))
      · exact Does.report _ _ _ _ (.inl (by decide))

/-- **What a step does**: it makes its calls, and fails if they do. -/
theorem runStep_does (step : CleanupStep) :
    Does (sectionsBefore engine step) (sectionsAfter engine step) (answers.calls engine step)
      (answers.stepFault? engine step)
      (engine.runStep (answers.system base) answers.teardown step) := by
  cases step with
  | image => exact removeImage_does answers base engine
  | network =>
    unfold sectionsBefore sectionsAfter elevatesNetwork Answers.calls Answers.stepFault?
      Engine.runStep
    cases hnetwork : engine.config.network? with
    | none => exact Does.nothing
    | some network =>
      have hwork : ∀ before, Does before before
          (answers.attempts [.deleteNetwork network.namespaces])
          (answers.firstFault? [.deleteNetwork network.namespaces])
          (answers.teardown.deleteNetwork network) :=
        fun before => Does.attemptLast answers (.deleteNetwork network.namespaces)
      cases hfakeroot : engine.config.fakeroot with
      | true => exact (hwork 1).bracket
      | false => exact hwork 0
  | cgroup =>
    unfold sectionsBefore sectionsAfter Answers.calls Answers.stepFault? Engine.runStep
    cases hcgroup : engine.config.cgroup? with
    | none => exact Does.nothing
    | some cgroup => exact Does.attemptLast answers (.removeCgroup cgroup.path)
  | record =>
    have hdelete : Does (sectionsBefore engine .record) (sectionsBefore engine .record)
        (answers.attempts [.deleteRecord]) (answers.firstFault? [.deleteRecord])
        (answers.answer .deleteRecord) := Does.attemptLast answers .deleteRecord
    have hrun : engine.runStep (answers.system base) answers.teardown .record =
        answers.answer (.findRecord engine.identity.containerId Registry.engineKind) >>= fun _ =>
          answers.answer .deleteRecord := by
      simp [Engine.runStep, Answers.teardown]
    rw [hrun]
    exact (Does.answer _).attempt hdelete
  | crypt =>
    unfold sectionsAfter Answers.calls Answers.stepFault? Engine.runStep
    cases hdevice : engine.config.cryptDevice? with
    | none => exact Does.nothing
    | some device => exact (cryptSteps_does answers base _ engine.config.layout device).bracket

end Steps

/-! ## The step of a call -/

/-- The step that a call belongs to. The first section of raised privilege belongs to the network
where that is given back in one. -/
def stepOf (engine : Engine) : Call → CleanupStep
  | .examine _ | .removeTree _ | .removeFile _ => .image
  | .raise number | .restore number =>
    if elevatesNetwork engine ∧ number = 0 then .network else .crypt
  | .deleteNetwork _ => .network
  | .removeCgroup _ => .cgroup
  | .findRecord _ _ | .deleteRecord => .record
  | .detach _ | .closeDevice _ => .crypt

/-- The answers to the calls of a step are the same. -/
def Agree (engine : Engine) (step : CleanupStep) (answers answers' : Answers) : Prop :=
  (∀ call, stepOf engine call = step → answers.fault? call = answers'.fault? call) ∧
    (step = .image → answers.image = answers'.image ∧ answers.removal = answers'.removal)

section Calls

variable {answers answers' : Answers} {engine : Engine}

/-- No calls are made but those that are to be made. -/
theorem mem_of_mem_attempts {calls : List Call} {call : Call} (h : call ∈ answers.attempts calls) :
    call ∈ calls := by
  induction calls with
  | nil => simp [Answers.attempts] at h
  | cons first calls ih =>
    rcases List.mem_cons.mp h with rfl | h
    · simp
    · split at h
      · simp at h
      · exact List.mem_cons_of_mem _ (ih h)

/-- No calls are made in a section but its two ends and those of the work in it. -/
theorem mem_of_mem_sectionCalls {number : Nat} {calls : List Call} {call : Call}
    (h : call ∈ answers.sectionCalls number calls) :
    call = .raise number ∨ call = .restore number ∨ call ∈ calls := by
  rcases List.mem_cons.mp h with rfl | h
  · exact .inl rfl
  · split at h
    · simp at h
    · simp only [List.mem_append, List.mem_singleton] at h
      rcases h with h | h
      · exact .inr (.inr h)
      · exact .inr (.inl h)

/-- Calls that are answered alike are made alike, and fail alike. -/
theorem attempts_congr (calls : List Call) (last? : Option Failure)
    (h : ∀ call ∈ calls, answers.fault? call = answers'.fault? call) :
    answers.attempts calls = answers'.attempts calls ∧
      answers.firstFault? calls last? = answers'.firstFault? calls last? := by
  induction calls with
  | nil => exact ⟨rfl, rfl⟩
  | cons call calls ih =>
    obtain ⟨hattempts, hfault⟩ := ih fun call hmem => h call (by simp [hmem])
    have hcall := h call (by simp)
    unfold Answers.firstFault? at hfault ⊢
    refine ⟨?_, ?_⟩
    · simp only [Answers.attempts, hcall, hattempts]
    · cases hanswer : answers'.fault? call with
      | none =>
        rw [hanswer] at hcall
        simpa [hcall, hanswer] using hfault
      | some f =>
        rw [hanswer] at hcall
        simp [hcall, hanswer]

/-- The calls that release an encrypted device belong to the step for it. -/
theorem stepOf_of_mem_cryptCalls {layout : Layout} {device : Path} {call : Call}
    (h : call ∈ cryptCalls layout device) : stepOf engine call = .crypt := by
  unfold cryptCalls at h
  cases hname : CryptTeardown.deviceName device with
  | error fault =>
    simp only [hname, List.append_nil, List.mem_cons, List.not_mem_nil, or_false] at h
    rcases h with rfl | rfl <;> rfl
  | ok name =>
    simp only [hname, List.mem_append, List.mem_cons, List.not_mem_nil, or_false] at h
    rcases h with (rfl | rfl) | rfl <;> rfl

/-- The two ends of the section for an encrypted device belong to the step for it. -/
theorem stepOf_cryptSection (engine : Engine) :
    stepOf engine (.raise (sectionsBefore engine .crypt)) = .crypt ∧
      stepOf engine (.restore (sectionsBefore engine .crypt)) = .crypt := by
  by_cases h : elevatesNetwork engine = true <;> simp [stepOf, sectionsBefore, h]

/-- The two ends of the section for the network belong to the step for it. -/
theorem stepOf_networkSection {network : Network} (hnetwork : engine.config.network? = some network)
    (hfakeroot : engine.config.fakeroot = true) :
    stepOf engine (.raise 0) = .network ∧ stepOf engine (.restore 0) = .network := by
  simp [stepOf, elevatesNetwork, hnetwork, hfakeroot]

/-- **The calls of a step belong to it.** -/
theorem stepOf_of_mem_calls {step : CleanupStep} {call : Call}
    (h : call ∈ answers.calls engine step) : stepOf engine call = step := by
  unfold Answers.calls at h
  cases step with
  | image =>
    rcases List.mem_cons.mp h with rfl | h
    · rfl
    · cases himage : answers.image with
      | error fault => simp [himage] at h
      | ok info =>
        simp only [himage, List.mem_singleton] at h
        subst h
        cases info.isDir <;> rfl
  | network =>
    cases hnetwork : engine.config.network? with
    | none => simp [hnetwork] at h
    | some network =>
      simp only [hnetwork] at h
      cases hfakeroot : engine.config.fakeroot with
      | true =>
        obtain ⟨hraise, hrestore⟩ := stepOf_networkSection hnetwork hfakeroot
        simp only [hfakeroot, if_true] at h
        rcases mem_of_mem_sectionCalls h with rfl | rfl | h
        · exact hraise
        · exact hrestore
        · obtain rfl := List.mem_singleton.mp (mem_of_mem_attempts h)
          rfl
      | false =>
        simp only [hfakeroot, Bool.false_eq_true, if_false] at h
        obtain rfl := List.mem_singleton.mp (mem_of_mem_attempts h)
        rfl
  | cgroup =>
    cases hcgroup : engine.config.cgroup? with
    | none => simp [hcgroup] at h
    | some cgroup =>
      simp only [hcgroup] at h
      obtain rfl := List.mem_singleton.mp (mem_of_mem_attempts h)
      rfl
  | record =>
    have hmem := mem_of_mem_attempts h
    simp only [List.mem_cons, List.not_mem_nil, or_false] at hmem
    rcases hmem with rfl | rfl <;> rfl
  | crypt =>
    cases hdevice : engine.config.cryptDevice? with
    | none => simp [hdevice] at h
    | some device =>
      simp only [hdevice] at h
      obtain ⟨hraise, hrestore⟩ := stepOf_cryptSection engine
      rcases mem_of_mem_sectionCalls h with rfl | rfl | h
      · exact hraise
      · exact hrestore
      · exact stepOf_of_mem_cryptCalls (mem_of_mem_attempts h)

/-- **Answers to the calls of other steps** make no difference to what is called for a step, nor to
why it fails. -/
theorem calls_congr {step : CleanupStep} (h : Agree engine step answers answers') :
    answers.calls engine step = answers'.calls engine step ∧
      answers.stepFault? engine step = answers'.stepFault? engine step := by
  obtain ⟨hfault, himage⟩ := h
  unfold Answers.calls Answers.stepFault?
  cases step with
  | image =>
    obtain ⟨hfound, hremoval⟩ := himage rfl
    rw [hfound, hremoval]
    exact ⟨rfl, rfl⟩
  | network =>
    cases hnetwork : engine.config.network? with
    | none => exact ⟨rfl, rfl⟩
    | some network =>
      obtain ⟨hattempts, hfirst⟩ := attempts_congr [.deleteNetwork network.namespaces] none
        fun call hcall => hfault call (by
          obtain rfl := List.mem_singleton.mp hcall
          rfl)
      cases hfakeroot : engine.config.fakeroot with
      | true =>
        obtain ⟨hraise, hrestore⟩ := stepOf_networkSection hnetwork hfakeroot
        simp only [Answers.sectionCalls, Answers.sectionFault?, hattempts, hfirst,
          hfault _ hraise]
        exact ⟨trivial, trivial⟩
      | false =>
        simp only [Bool.false_eq_true, if_false]
        exact ⟨hattempts, hfirst⟩
  | cgroup =>
    cases hcgroup : engine.config.cgroup? with
    | none => exact ⟨rfl, rfl⟩
    | some cgroup =>
      exact attempts_congr _ _ fun call hcall => hfault call (by
        obtain rfl := List.mem_singleton.mp hcall
        rfl)
  | record =>
    refine attempts_congr _ _ fun call hcall => hfault call ?_
    simp only [List.mem_cons, List.not_mem_nil, or_false] at hcall
    rcases hcall with rfl | rfl <;> rfl
  | crypt =>
    cases hdevice : engine.config.cryptDevice? with
    | none => exact ⟨rfl, rfl⟩
    | some device =>
      obtain ⟨hraise, hrestore⟩ := stepOf_cryptSection engine
      obtain ⟨hattempts, hfirst⟩ := attempts_congr (cryptCalls engine.config.layout device)
        (cryptFault? device) fun call hcall => hfault call (stepOf_of_mem_cryptCalls hcall)
      simp only [Answers.sectionCalls, Answers.sectionFault?, hattempts, hfirst, hfault _ hraise]
      exact ⟨trivial, trivial⟩

end Calls
end Container.Cleanup
