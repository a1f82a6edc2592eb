import Container.Proofs.Creation.RunLaw
import Container.Proofs.Helper.Link
import Container.Proofs.Mount.Plan

set_option autoImplicit false

/-!
# Creating a container by way of a helper

It makes no difference to the world whether an engine makes the privileged calls of a creation
itself or asks a helper to make them: the same calls are made in the same order with the same
answers. The engine learns of a failure either way, but what a helper tells it of the failure is
only its wording.

## Main definitions

* `Mirrored` — what a creation comes to by way of a helper, and what it comes to without.

## Main results

* `CreationStep.perform_idle` — one step by way of the helper.
* `CreationStep.forM_idle` — a list of steps that do not change the root.
* `Engine.create_by_helper` — the whole creation.
-/

namespace Container

variable {σ : Type}

/-- The calls that only privileged operations make and that a helper is asked for. -/
def Ledger.Entry.isAskedFor : Ledger.Entry → Prop
  | .mount .. | .chroot .. => True
  | _ => False

/-- The wording of the failure of a required mount that a helper was asked for. -/
def relayedMount (step : MountStep) (text : String) : String :=
  let source := step.request.source.display
  let target := step.request.target.display
  s!"mount {step.label} failed: " ++ s!"remote mount of {source} on {target} failed: {text}"

/-- The wording of the failure of a change of the root that a helper was asked for. -/
def relayedChroot (path : Path) (text : String) : String :=
  s!"remote chroot to {path.display} failed: {text}"

/-- What a creation comes to without a helper and by way of one, where this call was the last.
Where a helper was asked for that call, its failure is known by its wording. -/
inductive Mirrored (engine : Engine) (last? : Option Ledger.Entry) :
    Except Stop Unit → Except Stop Unit → Prop
  | ok : Mirrored engine last? (.ok ()) (.ok ())
  | other (stop : Stop) (hlast : ∀ entry ∈ last?, ¬ entry.isAskedFor) :
      Mirrored engine last? (.error stop) (.error stop)
  | mount {plan : MountPlan} {step : MountStep} {f : Failure} {fault : MountFault}
      (hplan : MountPlan.forContainer engine.config = .ok plan) (hstep : step ∈ plan.steps)
      (hrequired : step.required = true)
      (hlast : last? = some (.mount step.request (.error (.failed f))))
      (hfault : fault.message = relayedMount step f.message) :
      Mirrored engine last? (.error (.failed (step.blame f))) (.error (.failed (.mount fault)))
  | chroot {path : Path} {f : Failure} {fault : ChrootFault}
      (hlast : last? = some (.chroot path (.error (.failed f))))
      (hfault : fault.message = relayedChroot path f.message) :
      Mirrored engine last? (.error (.failed f)) (.error (.failed (.chroot fault)))

namespace Mirrored

variable {engine : Engine} {last? : Option Ledger.Entry} {mirrored : Except Stop Unit}

/-- What goes well without a helper goes well by way of one. -/
theorem eq_ok (h : Mirrored engine last? (.ok ()) mirrored) : mirrored = .ok () := by
  cases h
  rfl

/-- What fails without a helper fails by way of one. -/
theorem exists_error {stop : Stop} (h : Mirrored engine last? (.error stop) mirrored) :
    ∃ stop', mirrored = .error stop' := by
  cases h <;> exact ⟨_, rfl⟩

end Mirrored

namespace CreationStep

variable (link : Link σ) (shell : Path)

/-- The steps that need no privilege. -/
def isPlain : CreationStep → Prop
  | .hook .. | .makeDirs _ | .changeDir _ => True
  | _ => False

/-- A step that needs no privilege does not touch the helper. -/
theorem perform_plain {step : CreationStep} (hplain : step.isPlain)
    (ops : Privileged (Linked σ)) (ops' : Privileged (Ledger σ)) (entered : Bool)
    (ledger : Ledger σ) :
    step.perform link.system ops shell (.idle entered ledger) =
      ((step.perform (Ledger.system .whole link.sys) ops' shell ledger).1,
        .idle entered (step.perform (Ledger.system .whole link.sys) ops' shell ledger).2) := by
  have hsilent : link.system.IsSilent := Ledger.system_isSilent Linked.ledgerPlace link.sys
  have hsilent' := Ledger.system_isSilent .whole link.sys
  cases step with
  | hook label script =>
    rw [perform_hook hsilent, perform_hook hsilent']
    rfl
  | makeDirs path =>
    rw [perform_makeDirs, perform_makeDirs]
    rfl
  | changeDir path =>
    rw [perform_changeDir, perform_changeDir]
    rfl
  | mount step => exact hplain.elim
  | chroot path => exact hplain.elim
  | close => exact hplain.elim

variable {engine : Engine} {plan : MountPlan}

/-- What a mount step comes to by way of the helper. -/
theorem mirrored_mount (hplan : MountPlan.forContainer engine.config = .ok plan)
    {step : MountStep} (hstep : step ∈ plan.steps) {answer : Except Stop Int32}
    {response : Response} (hresponse : Response.to? .mount answer = some response) :
    Mirrored engine (some (.mount step.request answer)) (mountOutcome step answer)
      (mountOutcome step (relayed
        (fun text => .mount (.remote step.request.source step.request.target text)) answer)) := by
  rcases answer with (f | _) | code
  · cases hrequired : step.required with
    | true =>
      simp only [mountOutcome, relayed, hrequired, if_true]
      exact .mount hplan hstep hrequired rfl rfl
    | false =>
      simp only [mountOutcome, relayed, hrequired]
      exact .ok
  · cases hresponse
  · exact .ok

/-- A step that prepares the root is plain, or a mount of the plan. -/
theorem plain_or_mount {step : CreationStep} (h : step ∈ engine.preparation plan) :
    step.isPlain ∨ ∃ mount ∈ plan.steps, step = .mount mount := by
  simp only [Engine.preparation, List.mem_append, List.mem_singleton, List.mem_map] at h
  rcases h with (((h | h) | ⟨mount, hmount, rfl⟩) | h) | rfl
  · obtain ⟨_, _, rfl⟩ := List.mem_map.mp h
    exact .inl trivial
  · unfold Engine.tmpDirSteps at h
    split at h
    · simp only [List.mem_cons, List.not_mem_nil, or_false] at h
      rcases h with rfl | rfl
      · exact .inl trivial
      · exact .inl trivial
    · simp at h
  · exact .inr ⟨mount, hmount, rfl⟩
  · obtain ⟨_, _, rfl⟩ := List.mem_map.mp h
    exact .inl trivial
  · exact .inl trivial

/-- A plain step is not asked for. -/
theorem Answered.not_isAskedFor {step : CreationStep} (hplain : step.isPlain)
    {entry : Ledger.Entry} {outcome : Except Stop Unit} (h : step.Answered shell entry outcome) :
    ¬ entry.isAskedFor := by
  cases h with
  | mount => exact hplain.elim
  | chroot => exact hplain.elim
  | _ => exact id

/-- **One step by way of the helper** makes the call that the step makes, and comes to what
mirrors it. -/
theorem perform_idle (hplan : MountPlan.forContainer engine.config = .ok plan)
    (htext : engine.config.IsText) {step : CreationStep} (hstep : step ∈ engine.preparation plan)
    (ledger : Ledger σ) :
    ∃ direct ledger' entry,
      step.perform (Ledger.system .whole link.sys) link.direct shell ledger = (direct, ledger') ∧
      ledger'.entries = ledger.entries ++ [entry] ∧
      (entry.Fits → ∃ mirrored,
        step.perform link.system link.remote.privileged shell (.idle false ledger) =
          (mirrored, .idle false ledger') ∧
        Mirrored engine (some entry) direct mirrored) := by
  rcases plain_or_mount hstep with hplain | ⟨mount, hmount, rfl⟩
  · obtain ⟨direct, ledger', entry, hperform, hentry, hanswered⟩ :=
      perform_answered link.sys link.script.operations shell step ledger
    refine ⟨direct, ledger', entry, hperform, hentry, fun _ => ⟨direct, ?_, ?_⟩⟩
    · rw [perform_plain link shell hplain _ link.direct, Link.direct, hperform]
    · cases direct with
      | ok => exact .ok
      | error stop =>
        refine .other stop fun e he => ?_
        cases he
        exact hanswered.not_isAskedFor shell hplain
  · have htexts := MountPlan.isText_of_mem htext hplan hmount
    have hsilent : link.system.IsSilent := Ledger.system_isSilent Linked.ledgerPlace link.sys
    rcases hmade : link.direct.mount mount.request ledger with ⟨answer, ledger'⟩
    obtain ⟨response, hresponse⟩ := Link.exists_response_mount hmade
    refine ⟨mountOutcome mount answer, ledger', .mount mount.request answer, ?_,
      Link.entries_of_mount hmade, fun hfits => ⟨_, ?_, mirrored_mount hplan hmount hresponse⟩⟩
    · rw [perform_mount (Ledger.system_isSilent .whole link.sys), hmade]
    · have hremote : link.remote.privileged.mount mount.request (.idle false ledger) = _ :=
        Link.mount_idle htexts hmade hfits
      rw [perform_mount hsilent, hremote]

/-- **A list of steps by way of the helper** makes the calls that the steps make, in their order,
and comes to what mirrors them.

**Proof sketch.** By induction on the list. A step that goes well goes well by way of the helper
too and leaves the connection idle, so the next one starts as the first did; a step that fails is
the last either way. -/
theorem forM_idle (hplan : MountPlan.forContainer engine.config = .ok plan)
    (htext : engine.config.IsText) {steps : List CreationStep}
    (hsteps : ∀ step ∈ steps, step ∈ engine.preparation plan) (ledger : Ledger σ) :
    ∃ direct ledger' entries,
      steps.forM (perform (Ledger.system .whole link.sys) link.direct shell) ledger =
        (direct, ledger') ∧
      ledger'.entries = ledger.entries ++ entries ∧
      ((∀ entry ∈ entries, entry.Fits) → ∃ mirrored,
        steps.forM (perform link.system link.remote.privileged shell) (.idle false ledger) =
          (mirrored, .idle false ledger') ∧
        Mirrored engine ledger'.entries.getLast? direct mirrored) := by
  induction steps generalizing ledger with
  | nil => exact ⟨.ok (), ledger, [], rfl, by simp, fun _ => ⟨.ok (), rfl, .ok⟩⟩
  | cons step rest ih =>
    obtain ⟨direct, ledger', entry, hperform, hentry, hmirror⟩ :=
      perform_idle link shell hplan htext (hsteps step (by simp)) ledger
    simp only [List.forM_eq_forM, List.forM_cons, Act.run_bind, hperform]
    cases direct with
    | error stop =>
      refine ⟨.error stop, ledger', [entry], rfl, hentry, fun hfits => ?_⟩
      obtain ⟨mirrored, hremote, hmirrored⟩ := hmirror (hfits entry (by simp))
      obtain ⟨stop', rfl⟩ := hmirrored.exists_error
      rw [hremote, hentry, List.getLast?_concat]
      exact ⟨.error stop', rfl, hmirrored⟩
    | ok =>
      obtain ⟨direct, ledger'', entries, hrest, hentries, hmirrors⟩ :=
        ih (fun step hmem => hsteps step (by simp [hmem])) ledger'
      refine ⟨direct, ledger'', entry :: entries, hrest, by simp [hentries, hentry],
        fun hfits => ?_⟩
      obtain ⟨mirrored, hremote, hmirrored⟩ := hmirror (hfits entry (by simp))
      obtain ⟨mirrored', hremote', hmirrored'⟩ := hmirrors fun e he => hfits e (by simp [he])
      rw [hremote, hmirrored.eq_ok]
      exact ⟨mirrored', hremote', hmirrored'⟩

/-- What the last steps of a creation come to by way of the helper. The connection is closed in
the end, so nothing is said of it. -/
theorem forM_enter (engine : Engine) {session : Path} (hsession : session.IsText)
    (ledger : Ledger σ) :
    ∃ direct ledger' entries,
      [chroot session, changeDir "/", close].forM
        (perform (Ledger.system .whole link.sys) link.direct shell) ledger = (direct, ledger') ∧
      ledger'.entries = ledger.entries ++ entries ∧
      ((∀ entry ∈ entries, entry.Fits) → ∃ mirrored last,
        [chroot session, changeDir "/", close].forM
          (perform link.system link.remote.privileged shell) (.idle false ledger) =
            (mirrored, last) ∧
        last.ledger = ledger' ∧ Mirrored engine ledger'.entries.getLast? direct mirrored) := by
  rcases hmade : link.direct.chroot session ledger with ⟨answer, entered⟩
  have hentry := Link.entries_of_chroot hmade
  obtain ⟨response, hresponse⟩ := Link.exists_response_chroot hmade
  have hremote (hfits : (Ledger.Entry.chroot session answer).Fits) :
      link.remote.privileged.chroot session (.idle false ledger) = _ :=
    Link.chroot_idle hsession hmade hfits
  simp only [List.forM_eq_forM, List.forM_cons, List.forM_nil, Act.run_bind, perform_chroot, hmade]
  rcases answer with (f | _) | code
  · refine ⟨_, entered, [_], rfl, hentry, fun hfits => ?_⟩
    rw [hremote (hfits _ (by simp)), hentry, List.getLast?_concat]
    exact ⟨_, _, rfl, rfl, .chroot rfl rfl⟩
  · cases hresponse
  · obtain ⟨moved, last, entry, hperform, hmoved, hanswered⟩ :=
      perform_answered link.sys link.script.operations shell (.changeDir "/") entered
    have hplain : (changeDir "/").isPlain := trivial
    have hremoved := perform_plain link shell hplain link.remote.privileged link.direct true entered
    rw [← Link.direct] at hperform
    rw [hperform] at hremoved
    simp only [Except.map, hperform]
    cases moved with
    | error stop =>
      refine ⟨.error stop, last, [.chroot session (.ok code), entry], rfl, by simp [hmoved, hentry],
        fun hfits => ?_⟩
      rw [hremote (hfits _ (by simp)), hmoved, List.getLast?_concat]
      simp only [relayed, Except.isOk, Except.toBool, hremoved]
      refine ⟨_, _, rfl, rfl, .other stop fun e he => ?_⟩
      cases he
      exact hanswered.not_isAskedFor shell hplain
    | ok =>
      refine ⟨.ok (), (link.direct.close last).2,
        [.chroot session (.ok code), entry, .close (.ok ())],
        rfl, by simp [Link.close_direct, hmoved, hentry], fun hfits => ?_⟩
      rw [hremote (hfits _ (by simp))]
      simp only [relayed, Except.isOk, Except.toBool, hremoved]
      exact ⟨_, _, rfl, rfl, .ok⟩

end CreationStep

/-! ## Whole creations -/

namespace Engine

variable {link : Link σ} {engine : Engine} {plan : MountPlan}

/-- The course of a creation comes to the same by way of the helper. -/
theorem forM_course (link : Link σ) (hplan : MountPlan.forContainer engine.config = .ok plan)
    (htext : engine.config.IsText) (ledger : Ledger σ) :
    ∃ direct ledger' entries,
      (engine.course plan).forM (CreationStep.perform (Ledger.system .whole link.sys) link.direct
        engine.shell) ledger = (direct, ledger') ∧
      ledger'.entries = ledger.entries ++ entries ∧
      ((∀ entry ∈ entries, entry.Fits) → ∃ mirrored last,
        (engine.course plan).forM (CreationStep.perform link.system link.remote.privileged
          engine.shell) (.idle false ledger) = (mirrored, last) ∧
        last.ledger = ledger' ∧ Mirrored engine ledger'.entries.getLast? direct mirrored) := by
  obtain ⟨direct, prepared, entries, hdirect, hentries, hmirror⟩ :=
    CreationStep.forM_idle link engine.shell hplan htext (fun _ h => h) ledger
  have hcourse : engine.course plan = engine.preparation plan ++
    [.chroot engine.config.layout.sessionDir, .changeDir "/", .close] := rfl
  rw [hcourse]
  simp only [List.forM_eq_forM, List.forM_append, Act.run_bind] at hdirect hmirror ⊢
  rw [hdirect]
  cases direct with
  | error stop =>
    refine ⟨.error stop, prepared, entries, rfl, hentries, fun hfits => ?_⟩
    obtain ⟨mirrored, hremote, hmirrored⟩ := hmirror hfits
    obtain ⟨stop', rfl⟩ := hmirrored.exists_error
    rw [hremote]
    exact ⟨.error stop', _, rfl, rfl, hmirrored⟩
  | ok =>
    obtain ⟨direct, ledger', later, hlast, hlater, hmirrors⟩ :=
      CreationStep.forM_enter link engine.shell engine htext.sessionDir prepared
    refine ⟨direct, ledger', entries ++ later, hlast, by simp [hlater, hentries], fun hfits => ?_⟩
    obtain ⟨mirrored, hremote, hmirrored⟩ := hmirror fun e he => hfits e (by simp [he])
    rw [hremote, hmirrored.eq_ok]
    exact hmirrors fun e he => hfits e (by simp [he])

/-- **Creating a container by way of a helper** does what creating it does: however the bytes are
cut on the way, the same calls reach the world in the same order, with the same arguments and the
same answers, and the creation goes well or fails at the same call.

**Proof sketch.** Greeting the helper leaves the connection idle and the world as it was. The check
before a creation makes no call that is asked for. From then on the two runs go side by side along
the course of the creation: while the connection is idle each step makes the same call either way,
and leaves the connection idle again. -/
theorem create_by_helper (engine : Engine) (link : Link σ) (world : σ)
    (htext : engine.config.IsText)
    (hfits : ∀ entry ∈ (engine.create (Ledger.system .whole link.sys) link.direct
      (.start world)).2.entries, entry.Fits) :
    let direct := engine.create (Ledger.system .whole link.sys) link.direct (.start world)
    let byHelper := (link.remote.greet >>= fun _ =>
      engine.create link.system link.remote.privileged) (.start world)
    byHelper.2.ledger = direct.2 ∧
      Mirrored engine direct.2.entries.getLast? direct.1 byHelper.1 := by
  have hsilent : link.system.IsSilent := Ledger.system_isSilent Linked.ledgerPlace link.sys
  have hsilent' := Ledger.system_isSilent .whole link.sys
  rw [create_eq_course hsilent', Act.run_bind] at hfits
  rw [create_eq_course hsilent', create_eq_course hsilent]
  simp only [Act.run_bind, Link.greet_start]
  have hdirect := run_checked (Ledger.system .whole link.sys) engine (.start world)
  have hremote := run_checked link.system engine (.idle false (.start world))
  have hroot : (link.system.stat engine.config.rootfs (.idle false (.start world))).1 =
      ((Ledger.system .whole link.sys).stat engine.config.rootfs (.start world)).1 := rfl
  have hafter : engine.afterCheck link.system (.idle false (.start world)) =
      .idle false (engine.afterCheck (Ledger.system .whole link.sys) (.start world)) := by
    unfold afterCheck
    split <;> rfl
  have hnone : (engine.afterCheck (Ledger.system .whole link.sys) (.start world)).entries = [] := by
    unfold afterCheck
    split <;> rfl
  rw [hroot, hafter] at hremote
  cases hrefusal : engine.refusal?
      ((Ledger.system .whole link.sys).stat engine.config.rootfs (.start world)).1 with
  | some failure =>
    simp only [hrefusal] at hdirect hremote
    rw [hdirect, hremote]
    refine ⟨rfl, .other _ ?_⟩
    simp [hnone]
  | none =>
    simp only [hrefusal] at hdirect hremote
    obtain ⟨plan, hplan, hdirect⟩ := hdirect
    obtain ⟨plan', hplan', hremote⟩ := hremote
    obtain rfl : plan = plan' := by
      rw [hplan] at hplan'
      exact Except.ok.inj hplan'
    obtain ⟨direct, ledger, entries, hcourse, hentries, hmirror⟩ := forM_course link hplan htext
      (engine.afterCheck (Ledger.system .whole link.sys) (.start world))
    rw [hdirect] at hfits ⊢
    simp only [hcourse] at hfits ⊢
    rw [hnone, List.nil_append] at hentries
    rw [hentries] at hfits
    obtain ⟨mirrored, last, hmirrored, hledger, hmirror⟩ := hmirror hfits
    rw [hremote]
    simp only [hmirrored]
    exact ⟨hledger, hmirror⟩

/-- An engine with nothing to do but the mounts of every container. -/
def bare : Engine where
  identity := ⟨"bare", "shroud", ⟨[], []⟩⟩
  config := {
    rootfs := "/image", image := .empty, recipe := .empty, network? := none, cgroup? := none
    cryptDevice? := none, deleteImage := false, hasRecord := false, fakeroot := false
    mountTmp := false, contain := false, binds := [], layout := ⟨"/session", "/final"⟩ }

end Engine

/-- A helper that is sent bytes one by one and may not mount anything. -/
def Link.denied : Link Unit where
  sys := .willing
  script := ⟨fun _ => pure (.error (.mount (.reported "not permitted"))), fun _ => pure (.ok 0)⟩
  cut _ bs := bs.map fun b => [b]
  flatten_cut _ bs := by induction bs <;> simp_all

/-- The first mount of a creation is denied, with and without a helper. -/
theorem Engine.create_by_helper_denied :
    let direct := Engine.bare.create (Ledger.system .whole Link.denied.sys) Link.denied.direct
      (.start ())
    let byHelper := (Link.denied.remote.greet >>= fun _ =>
      Engine.bare.create Link.denied.system Link.denied.remote.privileged) (.start ())
    direct.2.entries = [.mount ⟨"/image", "/final", "", 4102, "errors=remount-ro"⟩
      (.error (.failed (.mount (.reported "not permitted"))))] ∧
    byHelper.2.ledger = direct.2 ∧
      Mirrored Engine.bare direct.2.entries.getLast? direct.1 byHelper.1 := by
  have hentries : (Engine.bare.create (Ledger.system .whole Link.denied.sys) Link.denied.direct
      (.start ())).2.entries = [.mount ⟨"/image", "/final", "", 4102, "errors=remount-ro"⟩
        (.error (.failed (.mount (.reported "not permitted"))))] := rfl
  have htext : Engine.bare.config.IsText :=
    ⟨Path.isText_ofText _, Path.isText_ofText _, Path.isText_ofText _, nofun, nofun⟩
  refine ⟨hentries, Engine.create_by_helper Engine.bare Link.denied () htext ?_⟩
  rw [hentries]
  intro entry hentry
  obtain rfl := List.mem_singleton.mp hentry
  refine ⟨?_, ?_⟩
  · intro body hbody
    cases hbody
    decide
  · intro response hresponse
    cases hresponse
    unfold Response.Fits
    decide

end Container
