import Container.Proofs.Cleanup.RunLaw
import Container.Proofs.Creation.RunLaw
import Container.Proofs.Mount.PlanLaw

set_option autoImplicit false

/-!
# Which mounts are released

A creation mounts in two places: at or below the final directory, and at last on the session
directory. Where it fails between two mounts, those that it made stay. A cleanup detaches two paths
below the session directory and no others, and these only for a container with an encrypted device.
So what a creation mounted is released exactly if these two paths are on the way to the final
directory, and the session directory was not reached.

## Main definitions

* `Ledger.mounted` — where mounts were made.
* `Cleanup.Account.detached` — what was detached.
* `Releases` — paths whose detaching releases a mount.
* `ReleaseLaw` — what is known of the mounts of a creation and of a cleanup after it.

## Main results

* `Ran.mounted_cases` — where a creation mounts.
* `Engine.detached_eq` — what a cleanup detaches.
* `Engine.release_law` — when every mount of a creation is released, and with a device that is
  mounted elsewhere `Engine.release_law_stranded` — a mount that is not.
-/

namespace Container

variable {σ : Type}

/-- Where mounts were made, in order. -/
def Ledger.mounted (entries : List Ledger.Entry) : List Path :=
  entries.filterMap fun
    | .mount request (.ok _) => some request.target
    | _ => none

/-- What was detached, in order. -/
def Cleanup.Account.detached (account : Cleanup.Account) : List Path :=
  account.calls.filterMap fun
    | .detach path => some path
    | _ => none

/-- Detaching these paths releases what is mounted at a target: one of them is the target, or a
directory on the way to it, which takes along all that is mounted below. -/
def Releases (detached : List Path) (target : Path) : Prop :=
  ∃ path ∈ detached, path.IsBelow target

/-! ## Where a creation mounts -/

@[simp] theorem Ledger.mounted_append (entries later : List Ledger.Entry) :
    mounted (entries ++ later) = mounted entries ++ mounted later :=
  List.filterMap_append

theorem Ledger.mem_mounted {entries : List Ledger.Entry} {target : Path} :
    target ∈ mounted entries ↔
      ∃ request code, .mount request (.ok code) ∈ entries ∧ request.target = target := by
  unfold mounted
  rw [List.mem_filterMap]
  constructor
  · rintro ⟨entry, hmem, htarget⟩
    split at htarget
    · rename_i request code
      exact ⟨request, code, hmem, Option.some.inj htarget⟩
    · cases htarget
  · rintro ⟨request, code, hmem, rfl⟩
    exact ⟨_, hmem, rfl⟩

/-- Only one kind of step mounts. -/
theorem CreationStep.Answered.of_request {shell : Path} {step : CreationStep}
    {request : MountRequest} {answer : Except Stop Int32} {outcome : Except Stop Unit}
    (h : step.Answered shell (.mount request answer) outcome) :
    ∃ mount, step = .mount mount ∧ mount.request = request := by
  cases h with
  | mount mount => exact ⟨mount, rfl, rfl⟩

namespace MountPlan

/-- A plan begins with the image on the final directory. -/
theorem steps_eq_cons {config : Config} {plan : MountPlan} (h : forContainer config = .ok plan) :
    ∃ image rest, plan.steps = image :: rest ∧ image.required = true ∧
      image.request.target = config.layout.finalDir := by
  rw [eq_lawfulSteps h]
  exact ⟨_, _, rfl, rfl, rfl⟩

/-- The steps of a plan are made at or below the final directory, but for the last, which is made
on the session directory. -/
theorem target_cases {config : Config} {plan : MountPlan} (h : forContainer config = .ok plan)
    {step : MountStep} (hstep : step ∈ plan.steps) :
    config.layout.finalDir.IsBelow step.request.target ∨
      step.request.target = config.layout.sessionDir := by
  rw [eq_lawfulSteps h] at hstep
  obtain ⟨i, hi, rfl⟩ := List.getElem_of_mem hstep
  have hplace : (lawfulSteps config)[i]? = some (lawfulSteps config)[i] :=
    List.getElem?_eq_getElem hi
  rcases lawfulSteps_cases hplace with ⟨-, h⟩ | ⟨-, -, h⟩ | ⟨-, bind, -, h⟩ | ⟨-, h⟩
  · exact .inl (of_mem_systemSteps (List.mem_of_getElem? h)).2
  · exact .inl (of_mem_tmpSteps h).2.1
  · refine .inl ?_
    simp only [h]
    exact Path.isBelow_below _ _ fun n hn => Path.isEntry_of_mem_names hn
  · refine .inr ?_
    simp only [h]
    rfl

end MountPlan

namespace Ran

variable {engine : Engine} {plan : MountPlan} {entries : List Ledger.Entry}
  {result : Except Stop Unit}

/-- Steps that are not mounts mount nothing. -/
theorem mounted_eq_nil {shell : Path} {steps : List CreationStep}
    (h : Ran shell steps entries result)
    (hsteps : ∀ mount, .mount mount ∉ steps) : Ledger.mounted entries = [] := by
  refine List.eq_nil_iff_forall_not_mem.mpr fun target htarget => ?_
  obtain ⟨request, code, hmem, -⟩ := Ledger.mem_mounted.mp htarget
  obtain ⟨step, hstep, outcome, hanswered⟩ := h.exists_step hmem
  obtain ⟨mount, rfl, -⟩ := hanswered.of_request
  exact hsteps mount hstep

/-- **Where a creation mounts**: at or below the final directory, or on the session directory. -/
theorem mounted_cases (hplan : MountPlan.forContainer engine.config = .ok plan)
    (h : Ran engine.shell (engine.course plan) entries result) {target : Path}
    (htarget : target ∈ Ledger.mounted entries) :
    engine.config.layout.finalDir.IsBelow target ∨ target = engine.config.layout.sessionDir := by
  obtain ⟨request, code, hmem, rfl⟩ := Ledger.mem_mounted.mp htarget
  obtain ⟨step, hstep, outcome, hanswered⟩ := h.exists_step hmem
  obtain ⟨mount, rfl, rfl⟩ := hanswered.of_request
  have hmount : mount ∈ plan.steps := by
    simpa [Engine.course, Engine.preparation, Engine.hookSteps, Engine.tmpDirSteps] using hstep
  exact MountPlan.target_cases hplan hmount

/-- A creation that mounts anything has mounted the image on the final directory.

**Proof sketch.** The mount of the image comes before all others and is required, so a creation in
which it is not made ends there, or before. -/
theorem finalDir_mem_mounted (hplan : MountPlan.forContainer engine.config = .ok plan)
    (h : Ran engine.shell (engine.course plan) entries result)
    (hmounted : Ledger.mounted entries ≠ []) :
    engine.config.layout.finalDir ∈ Ledger.mounted entries := by
  obtain ⟨image, rest, hsteps, hrequired, htarget⟩ := MountPlan.steps_eq_cons hplan
  have hcourse : engine.course plan =
      (engine.hookSteps Phase.pre ++ engine.tmpDirSteps) ++ .mount image ::
        (rest.map .mount ++ engine.hookSteps Phase.setup ++
          [.changeDir engine.config.layout.sessionDir, .chroot engine.config.layout.sessionDir,
            .changeDir "/", .close]) := by
    simp [Engine.course, Engine.preparation, hsteps]
  have hbefore : ∀ mount, .mount mount ∉ engine.hookSteps Phase.pre ++ engine.tmpDirSteps := by
    simp [Engine.hookSteps, Engine.tmpDirSteps]
  rw [hcourse] at h
  rcases h.split with ⟨stop, hstopped⟩ | ⟨early, late, rfl, hearly, hlate⟩
  · exact absurd (hstopped.mounted_eq_nil hbefore) hmounted
  · have hnone : Ledger.mounted early = [] := hearly.mounted_eq_nil hbefore
    rw [Ledger.mounted_append, hnone, List.nil_append] at hmounted ⊢
    cases hlate with
    | stopped _ himage =>
      -- The only call is that for the image, so any mount is the one that was asked for.
      obtain ⟨target, hmem⟩ := List.exists_mem_of_ne_nil _ hmounted
      obtain ⟨request, code, hentry, -⟩ := Ledger.mem_mounted.mp hmem
      rw [← List.mem_singleton.mp hentry] at himage
      obtain ⟨mount, hmount, hrequest⟩ := himage.of_request
      obtain rfl := CreationStep.mount.inj hmount
      exact Ledger.mem_mounted.mpr ⟨request, code, hentry, by rw [← hrequest, htarget]⟩
    | passed himage _ =>
      obtain ⟨code, rfl⟩ := himage.of_mount hrequired
      exact Ledger.mem_mounted.mpr ⟨_, code, by simp, htarget⟩

end Ran

/-! ## What a cleanup detaches -/

namespace Cleanup

variable {answers : Answers} {engine : Engine}

/-- Where no call fails, all calls that are to be made are made. -/
theorem attempts_of_willing (h : ∀ call, answers.fault? call = none) (calls : List Call) :
    answers.attempts calls = calls := by
  induction calls with
  | nil => rfl
  | cons call calls ih => simp [Answers.attempts, h call, ih]

/-- What is detached is detached in the step for the encrypted device. -/
theorem Account.detached_callsOf (engine : Engine) (account : Account) :
    account.detached = (account.callsOf engine .crypt).filterMap fun
      | .detach path => some path
      | _ => none := by
  unfold Account.detached Account.callsOf
  rw [List.filterMap_filter]
  congr 1
  funext call
  cases call <;> simp [stepOf]

end Cleanup

open Cleanup

namespace Engine

variable {engine : Engine} {answers : Answers}

/-- **What a cleanup detaches** where no call fails: what may be mounted for an encrypted device, if
there is one. -/
theorem detached_eq (hwilling : ∀ call, answers.fault? call = none) {status : ExitStatus}
    {result : Except Stop CleanupReport} {account : Account}
    (h : CleanupRun engine answers status result account) :
    account.detached =
      if engine.config.cryptDevice?.isSome then
        [engine.config.layout.overlayMount, engine.config.layout.rootfsMount]
      else [] := by
  have hrecord : answers.recordFault? engine = none := by
    simp [Answers.recordFault?, Answers.stepFault?, Answers.firstFault?, hwilling]
  have hcalls : account.callsOf engine .crypt =
      if engine.config.cryptDevice?.isSome then answers.calls engine .crypt else [] := by
    rw [Account.callsOf, h.calls, filter_flatMap_calls nodup_attempted]
    simp [mem_attempted, hrecord, CleanupStep.applies]
  rw [Account.detached_callsOf engine, hcalls]
  cases hdevice : engine.config.cryptDevice? with
  | none => rfl
  | some device =>
    simp only [Option.isSome_some, if_true, Answers.calls, hdevice, Answers.sectionCalls, hwilling,
      attempts_of_willing hwilling, cryptCalls]
    cases CryptTeardown.deviceName device <;> rfl

end Engine

/-- What is known of the mounts of a creation and of a cleanup after it in which no call fails. -/
structure ReleaseLaw (layout : Layout) (encrypted : Bool) (mounted detached : List Path) :
    Prop where
  /-- What is mounted first is mounted on the final directory. -/
  begun : mounted ≠ [] → layout.finalDir ∈ mounted
  /-- All else is mounted at or below it, or on the session directory. -/
  placed : ∀ target ∈ mounted, layout.finalDir.IsBelow target ∨ target = layout.sessionDir
  /-- Two paths are detached for a container with an encrypted device, and none for any other. -/
  detaching : detached = if encrypted then [layout.overlayMount, layout.rootfsMount] else []
  /-- Every mount is released exactly if one of these two paths is the final directory or on the
  way to it, and nothing was mounted on the session directory. -/
  released : mounted ≠ [] → ((∀ target ∈ mounted, Releases detached target) ↔
    encrypted ∧ (layout.overlayMount.IsBelow layout.finalDir ∨
      layout.rootfsMount.IsBelow layout.finalDir) ∧ layout.sessionDir ∉ mounted)

section Law

variable {layout : Layout} {mounted detached : List Path}

/-- What is below the session directory is not on the way to it. -/
theorem not_isBelow_sessionDir {name : String} {n : Bytes}
    (hname : Path.components name = [.name n]) (hrelative : (name : Path).isAbsolute = false) :
    ¬ (layout.sessionDir.join name).IsBelow layout.sessionDir := by
  intro hbelow
  have hlength := hbelow.components_prefix.length_le
  rw [Path.components_join layout.sessionDir hrelative (by simp [hname]), hname,
    List.length_append, List.length_singleton] at hlength
  omega

/-- The law follows from where mounts are made and what is detached. -/
theorem releaseLaw {encrypted : Bool} (hbegun : mounted ≠ [] → layout.finalDir ∈ mounted)
    (hplaced : ∀ target ∈ mounted, layout.finalDir.IsBelow target ∨ target = layout.sessionDir)
    (hdetached : detached = if encrypted then [layout.overlayMount, layout.rootfsMount] else []) :
    ReleaseLaw layout encrypted mounted detached where
  begun := hbegun
  placed := hplaced
  detaching := hdetached
  released hmounted := by
    have hreleases : ∀ target, Releases detached target ↔ encrypted ∧
        (layout.overlayMount.IsBelow target ∨ layout.rootfsMount.IsBelow target) := by
      intro target
      rw [hdetached]
      cases encrypted <;> simp [Releases]
    constructor
    · intro hreleased
      obtain ⟨hencrypted, hway⟩ := (hreleases _).mp (hreleased _ (hbegun hmounted))
      refine ⟨hencrypted, hway, fun hsession => ?_⟩
      rcases ((hreleases _).mp (hreleased _ hsession)).2 with hoverlay | hrootfs
      · exact not_isBelow_sessionDir rfl rfl hoverlay
      · exact not_isBelow_sessionDir rfl rfl hrootfs
    · rintro ⟨hencrypted, hway, hsession⟩ target htarget
      rcases hplaced target htarget with hbelow | rfl
      · exact (hreleases target).mpr
          ⟨hencrypted, hway.imp (fun h => h.trans hbelow) (fun h => h.trans hbelow)⟩
      · exact absurd htarget hsession

end Law

namespace Engine

/-- **When the mounts of a creation are released**: whatever becomes of a creation, a cleanup of the
same container in which no call fails releases every mount that the creation made exactly if the
container has an encrypted device, one of the two paths that are detached for such a device is on
the way to the final directory, and the creation did not come to mount on the session directory.

**Proof sketch.** The mounts of a creation are the answers to the steps of its plan, the first of
which is made on the final directory and the last on the session directory; all others lie at or
below the final directory. The calls of a cleanup that detach anything are those of one step, for
two paths below the session directory. A path below the final directory goes along with what is on
the way to it, while nothing that lies below the session directory is on the way to that. -/
theorem release_law (engine : Engine) (sys : System σ) (ops : Privileged σ) (world : σ)
    (answers : Answers) (base : System Account) (fatal? : Option Failure) (status : ExitStatus)
    (hwilling : ∀ call, answers.fault? call = none) :
    let created :=
      engine.create (Ledger.system .whole sys) (Ledger.operations .whole ops) (.start world)
    let cleaned := engine.cleanup (answers.system base) answers.teardown fatal? status .start
    ReleaseLaw engine.config.layout engine.config.cryptDevice?.isSome
      (Ledger.mounted created.2.entries) cleaned.2.detached := by
  intro created cleaned
  have hcreated := create_ran engine sys ops world
  have hdetached : cleaned.2.detached = _ :=
    detached_eq hwilling (cleanupRun answers base engine fatal? status)
  cases hrefusal : engine.refusal? (sys.stat engine.config.rootfs world).1 with
  | some failure =>
    simp only [hrefusal] at hcreated
    have hnone : Ledger.mounted created.2.entries = [] := by
      rw [show created.2.entries = [] from hcreated.2]
      rfl
    exact releaseLaw (fun h => absurd hnone h) (by simp [hnone]) hdetached
  | none =>
    simp only [hrefusal] at hcreated
    obtain ⟨plan, hplan, hran⟩ := hcreated
    exact releaseLaw (hran.finalDir_mem_mounted hplan) (fun _ => hran.mounted_cases hplan) hdetached

/-! ## A container with an encrypted device -/

/-- A container with an encrypted device, the root of which is put together elsewhere than below the
session directory. -/
def vaulted : Engine where
  identity := ⟨"c1", "shroud", ⟨["/bin/sh"], []⟩⟩
  config := {
    rootfs := "/srv/root", image := .empty, recipe := .empty, network? := none, cgroup? := none
    cryptDevice? := some "/dev/mapper/vault", deleteImage := false, hasRecord := false
    fakeroot := false, mountTmp := false, contain := false, binds := []
    layout := ⟨"/run/session", "/run/final"⟩ }

/-- Operations that mount in one place and nowhere else. -/
def mountsOnly (target : Path) : Privileged Unit where
  mount request :=
    if request.target = target then pure 0
    else Act.fail (.mount (.reported "not permitted"))
  chroot _ := pure 0
  close := pure ()

deriving instance Inhabited for Errno, IoFault, Channel, System

/-- A creation that fails at its second mount leaves the first one in place, and a cleanup in which
every call succeeds detaches two other paths. -/
theorem release_law_stranded :
    let created := vaulted.create (Ledger.system .whole .willing)
      (Ledger.operations .whole (mountsOnly "/run/final")) (.start ())
    let answers : Answers := ⟨.ok ⟨⟨0, 0⟩, true⟩, .ok (), fun _ => none⟩
    let cleaned := vaulted.cleanup (answers.system default) answers.teardown none (.exited 0) .start
    created.1 = .error (.failed (.mount (.step "proc" (.reported "not permitted")))) ∧
      Ledger.mounted created.2.entries = [("/run/final" : Path)] ∧
      (∀ call, answers.fault? call = none) ∧
      cleaned.2.detached = [("/run/session/final" : Path), "/run/session/rootfs"] ∧
      ¬ ∀ target ∈ Ledger.mounted created.2.entries, Releases cleaned.2.detached target := by
  intro created answers cleaned
  have hfailed : created.1 =
      .error (.failed (.mount (.step "proc" (.reported "not permitted")))) := rfl
  have hmounted : Ledger.mounted created.2.entries = [("/run/final" : Path)] := by decide +kernel
  have hwilling : ∀ call, answers.fault? call = none := fun _ => rfl
  have hlaw := release_law vaulted .willing (mountsOnly "/run/final") () answers default none
    (.exited 0) hwilling
  refine ⟨hfailed, hmounted, hwilling, ?_, ?_⟩
  · rw [hlaw.detaching]
    decide +kernel
  · have hsome : Ledger.mounted created.2.entries ≠ [] := by simp [hmounted]
    rw [hlaw.released hsome]
    rintro ⟨-, hoverlay | hrootfs, -⟩
    · exact absurd hoverlay.components_prefix (by decide +kernel)
    · exact absurd hrootfs.components_prefix (by decide +kernel)

end Engine
end Container
