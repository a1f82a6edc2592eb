import Container.Proofs.Cleanup.Sections
import Container.Proofs.Command.Chronicle
import Container.Proofs.Helper.Feed

set_option autoImplicit false

/-!
# What the parts of a task do

Each part of a task does deeds of its own kind only: loading reads a file, preparing a root runs
hooks and mounts, starting the program changes the directory and hands the process over, and what
comes after the beginning of a cleanup is neither a mount nor a move of the process.

## Main definitions

* `Chronicle.Deed.beginsCleanup` — the report with which a cleanup begins.
* `Chronicle.Deed.IsPreparing`, `Chronicle.Deed.IsCleaning`, `Chronicle.Deed.IsStarting` — the deeds
  of parts of a task.
* `Engine.prepare` — creation up to the moment at which the root is entered.
* `Runner.operations` — the privileged operations that a task uses.

## Main results

* `Chronicle.load_keeps`, `Chronicle.prepare_keeps`, `Chronicle.runSteps_keeps`,
  `Chronicle.start_keeps` — the contracts of the parts.
-/

namespace Container

variable {σ α β : Type}

/-! ## Kinds of deeds -/

namespace Chronicle.Deed

/-- Whether a deed is the report with which a cleanup begins. -/
def beginsCleanup : Deed → Bool
  | .report event => event.source = .cleanup && event.message = "cleaning up container"
  | _ => false

/-- Whether a message asks a helper to change the root. -/
def AsksForRoot (content : Bytes) : Prop := ∃ path : Path, (Request.chroot path).frame = .ok content

/-- What is done before the root of a container is entered. -/
def IsPreparing : Deed → Prop
  | .run _ | .mount _ | .receive _ | .other => True
  | .send content => ¬ AsksForRoot content
  | .report event => (Deed.report event).beginsCleanup = false
  | _ => False

/-- What is done to take the steps of a cleanup. -/
def IsCleaning : Deed → Prop
  | .readFile _ | .run _ | .other => True
  | .report event => (Deed.report event).beginsCleanup = false
  | _ => False

/-- What is done to start the program of a container. -/
def IsStarting : Deed → Prop
  | .changeDir _ | .execute _ => True
  | .report event => (Deed.report event).beginsCleanup = false
  | _ => False

end Chronicle.Deed

/-- A request is known by its frame. -/
theorem Request.frame_injective {request other : Request} {content : Bytes}
    (h : request.frame = .ok content) (hother : other.frame = .ok content) : request = other := by
  have hdecode : ∀ {request : Request}, request.frame = .ok content →
      Request.decode (content.drop 4) = .ok request := by
    intro request h
    unfold Request.frame at h
    split at h
    · rename_i body hencode
      by_cases hsize : body.length ≤ Frame.maxLength
      · rw [Frame.ofBody_of_le hsize] at h
        cases h
        rw [List.drop_left' (MessagePack.length_bigEndianBytes 4 _)]
        exact Request.decode_of_le hencode hsize
      · rw [Frame.ofBody_of_not_le hsize] at h
        cases h
    · cases h
  have hsame := (hdecode h).symm.trans (hdecode hother)
  exact Except.ok.inj hsame

/-- Puts the root of a container together, without entering it. -/
def Engine.prepare (sys : System σ) (ops : Privileged σ) (engine : Engine) : Act σ Unit := do
  let plan ← engine.checked sys
  engine.runHooks sys Phase.pre
  engine.makeTmpDirs sys
  sys.report .debug .creation "mounting image directory"
    [("rootfs", .shown engine.config.rootfs.display)]
  plan.apply sys ops
  engine.runHooks sys Phase.setup

/-- A container is created by putting its root together and entering it. -/
theorem Engine.create_eq_prepare (sys : System σ) (ops : Privileged σ) (engine : Engine) :
    engine.create sys ops = (do
      engine.prepare sys ops
      engine.enter sys ops
      sys.report .info .creation "container created"
        [("container", .shown engine.identity.containerId)]) := by
  simp only [create, prepare, bind_assoc]

namespace Runner

/-- The privileged operations of a task, once it has got hold of them. -/
def operations (sys : System σ) (places : Places σ) : Privileges → Privileged σ
  | .inProcess => Privileged.inProcess sys places.closed
  | .helper _ => (Remote.mk sys.channel places.isOpen).privileged

end Runner

namespace Chronicle

variable {sys : System σ} {world : σ → Prop} {deed : Deed → Prop} {failure : Failure → Prop}
  {k : Contract σ}

/-! ## Loading -/

/-- Loading a description reads one file, and no hook is to blame if it fails. -/
theorem load_keeps (hk : k.Admits sys) (env : Environment) (path : Path)
    (hread : k.deed (.readFile path)) (hfailure : ∀ f : Failure, f.isHook = false → k.failure f) :
    Keeps k (Description.load (system sys) env path) := by
  unfold Description.load
  refine (keeps_call hk (.readFile path) hread fun fault => hfailure _ rfl).bind fun content => ?_
  split
  · exact .pure _
  · rename_i f hparse
    refine .fail (hfailure f ?_)
    unfold Description.parse at hparse
    split at hparse
    · cases hparse
      rfl
    · split at hparse
      · cases hparse
        rfl
      · cases hparse

/-! ## Preparing -/

section Preparing

variable (hk : k.Admits sys) (hdeed : ∀ d : Deed, d.IsPreparing → k.deed d)
  (hfailure : ∀ f, k.failure f)
include hk hdeed hfailure

theorem runPhase_keeps (shell : Path) (phase : String) (scripts : List String) :
    Keeps k (Hook.runPhase (system sys) shell phase scripts) := by
  refine .forM fun labelled _ => ?_
  unfold Hook.run
  refine .bind (keeps_report hk (hdeed _ (by rfl))) fun _ => ?_
  refine (keeps_call hk (.run _) (hdeed _ trivial) fun _ => hfailure _).bind fun status => ?_
  split
  · exact keeps_report hk (hdeed _ (by rfl))
  · exact .fail (hfailure _)

theorem checked_keeps (engine : Engine) : Keeps k (engine.checked (system sys)) := by
  unfold Engine.checked
  refine .bind ?_ fun _ => .bind ?_ fun _ => ?_
  · unfold Engine.checkName
    split
    · exact .pure ()
    · exact .fail (hfailure _)
  · unfold Engine.checkRootfs
    refine (keeps_call hk (.stat _) (hdeed _ trivial) fun _ => hfailure _).bind fun info => ?_
    split
    · exact .pure ()
    · exact .fail (hfailure _)
  · split
    · exact .pure _
    · exact .fail (hfailure _)

theorem makeTmpDirs_keeps (engine : Engine) : Keeps k (engine.makeTmpDirs (system sys)) := by
  unfold Engine.makeTmpDirs
  split
  · exact .forM fun _ _ => keeps_call hk (.makeDirs _) (hdeed _ trivial) fun _ => hfailure _
  · exact .pure ()

theorem apply_keeps {ops : Privileged (Chronicle σ)} (hops : ∀ request, Keeps k (ops.mount request))
    (plan : MountPlan) : Keeps k (plan.apply (system sys) ops) := by
  refine .forM fun step _ => ?_
  unfold MountPlan.applyStep
  refine .bind (keeps_report hk (hdeed _ (by rfl))) fun _ => ?_
  refine (Keeps.guarded (hops step.request)).bind fun answer => ?_
  split
  · exact .pure ()
  · split
    · exact .fail (hfailure _)
    · exact keeps_report hk (hdeed _ (by rfl))

/-- **Putting a root together** runs hooks and mounts, and moves the process nowhere. -/
theorem prepare_keeps {ops : Privileged (Chronicle σ)}
    (hops : ∀ request, Keeps k (ops.mount request)) (engine : Engine) :
    Keeps k (engine.prepare (system sys) ops) := by
  unfold Engine.prepare
  refine .bind (checked_keeps hk hdeed hfailure engine) fun plan => ?_
  refine .bind (runPhase_keeps hk hdeed hfailure _ _ _) fun _ => ?_
  refine .bind (makeTmpDirs_keeps hk hdeed hfailure engine) fun _ => ?_
  refine .bind (keeps_report hk (hdeed _ (by rfl))) fun _ => ?_
  refine .bind (apply_keeps hk hdeed hfailure hops plan) fun _ => ?_
  exact runPhase_keeps hk hdeed hfailure _ _ _

end Preparing

/-! ## Cleaning up -/

section Cleaning

variable (hk : k.Admits sys) (hdeed : ∀ d : Deed, d.IsCleaning → k.deed d)
  (hfailure : ∀ f, k.failure f)
include hk hdeed

/-- Work in a section of raised privilege does what the work does. -/
theorem bracket_keeps {elevation : Elevation (Chronicle σ)} {work : Act (Chronicle σ) Unit}
    (hraise : Keeps k elevation.raise) (hrestore : Keeps k elevation.restore)
    (hwork : Keeps k work) : Keeps k (elevation.bracket (system sys) work) := by
  have hgiveUp : Keeps k (elevation.giveUp (system sys)) := by
    unfold Elevation.giveUp
    refine .bind (Keeps.guarded hrestore) fun answer => ?_
    split
    · exact .pure ()
    · exact keeps_report hk (hdeed _ (by rfl))
  intro c hc
  obtain ⟨hraised, hraiseFails⟩ := hraise c hc
  rw [Cleanup.run_bracket]
  rcases hact : elevation.raise c with ⟨stop | ⟨⟩, raised⟩
  · rw [hact] at hraised hraiseFails
    obtain ⟨f, rfl, hf⟩ := hraiseFails stop rfl
    refine ⟨hraised, ?_⟩
    intro stop hstop
    cases hstop
    exact ⟨f, rfl, hf⟩
  · rw [hact] at hraised
    let begun : Chronicle σ :=
      ((system sys).report .debug .privilege "privilege escalated" [] raised).2
    have hreport : Adds k ((system sys).report .debug .privilege "privilege escalated" []) :=
      adds_report hk (hdeed _ (by rfl))
    have hbegun : Grows k c begun := hraised.trans (hreport raised hraised.1)
    obtain ⟨hended, hendedFails⟩ := hwork begun hbegun.1
    obtain ⟨hleft, hleftFails⟩ := hgiveUp (work begun).2 hended.1
    refine ⟨hbegun.trans (hended.trans hleft), ?_⟩
    -- Neither the work nor giving up breaks down, so a failure of the section is one of them.
    intro stop hstop
    have hsettled : Elevation.settle
        ((elevation.giveUp (system sys) (work begun).2).1.bind fun _ => (work begun).1) =
          .error stop := hstop
    rcases hgave : (elevation.giveUp (system sys) (work begun).2).1 with stop' | ⟨⟩
    · obtain ⟨f, rfl, hf⟩ := hleftFails stop' hgave
      rw [hgave] at hsettled
      cases hsettled
      exact ⟨f, rfl, hf⟩
    · rw [hgave] at hsettled
      rcases hdone : (work begun).1 with stop' | ⟨⟩
      · obtain ⟨f, rfl, hf⟩ := hendedFails stop' hdone
        rw [hdone] at hsettled
        cases hsettled
        exact ⟨f, rfl, hf⟩
      · rw [hdone] at hsettled
        cases hsettled

theorem removeImage_keeps (hfailure : ∀ f, k.failure f) (engine : Engine) :
    Keeps k (engine.removeImage (system sys)) := by
  have hother : k.deed .other := hdeed _ trivial
  unfold Engine.removeImage
  refine .bind (keeps_report hk (hdeed _ (by rfl))) fun _ => ?_
  refine .bind (keeps_note hk (.linkStat _) hother) fun found => ?_
  -- However the image is removed, one that is gone already is only reported.
  have hfault : ∀ fault : IoFault, Keeps k (if fault.isNotFound then
        ((system sys).report .debug .cleanup "image already gone"
          [("image", .shown engine.config.image.display)] : Act (Chronicle σ) Unit)
      else Act.fail (.io fault)) := by
    intro fault
    split
    · exact keeps_report hk (hdeed _ (by rfl))
    · exact .fail (hfailure _)
  cases found with
  | error fault => exact .bindAnswer (.pure _) (fun _ => .pure ()) hfault
  | ok info =>
    cases hdir : info.isDir with
    | true =>
      simp only [hdir, if_true]
      exact .bindAnswer (keeps_note hk (.removeTree _) hother) (fun _ => .pure ()) hfault
    | false =>
      simp only [hdir, Bool.false_eq_true, if_false]
      exact .bindAnswer (keeps_note hk (.removeFile _) hother) (fun _ => .pure ()) hfault

theorem deleteAll_keeps (hfailure : ∀ f, k.failure f) (program : Path) (network : Network) :
    Keeps k (NetworkTeardown.deleteAll (system sys) program network) := by
  have hremaining : ∀ names,
      Adds k (NetworkTeardown.remaining (system sys) program names) := by
    intro names
    induction names with
    | nil => exact .pure []
    | cons name names ih =>
      refine .bind ?_ fun fault? => .bind ih fun rest => ?_
      · unfold NetworkTeardown.delete
        refine .bind (adds_report hk (hdeed _ (by rfl))) fun _ => ?_
        refine .bind (adds_note hk (.run _) (hdeed _ trivial)) fun answer => ?_
        split
        · exact .pure _
        · exact .pure _
      · exact .pure _
  unfold NetworkTeardown.deleteAll
  refine .bind (.lift (hremaining _)) fun faults => ?_
  split
  · exact .pure ()
  · exact .fail (hfailure _)

theorem removeCgroup_keeps (hfailure : ∀ f, k.failure f) (cgroup : Cgroup) :
    Keeps k (CgroupTeardown.remove (system sys) cgroup) := by
  have hother : k.deed .other := hdeed _ trivial
  have hempty : ∀ path, Keeps k (CgroupTeardown.removeEmpty (system sys) path) := by
    intro path
    unfold CgroupTeardown.removeEmpty
    refine .bind (keeps_note hk (.removeDir _) hother) fun answer => ?_
    split
    · exact .pure ()
    · split
      · exact .pure ()
      · exact .fail (hfailure _)
  have htree : ∀ depth path, Keeps k (CgroupTeardown.removeTree (system sys) depth path) := by
    intro depth
    induction depth with
    | zero => exact hempty
    | succ depth ih =>
      intro path
      unfold CgroupTeardown.removeTree
      refine .bind (keeps_note hk (.listDir _) hother) fun answer => ?_
      split
      · split
        · exact .pure ()
        · exact .fail (hfailure _)
      · refine .bind (.forM fun entry _ => ?_) fun _ => hempty path
        split
        · split
          · exact ih _
          · exact .pure ()
        · exact .fail (hfailure _)
  unfold CgroupTeardown.remove
  refine .bind (keeps_report hk (hdeed _ (by rfl))) fun _ => ?_
  intro c hc
  rw [Act.run_bind]
  exact htree _ _ c hc

theorem removeRecord_keeps (hfailure : ∀ f, k.failure f) (registry : Registry)
    (containerId kind : String) :
    Keeps k (do
      let found ← registry.find (system sys) containerId kind
      Registry.delete (system sys) found) := by
  refine .bind ?_ fun found => ?_
  · unfold Registry.find
    refine .bind ?_ fun path => ?_
    · unfold Registry.locate
      split
      · exact .pure _
      · exact .fail (hfailure _)
    · refine .bind (keeps_call hk (.readFile _) (hdeed _ trivial) fun _ => hfailure _)
        fun content => ?_
      split
      · exact .pure _
      · exact .fail (hfailure _)
  · exact keeps_call hk (.removeFile _) (hdeed _ trivial) fun _ => hfailure _

theorem cryptSteps_keeps (hfailure : ∀ f, k.failure f) (layout : Layout) (device : Path) :
    Keeps k (CryptTeardown.steps (system sys)
      ⟨CryptTeardown.detach (system sys), CryptTeardown.closeDevice (system sys)⟩ layout
      device) := by
  have hdetach : ∀ target, Keeps k (CryptTeardown.detach (system sys) target) := fun target =>
    keeps_call hk (.detach _) (hdeed _ trivial) fun _ => hfailure _
  unfold CryptTeardown.steps
  refine .bind ((hdetach _).onFailure fun f => adds_report hk (hdeed _ (by rfl))) fun _ => ?_
  refine .bind ((hdetach _).onFailure fun f => adds_report hk (hdeed _ (by rfl))) fun _ => ?_
  split
  · exact .fail (hfailure _)
  · refine .bind (.onFailure ?_ fun f => adds_report hk (hdeed _ (by rfl))) fun _ => ?_
    · refine .bind (keeps_call hk (.run _) (hdeed _ trivial) fun _ => hfailure _) fun status => ?_
      split
      · exact .pure ()
      · exact .fail (hfailure _)
    · exact keeps_report hk (hdeed _ (by rfl))

/-- **A step of a cleanup** is neither a mount nor a move of the process, and does not break
down. -/
theorem runStep_keeps (hfailure : ∀ f, k.failure f) (engine : Engine) (user : Nat)
    (registry : Registry) (step : CleanupStep) :
    Keeps k (engine.runStep (system sys) (Runner.teardown (system sys) user registry) step) := by
  have hraise : Keeps k (Elevation.ofSystem (system sys) user).raise := by
    refine .bind (keeps_call hk .startThread (hdeed _ trivial) fun _ => hfailure _) fun _ => ?_
    exact keeps_call hk (.setUserIds ..) (hdeed _ trivial) fun _ => hfailure _
  have hrestore : Keeps k (Elevation.ofSystem (system sys) user).restore :=
    keeps_call hk (.setUserIds ..) (hdeed _ trivial) fun _ => hfailure _
  cases step with
  | image => exact removeImage_keeps hk hdeed hfailure engine
  | network =>
    simp only [Engine.runStep]
    split
    · exact .pure ()
    · rename_i network _
      have hdelete := deleteAll_keeps hk hdeed hfailure NetworkTeardown.defaultProgram network
      split
      · exact bracket_keeps hk hdeed hraise hrestore hdelete
      · exact hdelete
  | cgroup =>
    simp only [Engine.runStep]
    split
    · exact .pure ()
    · exact removeCgroup_keeps hk hdeed hfailure _
  | record =>
    have hrecord := removeRecord_keeps hk hdeed hfailure registry engine.identity.containerId
      Registry.engineKind
    simp only [Engine.runStep, Runner.teardown, bind_assoc, pure_bind]
    exact hrecord
  | crypt =>
    simp only [Engine.runStep]
    split
    · exact .pure ()
    · exact bracket_keeps hk hdeed hraise hrestore (cryptSteps_keeps hk hdeed hfailure _ _)

theorem runSteps_keeps (hfailure : ∀ f, k.failure f) (engine : Engine) (user : Nat)
    (registry : Registry) (steps : List CleanupStep) :
    Keeps k (engine.runSteps (system sys) (Runner.teardown (system sys) user registry) steps) := by
  induction steps with
  | nil => exact .pure []
  | cons step steps ih =>
    have hstep := runStep_keeps hk hdeed hfailure engine user registry step
    unfold Engine.runSteps
    refine .bind (Keeps.guarded hstep) fun answer => ?_
    split
    · exact .bind ih fun _ => .pure _
    · split
      · exact .fail (hfailure _)
      · exact .bind (keeps_report hk (hdeed _ (by rfl))) fun _ => .bind ih fun _ => .pure _

end Cleaning

/-! ## Starting -/

/-- Starting a program changes the directory and hands the process over, and no hook is to blame if
it fails. -/
theorem start_keeps (hk : k.Admits sys) (hdeed : ∀ d : Deed, d.IsStarting → k.deed d)
    (hfailure : ∀ f : Failure, f.isHook = false → k.failure f) (engine : Engine) :
    Keeps k (engine.start (system sys)) := by
  unfold Engine.start
  split
  · exact .fail (hfailure _ rfl)
  · refine .bind (keeps_call hk (.changeDir _) (hdeed _ trivial) fun _ => hfailure _ rfl)
      fun _ => ?_
    refine .bind (keeps_report hk (hdeed _ (by rfl))) fun _ => ?_
    refine .bind (keeps_note hk (.execute _) (hdeed _ trivial)) fun answer => ?_
    split
    · exact .pure ()
    · exact .fail (hfailure _ rfl)

/-! ## Privileged operations -/

/-- A contract does not ask too much of the places that the operations of a process need. -/
structure Contract.AdmitsPlaces (k : Contract σ) (places : Runner.Places σ) : Prop where
  closed : ∀ b s, k.world s → k.world (places.closed.set b s)
  isOpen : ∀ b s, k.world s → k.world (places.isOpen.set b s)

theorem keeps_read (slot : Slot σ Bool) :
    Keeps k (liftM (place slot).read : Act (Chronicle σ) Bool) :=
  .lift fun _ hc => .refl hc

theorem keeps_modify {slot : Slot σ Bool} (hslot : ∀ b s, k.world s → k.world (slot.set b s))
    (f : Bool → Bool) : Keeps k (liftM ((place slot).modify f) : Act (Chronicle σ) Unit) := by
  refine .lift fun c hc => ⟨hslot _ _ hc, [], ?_, by simp⟩
  simp [Slot.modify, place]

/-- A message that asks for something else does not ask to change the root. -/
theorem isPreparing_send {request : Request} (hrequest : ∀ path, request ≠ .chroot path)
    (content : Bytes) (h : request.frame = .ok content) : (Deed.send content).IsPreparing := by
  rintro ⟨path, hpath⟩
  exact hrequest path (Request.frame_injective h hpath)

/-- That the operations were not closed is looked up, not asked of the system. -/
theorem ensureOpen_keeps (hchannel : ∀ fault, k.failure (.channel fault)) (slot : Slot σ Bool) :
    Keeps k (Privileged.ensureOpen (place slot)) := by
  unfold Privileged.ensureOpen
  refine .bind (keeps_read slot) fun closed => ?_
  split
  · exact .fail (hchannel _)
  · exact .pure ()

section Operations

variable (hk : k.Admits sys) (hfailure : ∀ f, k.failure f) {places : Runner.Places σ}
  (hplaces : k.AdmitsPlaces places)
include hk hfailure

/-- A request to a helper is one message there and one back. -/
theorem call_keeps {request : Request}
    (hsend : ∀ content, request.frame = .ok content → k.deed (.send content))
    (hreceive : ∀ count, k.deed (.receive count)) (slot : Slot σ Bool) :
    Keeps k (Remote.call ⟨(system sys).channel, place slot⟩ request) := by
  have htransported : ∀ {α : Type} {act : Act (Chronicle σ) α}, Keeps k act →
      Keeps k (Remote.transported act) := by
    intro α act h
    refine .bind (Keeps.guarded h) fun answer => ?_
    split
    · exact .pure _
    · exact .fail (hfailure _)
  unfold Remote.call
  refine .bind (keeps_read slot) fun isOpen => ?_
  split
  · refine .bind (htransported ?_) fun _ => htransported ?_
    · unfold Channel.sendFrame
      split
      · rename_i content hframe
        exact keeps_call hk (.send content) (hsend content hframe) fun _ => hfailure _
      · exact .fail (hfailure _)
    · unfold Channel.receiveMessage
      refine .bind (keeps_call hk (.receive 4) (hreceive 4) fun _ => hfailure _) fun header => ?_
      split
      · exact .fail (hfailure _)
      · refine .bind (keeps_call hk (.receive _) (hreceive _) fun _ => hfailure _) fun body => ?_
        split
        · exact .pure _
        · exact .fail (hfailure _)
  · exact .fail (hfailure _)

/-- A mount is a deed of preparing, be it made by this process or by a helper. -/
theorem mount_keeps (hdeed : ∀ d : Deed, d.IsPreparing → k.deed d) (privileges : Privileges)
    (request : MountRequest) :
    Keeps k
      ((Runner.operations (system sys) (Chronicle.places places) privileges).mount request) := by
  cases privileges with
  | inProcess =>
    refine .bind (ensureOpen_keeps (fun _ => hfailure _) places.closed) fun _ => ?_
    refine .bind (keeps_call hk (.mount _) (hdeed _ trivial) fun _ => hfailure _) fun _ => ?_
    exact .pure _
  | helper socket? =>
    refine .bind (call_keeps hk hfailure ?_ (fun _ => hdeed _ trivial) places.isOpen)
      fun response => ?_
    · exact fun content h => hdeed _ (isPreparing_send (by rintro _ ⟨⟩) content h)
    · split
      · exact .pure _
      · exact .fail (hfailure _)
      · exact .fail (hfailure _)

/-- Changing the root is a deed of its own, or a message to a helper. -/
theorem chroot_keeps (hdeed : ∀ d : Deed, d.IsPreparing → k.deed d)
    (hroot : ∀ path, k.deed (.changeRoot path)) (hsend : ∀ content, k.deed (.send content))
    (privileges : Privileges) (path : Path) :
    Keeps k
      ((Runner.operations (system sys) (Chronicle.places places) privileges).chroot path) := by
  cases privileges with
  | inProcess =>
    refine .bind (ensureOpen_keeps (fun _ => hfailure _) places.closed) fun _ => ?_
    refine .bind (keeps_call hk (.changeRoot _) (hroot _) fun _ => hfailure _) fun _ => ?_
    exact .pure _
  | helper socket? =>
    refine .bind (call_keeps hk hfailure (fun content _ => hsend content)
      (fun _ => hdeed _ trivial) places.isOpen) fun response => ?_
    split
    · exact .pure _
    · exact .fail (hfailure _)
    · exact .fail (hfailure _)

omit hfailure in
/-- Giving the capability back is no deed that changes where the process is, and it fails as the
connection does. -/
theorem close_keeps (hchannel : ∀ fault, k.failure (.channel fault))
    (hdeed : ∀ d : Deed, d.IsPreparing → k.deed d) (hplaces : k.AdmitsPlaces places)
    (privileges : Privileges) :
    Keeps k (Runner.operations (system sys) (Chronicle.places places) privileges).close := by
  cases privileges with
  | inProcess =>
    refine .bind (ensureOpen_keeps hchannel places.closed) fun _ => ?_
    exact keeps_modify hplaces.closed _
  | helper socket? =>
    refine .bind (keeps_read places.isOpen) fun isOpen => ?_
    split
    · refine .bind (keeps_modify hplaces.isOpen _) fun _ => ?_
      refine .bindAnswer (keeps_note hk .close (hdeed _ trivial)) (fun _ => .pure ())
        fun fault => ?_
      simp only
      split
      · exact .pure ()
      · exact .fail (hchannel _)
    · exact .fail (hchannel _)

/-- Connecting to a helper ends with the question whether it is there. -/
theorem connect_keeps (hdeed : ∀ d : Deed, d.IsPreparing → k.deed d)
    (hplaces : k.AdmitsPlaces places) (socket : Path) :
    Keeps k (Remote.connect (system sys) (place places.isOpen) socket) := by
  unfold Remote.connect
  refine .bind (keeps_report hk (hdeed _ (by rfl))) fun _ => ?_
  refine .bind (keeps_call hk (.connect _) (hdeed _ trivial) fun _ => hfailure _) fun _ => ?_
  refine .bind (.bind (keeps_modify hplaces.isOpen _) fun _ => ?_) fun _ => .pure _
  refine .bind (call_keeps hk hfailure ?_ (fun _ => hdeed _ trivial) places.isOpen)
    fun response => ?_
  · exact fun content h => hdeed _ (isPreparing_send (by rintro _ ⟨⟩) content h)
  · split
    · exact .pure _
    · exact .fail (hfailure _)

end Operations

end Chronicle

end Container
