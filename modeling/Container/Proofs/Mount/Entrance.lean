import Container.Proofs.Command.Parts
import Container.Proofs.Host.Disk
import Container.Proofs.Host.Storing
import Container.Proofs.Mount.Confinement
import Container.Proofs.Series

set_option autoImplicit false

/-!
# Which directory becomes the root

The path of the session directory is followed three times: the last mount is made where it leads,
the process enters the directory there, and the root is changed to where it leads. In between, the
process has entered a directory. That makes no difference to an absolute path. A relative one is
followed from inside the session directory the third time, and leads to something in the root of the
container, or nowhere.

## Main definitions

* `FileTree.Linkless` — a place with no links at or below it.
* `Engine.ComesToStaging`, `Engine.ComesToRoot` — the worlds in which the last mount is made and the
  change of the root is asked for.
* `System.Shows` — what is known of a system in which paths lead where a tree says.

## Main results

* `FileTree.reaches_of_absolute`, `FileTree.reaches_of_relative`,
  `FileTree.not_reaches_of_goesDown` — paths followed from where they lead.
* `Engine.comesToRoot_iff` — when a creation comes to the change of the root.
* `Engine.landing_law` — where it lands, and with a session directory named from the working
  directory `Engine.landing_law_fromHere` — not where the last mount was made.
-/

namespace Container

open Container.Path FileTree

variable {σ : Type} {sys : System σ} {ops : Privileged σ} {treeOf : σ → FileTree}
  {viewOf : σ → Viewpoint} {engine : Engine} {world asked : σ}

/-! ## Following a path from where it leads -/

namespace FileTree

variable {tree : FileTree} {v : Viewpoint} {p : Path} {root dir loc : Location} {steps : List Bytes}

/-- There is no link at a location or below it. -/
def Linkless (tree : FileTree) (dir : Location) : Prop :=
  ∀ names f target, tree.find? (dir ++ names) = some f → f.kind ≠ .link target

/-- Where there are no links, names lead down. -/
theorem Leads.eq_of_linkless (h : tree.Leads root dir steps loc) (hlinkless : tree.Linkless dir)
    (hsteps : ∀ n ∈ steps, n = [dot] ∨ IsName n) : loc = dir ++ steps.filter (· ≠ [dot]) := by
  induction h with
  | here dir => simp
  | @step dir next loc n more steps first rest ih =>
    have hrest : ∀ m ∈ steps, m = [dot] ∨ IsName m := fun m hm => hsteps m (by simp [hm])
    cases first with
    | current => simpa using ih hlinkless hrest
    | parent =>
      rcases hsteps [dot, dot] (by simp) with hdot | hname
      · simp at hdot
      · exact absurd rfl hname.2
    | enter hn hfind hkind =>
      have hbelow : tree.Linkless (dir ++ [n]) := fun names f target hf =>
        hlinkless (n :: names) f target (by simpa using hf)
      have hloc := ih hbelow hrest
      simpa [hn.1] using hloc
    | link hn hfind hkind => exact absurd hkind (hlinkless [n] _ _ hfind)
  | file hn => simp [hn.1]

/-- A path with bytes that is not absolute has steps. -/
theorem stepsOf_ne_nil (hne : p.bytes ≠ []) (hrelative : p.isAbsolute = false) :
    stepsOf p.bytes ≠ [] := by
  obtain ⟨bytes⟩ := p
  cases bytes with
  | nil => exact absurd rfl hne
  | cons b bs =>
    have hb : b ≠ slash := by simpa [isAbsolute] using hrelative
    obtain ⟨seg, segs, hsegs⟩ := List.exists_cons_of_ne_nil (segments_ne_nil bs)
    simp [stepsOf, segments_cons hb hsegs]

/-- An absolute path leads to the same place from every directory. -/
theorem reaches_of_absolute (h : p.isAbsolute = true) (cwd : Location) :
    tree.Reaches { v with cwd } p loc ↔ tree.Reaches v p loc := by
  have hhead : p.bytes.head? = some slash := by simpa [isAbsolute] using h
  unfold Reaches startOf
  rw [if_pos hhead, if_pos hhead]

/-- A relative path leads on from the directory that a process is in. -/
theorem reaches_of_relative (h : p.isAbsolute = false) (cwd : Location) :
    tree.Reaches { v with cwd } p loc ↔
      p.bytes ≠ [] ∧ tree.Leads v.root cwd (wholeSteps p.bytes) loc := by
  have hhead : p.bytes.head? ≠ some slash := by simpa [isAbsolute] using h
  unfold Reaches startOf
  rw [if_neg hhead]

/-- **A path made of names does not lead back** to a directory with no links in it. -/
theorem not_reaches_of_goesDown (hdown : p.GoesDown) (hlinkless : tree.Linkless dir) :
    ¬ tree.Reaches { v with cwd := dir } p dir := by
  rw [reaches_of_relative hdown.relative]
  rintro ⟨hne, hleads⟩
  obtain ⟨n, steps, hsteps⟩ := List.exists_cons_of_ne_nil (stepsOf_ne_nil hne hdown.relative)
  have hnames := hdown.names
  have hall : ∀ n ∈ wholeSteps p.bytes, n = [dot] ∨ IsName n := by
    intro n hn
    rcases List.mem_append.mp hn with hn | hn
    · exact .inr (hnames n hn)
    · unfold slashStep at hn
      split at hn
      · exact .inl (List.mem_singleton.mp hn)
      · cases hn
  have hloc := hleads.eq_of_linkless hlinkless hall
  have hn : n ≠ [dot] := (hnames n (by simp [hsteps])).1
  have hlength := congrArg List.length hloc
  simp [wholeSteps, hsteps, hn] at hlength

end FileTree

/-! ## How a creation comes to the change of the root -/

namespace Engine

/-- What follows the change of the root. -/
def settleIn (sys : System σ) (ops : Privileged σ) (engine : Engine) : Act σ Unit := do
  changeDir sys "/"
  ops.close
  sys.report .info .creation "container created"
    [("container", .shown engine.identity.containerId)]

/-- A creation comes to the change of the root in a world: whatever changing the root is, it is
asked for in that world, and for the session directory. -/
def ComesToRoot (sys : System σ) (ops : Privileged σ) (engine : Engine) (world asked : σ) : Prop :=
  ∀ chroot : Path → Act σ Int32, engine.create sys { ops with chroot } world =
    (chroot engine.config.layout.sessionDir >>= fun _ => engine.settleIn sys ops) asked

/-- All that comes before the mounts of a creation. It answers which these are. -/
def arrange (sys : System σ) (engine : Engine) : Act σ MountPlan := do
  let plan ← engine.checked sys
  engine.runHooks sys Phase.pre
  engine.makeTmpDirs sys
  sys.report .debug .creation "mounting image directory"
    [("rootfs", .shown engine.config.rootfs.display)]
  return plan

/-- A creation comes to its last mount in a world: the mounts before it were made or passed over,
and left that world. -/
def ComesToStaging (sys : System σ) (ops : Privileged σ) (engine : Engine) (world staged : σ) :
    Prop :=
  ∃ plan begun, engine.arrange sys world = (.ok plan, begun) ∧
    plan.ComesTo sys ops begun (MountPlan.stagingStep engine.config.layout) [] staged

/-- The session directory is entered, which is reported before and after. -/
def enterSession (sys : System σ) (engine : Engine) : Act σ Unit := do
  let session := engine.config.layout.sessionDir
  sys.report .debug .creation "chdir into session directory" [("dir", .shown session.display)]
  changeDir sys session
  sys.report .debug .creation "chroot into session directory" [("dir", .shown session.display)]

/-- A creation in three parts. -/
theorem create_eq_enterSession (sys : System σ) (ops : Privileged σ) (engine : Engine)
    (chroot : Path → Act σ Int32) :
    engine.create sys { ops with chroot } = (do
      engine.prepare sys ops
      engine.enterSession sys
      let _ ← chroot engine.config.layout.sessionDir
      engine.settleIn sys ops) := by
  rw [create_eq_prepare]
  simp only [enter, enterSession, settleIn, bind_assoc]
  rfl

/-- **A creation comes to the change of the root** if the root of the container was put together and
the session directory was entered. -/
theorem comesToRoot_iff :
    engine.ComesToRoot sys ops world asked ↔ ∃ prepared,
      engine.prepare sys ops world = (.ok (), prepared) ∧
        engine.enterSession sys prepared = (.ok (), asked) := by
  constructor
  · intro h
    -- What stopped before would not depend on what changing the root is.
    have hpanic := h fun _ s => (.error .panicked, s)
    have hfail := h fun _ => Act.fail (.config (.escapes .empty))
    rw [create_eq_enterSession] at hpanic hfail
    simp only [Act.run_bind] at hpanic hfail
    rcases hprepare : engine.prepare sys ops world with ⟨stop | _, prepared⟩
    · rw [hprepare] at hpanic hfail
      cases hpanic
      cases hfail
    · rw [hprepare] at hpanic hfail
      simp only at hpanic hfail
      rcases henter : engine.enterSession sys prepared with ⟨stop | _, entered⟩
      · rw [henter] at hpanic hfail
        cases hpanic
        cases hfail
      · rw [henter] at hpanic
        cases hpanic
        exact ⟨prepared, rfl, henter⟩
  · rintro ⟨prepared, hprepare, henter⟩ chroot
    rw [create_eq_enterSession, Act.run_bind, hprepare]
    simp only [Act.run_bind, henter]

end Engine

/-! ## What a process sees -/

/-- What is known of a system in which paths lead where a tree says, as a process sees it. What a
process starts, and what is mounted, does not change how it sees the tree. -/
structure System.Shows (sys : System σ) (ops : Privileged σ) (treeOf : σ → FileTree)
    (viewOf : σ → Viewpoint) : Prop where
  /-- A directory that is entered is where its path leads. -/
  changeDir : ∀ path s s', sys.changeDir path s = (.ok (), s') →
    ∃ dir, (treeOf s).Reaches (viewOf s) path dir ∧ viewOf s' = { viewOf s with cwd := dir } ∧
      treeOf s' = treeOf s
  log : ∀ event s, treeOf (sys.log event s).2 = treeOf s ∧ viewOf (sys.log event s).2 = viewOf s
  stat : ∀ path s, viewOf (sys.stat path s).2 = viewOf s
  makeDirs : ∀ path s, viewOf (sys.makeDirs path s).2 = viewOf s
  run : ∀ command s, viewOf (sys.run command s).2 = viewOf s
  mount : ∀ request s, viewOf (ops.mount request s).2 = viewOf s

namespace System.Shows

variable (h : sys.Shows ops treeOf viewOf) {v : Viewpoint}
include h

/-- A report does not change the view. -/
theorem preserves_report (level : Level) (source : LogSource) (message : String)
    (values : List (String × LogValue)) :
    Act.Preserves (viewOf · = v) (liftM (sys.report level source message values) : Act σ Unit) :=
  .lift fun s hs => (h.log _ s).2.trans hs

/-- Nor does what has to hold before anything is done. -/
theorem preserves_checked (engine : Engine) :
    Act.Preserves (viewOf · = v) (engine.checked sys) := by
  unfold Engine.checked Engine.checkName Engine.checkRootfs
  refine Act.Preserves.bind (by split; exacts [.pure _, .fail _]) fun _ => ?_
  refine Act.Preserves.bind ?_ fun _ => by split; exacts [.pure _, .fail _]
  exact (Act.Preserves.call fun s hs => (h.stat _ s).trans hs).bind fun info => by
    split
    exacts [.pure _, .fail _]

/-- Nor do hooks. -/
theorem preserves_runHooks (engine : Engine) (phase : String) :
    Act.Preserves (viewOf · = v) (engine.runHooks sys phase) := by
  refine Act.Preserves.forM fun (label, script) _ => ?_
  unfold Hook.run
  refine (h.preserves_report _ _ _ _).bind fun _ =>
    (Act.Preserves.call fun s hs => (h.run _ s).trans hs).bind fun status => ?_
  split
  · exact h.preserves_report _ _ _ _
  · exact .fail _

/-- Nor do directories that are made. -/
theorem preserves_makeTmpDirs (engine : Engine) :
    Act.Preserves (viewOf · = v) (engine.makeTmpDirs sys) := by
  unfold Engine.makeTmpDirs
  split
  · exact Act.Preserves.forM fun (source, _) _ =>
      .call fun s hs => (h.makeDirs source s).trans hs
  · exact .pure _

/-- Nor does the mount of a step. -/
theorem preserves_applyStep (step : MountStep) :
    Act.Preserves (viewOf · = v) (MountPlan.applyStep sys ops step) := by
  have hmount : Act.Preserves (viewOf · = v) (ops.mount step.request) :=
    fun s hs => (h.mount step.request s).trans hs
  unfold MountPlan.applyStep
  refine (h.preserves_report _ _ _ _).bind fun _ => hmount.guarded.bind fun answer => ?_
  cases answer with
  | ok => exact .pure _
  | error f =>
    simp only
    split
    · exact .fail _
    · exact h.preserves_report _ _ _ _

end System.Shows

namespace MountPlan

/-- Steps that are all made are made up to the last, and then that is made. -/
theorem exists_of_forM_concat {earlier : List MountStep} {last : MountStep} {s s' : σ}
    (h : (earlier ++ [last]).forM (applyStep sys ops) s = (.ok (), s')) :
    ∃ staged, earlier.forM (applyStep sys ops) s = (.ok (), staged) ∧
      applyStep sys ops last staged = (.ok (), s') := by
  rw [List.forM_eq_forM, List.forM_append] at h
  obtain ⟨⟨⟩, staged, hearlier, hlast⟩ := Act.exists_of_bind h
  obtain ⟨⟨⟩, mounted, hmounted, hnothing⟩ := Act.exists_of_bind hlast
  cases hnothing
  exact ⟨staged, hearlier, hmounted⟩

end MountPlan

namespace Engine

/-- What is checked is a plan for the container. -/
theorem forContainer_of_checked {plan : MountPlan} {s s' : σ}
    (h : engine.checked sys s = (.ok plan, s')) :
    MountPlan.forContainer engine.config = .ok plan := by
  unfold checked at h
  obtain ⟨⟨⟩, named, -, h⟩ := Act.exists_of_bind h
  obtain ⟨⟨⟩, looked, -, h⟩ := Act.exists_of_bind h
  cases hplan : MountPlan.forContainer engine.config with
  | error fault =>
    rw [hplan] at h
    cases h
  | ok made =>
    rw [hplan] at h
    cases h
    rfl

/-- What is arranged is a plan for the container. -/
theorem forContainer_of_arrange {plan : MountPlan} {s s' : σ}
    (h : engine.arrange sys s = (.ok plan, s')) :
    MountPlan.forContainer engine.config = .ok plan := by
  unfold arrange at h
  obtain ⟨checked, mid, hchecked, h⟩ := Act.exists_of_bind h
  obtain ⟨⟨⟩, hooked, -, h⟩ := Act.exists_of_bind h
  obtain ⟨⟨⟩, made, -, h⟩ := Act.exists_of_bind h
  obtain ⟨⟨⟩, begun, -, h⟩ := Act.exists_of_bind h
  cases h
  exact forContainer_of_checked hchecked

/-- The view stays as it is up to the last mount. -/
theorem ComesToStaging.view (h : sys.Shows ops treeOf viewOf) {staged : σ}
    (hcomes : engine.ComesToStaging sys ops world staged) : viewOf staged = viewOf world := by
  obtain ⟨plan, begun, harrange, earlier, -, hearlier⟩ := hcomes
  have hbegun : viewOf begun = viewOf world :=
    Act.Preserves.after (I := (viewOf · = viewOf world)) ((h.preserves_checked engine).bind
      fun _ => (h.preserves_runHooks engine Phase.pre).bind fun _ =>
        (h.preserves_makeTmpDirs engine).bind fun _ =>
          (h.preserves_report _ _ _ _).bind fun _ => .pure _) harrange rfl
  exact (Act.Preserves.forM fun step _ => h.preserves_applyStep step).after hearlier hbegun

/-- **A root that was put together** was put together with its last mount, and the view of the
process is as it was. -/
theorem exists_staged (h : sys.Shows ops treeOf viewOf) {prepared : σ}
    (hrun : engine.prepare sys ops world = (.ok (), prepared)) :
    (∃ staged mounted, engine.ComesToStaging sys ops world staged ∧
      MountPlan.applyStep sys ops (MountPlan.stagingStep engine.config.layout) staged =
        (.ok (), mounted)) ∧ viewOf prepared = viewOf world := by
  have hparts : engine.prepare sys ops = (do
      let plan ← engine.arrange sys
      plan.apply sys ops
      engine.runHooks sys Phase.setup) := by
    simp only [prepare, arrange, bind_assoc, pure_bind]
  rw [hparts] at hrun
  obtain ⟨plan, begun, harrange, hrun⟩ := Act.exists_of_bind hrun
  obtain ⟨⟨⟩, mounted, hmounted, hsetup⟩ := Act.exists_of_bind hrun
  obtain ⟨binds, -, hsteps⟩ := MountPlan.forContainer_eq_ok (forContainer_of_arrange harrange)
  unfold MountPlan.apply at hmounted
  rw [hsteps] at hmounted
  obtain ⟨staged, hearlier, hlast⟩ := MountPlan.exists_of_forM_concat hmounted
  have hstaged : engine.ComesToStaging sys ops world staged :=
    ⟨plan, begun, harrange, _, hsteps, hearlier⟩
  have hview := (h.preserves_applyStep _).after hlast (hstaged.view h)
  exact ⟨⟨staged, mounted, hstaged, hlast⟩,
    (h.preserves_runHooks engine Phase.setup).after hsetup hview⟩

/-- **Once the session directory was entered**, the process is where its path led before. -/
theorem exists_entered (h : sys.Shows ops treeOf viewOf) {prepared : σ}
    (hrun : engine.enterSession sys prepared = (.ok (), asked)) :
    ∃ dir, (treeOf asked).Reaches (viewOf prepared) engine.config.layout.sessionDir dir ∧
      viewOf asked = { viewOf prepared with cwd := dir } := by
  unfold enterSession at hrun
  obtain ⟨⟨⟩, begun, hbegun, hrun⟩ := Act.exists_of_bind hrun
  obtain ⟨⟨⟩, entered, hentered, hasked⟩ := Act.exists_of_bind hrun
  obtain ⟨-, rfl⟩ := Prod.mk.inj hbegun
  obtain ⟨-, rfl⟩ := Prod.mk.inj hasked
  have hbegun := h.log ⟨.debug, .creation, "chdir into session directory",
    [("dir", .shown engine.config.layout.sessionDir.display)]⟩ prepared
  have hasked := h.log ⟨.debug, .creation, "chroot into session directory",
    [("dir", .shown engine.config.layout.sessionDir.display)]⟩ entered
  have hcall : sys.changeDir engine.config.layout.sessionDir (sys.log ⟨.debug, .creation,
      "chdir into session directory", [("dir", .shown engine.config.layout.sessionDir.display)]⟩
      prepared).2 = (.ok (), entered) := by
    unfold changeDir at hentered
    rw [Act.run_call] at hentered
    obtain ⟨hanswer, hstate⟩ := Prod.mk.inj hentered
    refine Prod.ext ?_ hstate
    cases hcall : (sys.changeDir engine.config.layout.sessionDir _).1 with
    | ok => rfl
    | error errno =>
      have herror := hanswer
      rw [show (sys.changeDir engine.config.layout.sessionDir _).1 = _ from hcall] at herror
      cases herror
  obtain ⟨dir, hreaches, hview, htree⟩ := h.changeDir _ _ _ hcall
  refine ⟨dir, ?_, ?_⟩
  · rw [show treeOf _ = _ from hasked.1, htree]
    rw [hbegun.2] at hreaches
    exact hreaches
  · rw [show viewOf _ = _ from hasked.2, hview, hbegun.2]

/-- **Which directory becomes the root.** A creation that comes to the change of the root has made
its last mount, on the session directory as the process saw it at first. If the hooks that came
after that have left the way there, the process is in that directory by now, and it is from there
that the path of the session directory is followed once more. An absolute path leads there again. A
relative one does only if it leads from there back to where it begins; and if it is made of names,
and there are no links in the root of the container, it does not.

**Proof sketch.** Nothing but entering a directory changes how a process sees the tree, and a path
leads to one place at most. Where an absolute path leads does not depend on the directory a process
is in; where there are no links, names lead down. -/
theorem landing_law (hshows : sys.Shows ops treeOf viewOf)
    (hcomes : engine.ComesToRoot sys ops world asked) :
    (∃ staged mounted, engine.ComesToStaging sys ops world staged ∧
      MountPlan.applyStep sys ops (MountPlan.stagingStep engine.config.layout) staged =
        (.ok (), mounted)) ∧
    ∀ staged loc, engine.ComesToStaging sys ops world staged →
      (treeOf staged).Reaches (viewOf staged) engine.config.layout.sessionDir loc →
      (treeOf asked).Reaches (viewOf staged) engine.config.layout.sessionDir loc →
        viewOf asked = { viewOf world with cwd := loc } ∧
        (engine.config.layout.sessionDir.isAbsolute = true →
          (treeOf asked).Reaches (viewOf asked) engine.config.layout.sessionDir loc) ∧
        (engine.config.layout.sessionDir.isAbsolute = false →
          ((treeOf asked).Reaches (viewOf asked) engine.config.layout.sessionDir loc ↔
            (treeOf asked).Leads (viewOf world).root loc
              (wholeSteps engine.config.layout.sessionDir.bytes) loc)) ∧
        (engine.config.layout.sessionDir.GoesDown → (treeOf asked).Linkless loc →
          ¬ (treeOf asked).Reaches (viewOf asked) engine.config.layout.sessionDir loc) := by
  obtain ⟨prepared, hprepare, henter⟩ := comesToRoot_iff.mp hcomes
  obtain ⟨hstaged, hprepared⟩ := exists_staged hshows hprepare
  obtain ⟨dir, hreaches, hasked⟩ := exists_entered hshows henter
  rw [hprepared] at hreaches hasked
  refine ⟨hstaged, fun staged loc hcomes _ hkept => ?_⟩
  rw [hcomes.view hshows] at hkept
  obtain rfl := hreaches.2.eq hkept.2
  refine ⟨hasked, fun habsolute => ?_, fun hrelative => ?_, fun hdown hlinkless => ?_⟩
  · rw [hasked, reaches_of_absolute habsolute]
    exact hreaches
  · rw [hasked, reaches_of_relative hrelative]
    exact and_iff_right hreaches.1
  · rw [hasked]
    exact not_reaches_of_goesDown hdown hlinkless

end Engine

/-! ## A session directory named from the working directory -/

namespace Host

/-- A host on which every command ends well and does nothing. -/
def obliging : System Host :=
  { Host.system .whole with run := fun _ host => (.ok (.ofInt 0), host) }

/-- Entering a directory of a host. -/
theorem exists_of_changeDir {p : Path} {host host' : Host}
    (h : Host.changeDir p host = (.ok (), host')) :
    ∃ dir, host.tree.Reaches host.view p dir ∧
      host' = { host with view := { host.view with cwd := dir } } := by
  unfold Host.changeDir at h
  by_cases hnul : p.hasNul
  · simp only [if_pos hnul] at h
    cases h
  · simp only [if_neg hnul] at h
    cases hstat : host.tree.statAt host.view p with
    | error e =>
      simp only [hstat] at h
      cases h
    | ok f =>
      simp only [hstat] at h
      split at h
      · cases h
      · cases hrequire : f.require .run with
        | error e =>
          simp only [hrequire] at h
          cases h
        | ok =>
          simp only [hrequire] at h
          cases h
          exact ⟨f.location, reaches_of_statAt hstat, rfl⟩

/-- Such a host shows its tree, whatever is mounted. -/
theorem obliging_shows : obliging.Shows mounting Host.tree Host.view where
  changeDir path host host' h := by
    obtain ⟨dir, hreaches, rfl⟩ := exists_of_changeDir h
    exact ⟨dir, hreaches, rfl, rfl⟩
  log event host := ⟨rfl, rfl⟩
  stat path host := by
    have hrun : obliging.stat path host = (_, host) := stat_eq path host
    rw [hrun]
  makeDirs path host := by
    by_cases hnul : path.hasNul
    · have hrun : obliging.makeDirs path host = (.error .nulInFileName, host) := by
        show withPath path _ host = _
        unfold withPath
        rw [if_pos hnul]
        rfl
      rw [hrun]
    · rw [show obliging.makeDirs path host = _ from run_makeDirs (by simpa using hnul) host]
  run command host := rfl
  mount request host := by
    unfold mounting
    simp only
    split <;> rfl

/-- A host with an image in which there are no links. -/
def withSession : Host where
  tree :=
    let directories := ["", "/proc", "/home", "/dev", "/etc", "/final", "/session",
      "/image", "/image/proc", "/image/sys", "/image/home", "/image/dev", "/image/etc"]
    let files := ["/etc/resolv.conf", "/etc/hosts", "/image/etc/resolv.conf", "/image/etc/hosts"]
    ⟨directories.map (fun p => ⟨Location.ofText p, 0, 0o755, .directory⟩) ++
      files.map (fun p => ⟨Location.ofText p, 0, 0o644, .regular []⟩), 1⟩
  view := ⟨[], [], usualMask⟩
  environment := ⟨[]⟩
  output := #[]
  pipes := []
  nextId := 1
  ended? := none

end Host

namespace Engine

/-- A container whose session directory is named from the working directory. -/
def fromHere : Engine where
  identity := ⟨"c1", "shroud", ⟨["/bin/sh"], []⟩⟩
  config := { Config.plain with layout := ⟨"session", "/final"⟩ }

/-- The creation of that container, up to its last mount. -/
def fromHereStaged : Except Stop Unit × Host :=
  (fromHere.arrange Host.obliging >>= fun plan =>
    plan.steps.dropLast.forM (MountPlan.applyStep Host.obliging Host.mounting)) Host.withSession

/-- The creation of that container, up to the change of the root. -/
def fromHereAsked : Except Stop Unit × Host :=
  (fromHere.prepare Host.obliging Host.mounting >>= fun _ => fromHere.enterSession Host.obliging)
    Host.withSession

/-- The session directory is found in the working directory, and at the end there are no links. -/
theorem fromHere_found : (fromHereStaged.1.isOk && fromHereAsked.1.isOk &&
    (fromHereStaged.2.tree.statAt fromHereStaged.2.view "session").toOption.map (·.location) ==
      some [Utf8.bytes "session"] &&
    (fromHereAsked.2.tree.statAt fromHereStaged.2.view "session").toOption.map (·.location) ==
      some [Utf8.bytes "session"] &&
    fromHereAsked.2.tree.files.all fun f => match f.kind with | .link _ => false | _ => true) =
      true := by
  cbv

/-- What is found at a path is where it leads. -/
theorem reaches_of_found {tree : FileTree} {v : Viewpoint} {p : Path} {loc : Location}
    (h : (tree.statAt v p).toOption.map (·.location) = some loc) : tree.Reaches v p loc := by
  cases hstat : tree.statAt v p with
  | error e => simp [hstat, Except.toOption] at h
  | ok f =>
    rw [hstat] at h
    cases h
    exact reaches_of_statAt hstat

/-- The creation comes to its last mount. -/
theorem fromHere_comesToStaging (h : fromHereStaged.1 = .ok ()) :
    fromHere.ComesToStaging Host.obliging Host.mounting Host.withSession fromHereStaged.2 := by
  obtain ⟨plan, begun, harrange, hearlier⟩ := Act.exists_of_bind
    (show fromHereStaged = (.ok (), fromHereStaged.2) from Prod.ext h rfl)
  obtain ⟨binds, -, hsteps⟩ := MountPlan.forContainer_eq_ok (forContainer_of_arrange harrange)
  refine ⟨plan, begun, harrange, plan.steps.dropLast, ?_, hearlier⟩
  rw [hsteps, List.dropLast_concat]

/-- It comes to the change of the root. -/
theorem fromHere_comesToRoot (h : fromHereAsked.1 = .ok ()) :
    fromHere.ComesToRoot Host.obliging Host.mounting Host.withSession fromHereAsked.2 := by
  obtain ⟨⟨⟩, prepared, hprepare, henter⟩ := Act.exists_of_bind
    (show fromHereAsked = (.ok (), fromHereAsked.2) from Prod.ext h rfl)
  exact comesToRoot_iff.mpr ⟨prepared, hprepare, henter⟩

/-- The last mount was made on the session directory, and the root is looked for inside it, where
there is no such directory. -/
theorem landing_law_fromHere : ∃ staged asked,
    fromHere.ComesToStaging Host.obliging Host.mounting Host.withSession staged ∧
    staged.tree.Reaches staged.view "session" [Utf8.bytes "session"] ∧
    fromHere.ComesToRoot Host.obliging Host.mounting Host.withSession asked ∧
    asked.view.cwd = [Utf8.bytes "session"] ∧
    ¬ asked.tree.Reaches asked.view "session" [Utf8.bytes "session"] := by
  have hfound := fromHere_found
  simp only [Bool.and_eq_true, beq_iff_eq] at hfound
  obtain ⟨⟨⟨⟨hstaged, hasked⟩, hsession⟩, hkept⟩, hlinks⟩ := hfound
  have hok : ∀ {r : Except Stop Unit}, r.isOk = true → r = .ok () := by
    rintro (stop | ⟨⟩) h
    · cases h
    · rfl
  have hstaging := fromHere_comesToStaging (hok hstaged)
  have hroot := fromHere_comesToRoot (hok hasked)
  have hlinkless : fromHereAsked.2.tree.Linkless [Utf8.bytes "session"] := by
    intro names f target hfind hkind
    have hf := List.all_eq_true.mp hlinks f (List.mem_of_find?_eq_some hfind)
    rw [hkind] at hf
    cases hf
  obtain ⟨hview, -, -, hdown⟩ := (landing_law Host.obliging_shows hroot).2 _ _ hstaging
    (reaches_of_found hsession) (reaches_of_found hkept)
  exact ⟨_, _, hstaging, reaches_of_found hsession, hroot, congrArg Viewpoint.cwd hview,
    hdown (by decide +kernel) hlinkless⟩

end Engine

end Container
