import Mathlib
import Container.Host.Calls
import Container.Host.Furnish
import Container.Mount.Apply
import Container.Proofs.Act
import Container.Proofs.Host.Leads
import Container.Proofs.Mount.Plan

set_option autoImplicit false

/-!
# Where the mounts of a plan are made

The targets of a plan are paths below the final directory, and no step of them goes up again. This
is not enough to keep the mounts there: a name on the way may be a link, and the links in the root
of a container come with its image. The mounts stay inside exactly as long as no link in the final
directory, or below it, leads out of it.

## Main definitions

* `Path.GoesDown` — a relative path that never goes up.
* `FileTree.Confined` — a directory that no link leads out of.
* `MountPlan.ComesTo` — carrying out a plan comes to a step.
* `Host.mounting` — mounts on a host in memory.

## Main results

* `MountPlan.target_of_mem` — the targets of a plan.
* `FileTree.Confined.inside` — names lead nowhere else from a directory that no link leads out of.
* `MountPlan.inside_iff_confined` — when the mounts of a plan are made inside the root, and on a
  host with a linked image `MountPlan.bind_outside_linkedRoot` — one that is not.
-/

namespace Container

open Container.Path

/-- A relative path all of whose steps are names. -/
structure Path.GoesDown (p : Path) : Prop where
  relative : p.isAbsolute = false
  names : ∀ n ∈ FileTree.stepsOf p.bytes, IsName n

instance (p : Path) : Decidable p.GoesDown :=
  decidable_of_iff (p.isAbsolute = false ∧ ∀ n ∈ FileTree.stepsOf p.bytes, IsName n)
    ⟨fun ⟨relative, names⟩ => ⟨relative, names⟩, fun ⟨relative, names⟩ => ⟨relative, names⟩⟩

/-- A path made of names goes down. -/
theorem Path.goesDown_joinSegments {names : List Bytes} (h : ∀ n ∈ names, IsEntry n) :
    GoesDown ⟨joinSegments names⟩ := by
  refine ⟨isAbsolute_joinSegments h, ?_⟩
  rw [FileTree.stepsOf_joinSegments h]
  exact fun n hn => (h n hn).isName

namespace MountPlan

variable {config : Config} {plan : MountPlan} {step : MountStep}

/-! ## Targets -/

/-- A step of a plan that another follows is not the mount of the whole tree. -/
theorem mem_of_split (h : forContainer config = .ok plan) {earlier later : List MountStep}
    (hsteps : plan.steps = earlier ++ step :: later) (hlater : later ≠ []) :
    ∃ binds, config.binds.mapM (bindStep config.layout.finalDir) = .ok binds ∧
      step ∈ systemSteps config.rootfs config.layout.finalDir ++ tmpSteps config ++ binds := by
  obtain ⟨binds, hbinds, hplan⟩ := forContainer_eq_ok h
  refine ⟨binds, hbinds, ?_⟩
  have hinit : earlier ++ step :: later.dropLast =
      systemSteps config.rootfs config.layout.finalDir ++ tmpSteps config ++ binds := by
    have hdrop := congrArg List.dropLast (hsteps.symm.trans hplan)
    rw [List.dropLast_concat, List.dropLast_append_of_ne_nil (by simp),
      List.dropLast_cons_of_ne_nil hlater] at hdrop
    exact hdrop
  rw [← hinit]
  simp

/-- **The target of a mount** is the final directory, or a path below it that never goes up. -/
theorem target_of_mem {binds : List MountStep}
    (hbinds : config.binds.mapM (bindStep config.layout.finalDir) = .ok binds)
    (h : step ∈ systemSteps config.rootfs config.layout.finalDir ++ tmpSteps config ++ binds) :
    step.request.target = config.layout.finalDir ∨
      ∃ relative : Path, relative.GoesDown ∧
        step.request.target = config.layout.finalDir.join relative := by
  simp only [List.mem_append] at h
  rcases h with (h | h) | h
  · simp only [systemSteps, MountStep.bindTree, List.mem_cons, List.not_mem_nil, or_false] at h
    rcases h with rfl | rfl | rfl | rfl | rfl | rfl | rfl
    · exact .inl rfl
    · exact .inr ⟨"proc", by decide, rfl⟩
    · exact .inr ⟨"sys", by decide, rfl⟩
    · exact .inr ⟨"home", by decide, rfl⟩
    · exact .inr ⟨"dev", by decide, rfl⟩
    · exact .inr ⟨"etc/resolv.conf", by decide, rfl⟩
    · exact .inr ⟨"etc/hosts", by decide, rfl⟩
  · obtain ⟨source, target, hmem, rfl⟩ := exists_of_mem_tmpSteps h
    have htarget : target = "tmp" ∨ target = "var/tmp" := by
      unfold tmpSources at hmem
      split at hmem
      · simp only [List.mem_cons, Prod.mk.injEq, List.not_mem_nil, or_false] at hmem
        exact hmem.imp And.right And.right
      · simp only [List.mem_cons, Prod.mk.injEq, List.not_mem_nil, or_false] at hmem
        exact hmem.imp And.right And.right
    refine .inr ⟨target, ?_, rfl⟩
    rcases htarget with rfl | rfl
    · decide
    · decide
  · obtain ⟨bind, -, hbind⟩ := exists_of_mem_mapM hbinds h
    obtain ⟨cs, hcs, rfl⟩ := exists_of_bindStep hbind
    obtain ⟨names, rfl, hnames⟩ := exists_names fun c hc => by
      obtain ⟨hmem, n, rfl⟩ := mem_of_containedNames? hcs hc
      exact ⟨n, rfl, isEntry_of_mem_components hmem⟩
    rw [ofComponents_names]
    exact .inr ⟨_, goesDown_joinSegments hnames, rfl⟩

end MountPlan

/-! ## Directories that no link leads out of -/

namespace FileTree

variable {tree : FileTree} {v : Viewpoint} {root dir mid loc : Location} {names steps : List Bytes}

/-- No link in a directory or below it leads out of it. -/
def Confined (tree : FileTree) (root dir : Location) : Prop :=
  ∀ parent n f target loc, dir <+: parent → tree.find? (parent ++ [n]) = some f →
    f.kind = .link target → tree.Leads root parent [n] loc → dir <+: loc

/-- A step that leads nowhere else or goes down. -/
def StaysOrGoesDown (step : Bytes) : Prop := step = [dot] ∨ IsName step

/-- **Names lead nowhere else** from a directory that no link leads out of.

**Proof sketch.** By induction on the names: a name leads to what has that name in the directory
reached so far, which lies at or below the one from which the names are followed, or else it is
that of a link, and leads where the link leads. -/
theorem Confined.inside (h : tree.Confined root dir) (hsteps : ∀ n ∈ steps, StaysOrGoesDown n)
    (hmid : dir <+: mid) (hleads : tree.Leads root mid steps loc) : dir <+: loc := by
  induction steps generalizing mid with
  | nil =>
    cases hleads
    exact hmid
  | cons n steps ih =>
    have hrest : ∀ n ∈ steps, StaysOrGoesDown n := fun n hn => hsteps n (by simp [hn])
    have hsplit : tree.Leads root mid ([n] ++ steps) loc := hleads
    obtain ⟨next, hnext, hleads⟩ := hsplit.split
    refine ih hrest ?_ hleads
    have hbelow : dir <+: mid ++ [n] := hmid.trans (List.prefix_append mid [n])
    cases hnext with
    | file hn hfind hdir hlink => exact hbelow
    | step first rest =>
      cases first with
      | current =>
        cases rest
        exact hmid
      | parent =>
        rcases hsteps [dot, dot] (by simp) with hcurrent | hname
        · simp at hcurrent
        · exact absurd rfl hname.2
      | enter hn hfind hkind =>
        cases rest
        exact hbelow
      | link hn hfind hkind htarget =>
        -- Only here the way may leave the directory, and may come back before it ends.
        exact h _ _ _ _ _ hmid hfind hkind (.step (.link hn hfind hkind htarget) rest)

/-- In a tree whose files lie in directories, the names of the directory of a file lead there. -/
theorem WellFormed.leads (h : tree.WellFormed) {n : Bytes} {f : File}
    (hfind : tree.find? (dir ++ names ++ [n]) = some f) :
    (∃ d, tree.find? dir = some d ∧ d.kind = .directory) ∧ (∀ m ∈ names ++ [n], IsEntry m) ∧
      tree.Leads root dir names (dir ++ names) := by
  induction names generalizing dir with
  | nil =>
    rw [List.append_nil] at hfind ⊢
    obtain ⟨hn, hdir⟩ := h.parent hfind
    exact ⟨hdir, by simpa using hn, .here dir⟩
  | cons m names ih =>
    have hassoc : dir ++ m :: names = (dir ++ [m]) ++ names := by simp
    rw [hassoc] at hfind ⊢
    obtain ⟨⟨d, hd, hkind⟩, hnames, hleads⟩ := ih hfind
    obtain ⟨hm, hdir⟩ := h.parent hd
    refine ⟨hdir, ?_, .step (.enter hm.isName hd hkind) hleads⟩
    intro k hk
    rcases List.mem_cons.mp hk with rfl | hk
    · exact hm
    · exact hnames k hk

/-! ## Paths below another path -/

/-- A path leads where its steps do, whether it ends in a slash or not. -/
theorem Reaches.leads {p : Path} (h : tree.Reaches v p loc) :
    tree.Leads v.root (startOf v.root v.cwd p.bytes) (stepsOf p.bytes) loc := by
  obtain ⟨mid, hmid, hrest⟩ := h.2.split
  unfold slashStep at hrest
  split at hrest
  · have hhere : tree.Leads v.root mid [[dot]] mid := .step .current (.here mid)
    rw [hrest.eq hhere]
    exact hmid
  · cases hrest
    exact hmid

/-- A path that goes down from another leads on from where that one leads. -/
theorem Reaches.of_join {p q : Path} (hq : q.isAbsolute = false) (hp : tree.Reaches v p dir)
    (h : tree.Reaches v (p.join q) loc) :
    tree.Leads v.root dir (stepsOf q.bytes ++ slashStep (endsInSlash (p.join q).bytes)) loc := by
  have hsteps := h.2
  unfold wholeSteps at hsteps
  rw [stepsOf_join p hq, startOf_join v.root v.cwd p hq, List.append_assoc] at hsteps
  obtain ⟨mid, hmid, hrest⟩ := hsteps.split
  rw [hp.leads.eq hmid]
  exact hrest

/-- Names that lead on from where a path leads can be joined to it. -/
theorem Reaches.join {p : Path} (hp : tree.Reaches v p dir)
    (hdir : ∃ d, tree.find? dir = some d ∧ d.kind = .directory) (hnames : ∀ n ∈ names, IsEntry n)
    (hne : names ≠ []) (h : tree.Leads v.root dir names loc) :
    tree.Reaches v (p.join ⟨joinSegments names⟩) loc := by
  have hrelative := isAbsolute_joinSegments hnames
  have hlast := getLast?_join p hrelative (joinSegments_ne_nil hnames hne)
  have hslash : endsInSlash (p.join ⟨joinSegments names⟩).bytes = false := by
    simpa [endsInSlash, hlast] using getLast?_joinSegments hnames
  have hdirectory : ∀ f, tree.find? dir = some f → f.kind = .directory := by
    obtain ⟨d, hd, hkind⟩ := hdir
    intro f hf
    obtain rfl := Option.some.inj (hd.symm.trans hf)
    exact hkind
  refine ⟨?_, ?_⟩
  · intro hempty
    rw [hempty] at hlast
    exact joinSegments_ne_nil hnames hne (List.getLast?_eq_none_iff.mp hlast.symm)
  · unfold wholeSteps
    rw [hslash, stepsOf_join p hrelative, startOf_join v.root v.cwd p hrelative,
      stepsOf_joinSegments hnames, slashStep, if_neg (by simp), List.append_nil]
    exact hp.leads.append hdirectory h

end FileTree

/-! ## The mounts of a plan -/

namespace MountPlan

variable {σ : Type} {config : Config} {plan : MountPlan} {step : MountStep}

/-- Carrying out a plan comes to a step in a world, with these steps still to follow: the mounts
before it were made or passed over, and left that world. -/
def ComesTo (sys : System σ) (ops : Privileged σ) (plan : MountPlan) (world : σ) (step : MountStep)
    (later : List MountStep) (s : σ) : Prop :=
  ∃ earlier, plan.steps = earlier ++ step :: later ∧
    earlier.forM (applyStep sys ops) world = (.ok (), s)

/-- A target lies inside the final directory if no link there leads out. -/
theorem inside_of_confined {tree : FileTree} {v : Viewpoint} {dir loc : Location}
    {earlier later : List MountStep} (hplan : forContainer config = .ok plan)
    (hsteps : plan.steps = earlier ++ step :: later) (hlater : later ≠ [])
    (hfinal : tree.Reaches v config.layout.finalDir dir) (hconfined : tree.Confined v.root dir)
    (h : tree.Reaches v step.request.target loc) : dir <+: loc := by
  obtain ⟨binds, hbinds, hmem⟩ := mem_of_split hplan hsteps hlater
  rcases target_of_mem hbinds hmem with htarget | ⟨relative, hdown, htarget⟩
  · rw [htarget] at h
    obtain rfl := hfinal.leads.eq h.leads
    exact List.prefix_rfl
  · rw [htarget] at h
    have hrest := FileTree.Reaches.of_join hdown.relative hfinal h
    refine hconfined.inside ?_ (List.prefix_rfl) hrest
    intro n hn
    rcases List.mem_append.mp hn with hn | hn
    · exact .inr (hdown.names n hn)
    · unfold FileTree.slashStep at hn
      split at hn
      · exact .inl (List.mem_singleton.mp hn)
      · simp at hn

/-- One more path can be bound at names below the root. The mount of it comes before the last. -/
theorem forContainer_withBind (hplan : forContainer config = .ok plan) (source : Path)
    {names : List Bytes} (hnames : ∀ n ∈ names, IsEntry n) (hne : names ≠ [])
    {earlier : List MountStep} {staging : MountStep} (hsteps : plan.steps = earlier ++ [staging]) :
    ∃ plan', forContainer (config.withBind source (some ⟨joinSegments names⟩)) = .ok plan' ∧
      plan'.steps = earlier ++ [.bindTree source.display source
        (config.layout.finalDir.join ⟨joinSegments names⟩), stagingStep config.layout] := by
  obtain ⟨binds, hbinds, hplan⟩ := forContainer_eq_ok hplan
  obtain ⟨rfl, hstaging⟩ := List.append_inj' (hsteps.symm.trans hplan) rfl
  let relative : Path := ⟨joinSegments names⟩
  have hcontained : contained? relative = some relative := by
    have hnamed : containedNames? (names.map .name) = some (names.map .name) := by
      clear hnames hne relative
      induction names with
      | nil => rfl
      | cons n names ih => simp [containedNames?, ih]
    unfold contained?
    rw [components_joinSegments hnames hne, hnamed]
    simp [ofComponents_names, relative]
  have hstep : bindStep config.layout.finalDir ⟨source, some relative⟩ =
      .ok (.bindTree source.display source (config.layout.finalDir.join relative)) := by
    simp [bindStep, Bind.destination, hcontained]
  have hbinds' : (config.withBind source (some relative)).binds.mapM
      (bindStep config.layout.finalDir) = .ok (binds ++
        [.bindTree source.display source (config.layout.finalDir.join relative)]) := by
    simp [Config.withBind, List.mapM_append, hbinds, hstep, bind, Except.bind, pure, Except.pure]
  refine ⟨_, forContainer_of_mapM hbinds', ?_⟩
  show systemSteps config.rootfs config.layout.finalDir ++ tmpSteps config ++ (binds ++ [_]) ++
    [stagingStep config.layout] = _
  simp [relative]

/-- **Mounts are made inside the root** of a container as long as no link there leads out, and no
longer: carrying out a plan, a mount other than the last that is tried while no link in the final
directory or below it leads out of it has its target there; and once the root is complete, the
mount of one more bound path would always have its target there if and only if no link leads out.

**Proof sketch.** A target is the final directory or goes down from it by names, and names lead
nowhere else if the links do not. A link that leads out has a location made of names below the
final directory, since the tree lies in directories; these names are a destination that is not
refused, and the mount of a path bound there is tried in the same world as the last one. -/
theorem inside_iff_confined (sys : System σ) (ops : Privileged σ) (treeOf : σ → FileTree)
    (v : Viewpoint) (dir : Location) (world : σ) (hplan : forContainer config = .ok plan) :
    (∀ step later s, plan.ComesTo sys ops world step later s → later ≠ [] →
      (treeOf s).Reaches v config.layout.finalDir dir → (treeOf s).Confined v.root dir →
        ∀ loc, (treeOf s).Reaches v step.request.target loc → dir <+: loc) ∧
    ∀ staging s, plan.ComesTo sys ops world staging [] s → (treeOf s).WellFormed →
      (treeOf s).Reaches v config.layout.finalDir dir →
        ((treeOf s).Confined v.root dir ↔
          ∀ source destination plan',
            forContainer (config.withBind source destination) = .ok plan' →
              ∀ step later, plan'.ComesTo sys ops world step later s → later ≠ [] →
                ∀ loc, (treeOf s).Reaches v step.request.target loc → dir <+: loc) := by
  refine ⟨?_, ?_⟩
  · intro step later s hcomes hlater hfinal hconfined loc hloc
    obtain ⟨earlier, hsteps, -⟩ := hcomes
    exact inside_of_confined hplan hsteps hlater hfinal hconfined hloc
  · intro staging s hcomes hformed hfinal
    constructor
    · intro hconfined source destination plan' hplan' step later hcomes' hlater loc hloc
      obtain ⟨earlier, hsteps, -⟩ := hcomes'
      exact inside_of_confined hplan' hsteps hlater hfinal hconfined hloc
    · intro hinside parent n f target loc hparent hfind hkind hlink
      obtain ⟨names, rfl⟩ := hparent
      obtain ⟨hdir, hnames, hleads⟩ := hformed.leads hfind
      obtain ⟨-, d, hd, hdirectory⟩ := hformed.parent hfind
      have hall : (treeOf s).Leads v.root dir (names ++ [n]) loc := by
        refine hleads.append ?_ hlink
        intro f hf
        obtain rfl := Option.some.inj (hd.symm.trans hf)
        exact hdirectory
      -- The names of the link are bound, which puts their mount where the last one was.
      obtain ⟨earlier, hsteps, hrun⟩ := hcomes
      obtain ⟨plan', hplan', hsteps'⟩ :=
        forContainer_withBind hplan "/" hnames (by simp) hsteps
      refine hinside "/" _ plan' hplan' _ _ ⟨earlier, hsteps', hrun⟩ (by simp) loc ?_
      exact hfinal.join hdir hnames (by simp) hall

end MountPlan

/-! ## A root that mounts leave -/

namespace FileTree

/-- Hides what is at a location and below it, and shows other files there. -/
def cover (tree : FileTree) (target : Location) (files : List File) : FileTree :=
  { tree with
    files := tree.files.filter (fun f => !isBelow target f.location) ++
      files.map fun f => { f with location := target ++ f.location } }

/-- What is at a location and below it, as seen from there. -/
def seenFrom (tree : FileTree) (location : Location) : List File :=
  (tree.files.filter fun f => isBelow location f.location).map fun f =>
    { f with location := f.location.drop location.length }

end FileTree

namespace Host

/-- Mounts on a host: what is at the source is seen at the target as well. A file system of its
own has nothing in it. -/
def mounting : Privileged Host where
  mount request host :=
    let found := if request.fstype = "" then
        (host.tree.statAt host.view request.source).map fun f => host.tree.seenFrom f.location
      else .ok [⟨[], 0, 0o755, .directory⟩]
    match found, host.tree.statAt host.view request.target with
    | .ok files, .ok target => (.ok 0, { host with tree := host.tree.cover target.location files })
    | _, _ => (.error (.failed (.mount (.reported "not found"))), host)
  chroot _ := pure 0
  close := pure ()

/-- A host with an image in which a link leads out of the image. -/
def withLinkedImage : Host where
  tree :=
    let directories := ["", "/proc", "/home", "/dev", "/etc", "/final", "/outside",
      "/image", "/image/proc", "/image/sys", "/image/home", "/image/dev", "/image/etc"]
    let files := ["/etc/resolv.conf", "/etc/hosts", "/image/etc/resolv.conf", "/image/etc/hosts"]
    ⟨directories.map (fun p => ⟨Location.ofText p, 0, 0o755, .directory⟩) ++
      files.map (fun p => ⟨Location.ofText p, 0, 0o644, .regular []⟩) ++
      [⟨Location.ofText "/image/data", 0, 0o777, .link (Utf8.bytes "/outside")⟩], 1⟩
  view := ⟨[], [], usualMask⟩
  environment := ⟨[]⟩
  output := #[]
  pipes := []
  nextId := 1
  ended? := none

end Host

/-- A container that is made of an image and nothing else. -/
def Config.plain : Config :=
  { Config.default ⟨[]⟩ with rootfs := "/image", layout := ⟨"/session", "/final"⟩ }

namespace MountPlan

/-- The mounts of every container on that host. -/
def linkedRoot : Except Stop Unit × Host :=
  (systemSteps Config.plain.rootfs Config.plain.layout.finalDir).forM
    (applyStep (Host.system .whole) Host.mounting) Host.withLinkedImage

/-- The mounts are made, and the link of the image is seen in the final directory. -/
theorem linkedRoot_found :
    (linkedRoot.1.isOk && decide linkedRoot.2.tree.WellFormed &&
      (linkedRoot.2.tree.statAt Host.withLinkedImage.view "/final").toOption.map (·.location) =
        some [Utf8.bytes "final"] &&
      (linkedRoot.2.tree.find? ([Utf8.bytes "final"] ++ [Utf8.bytes "data"])).map (·.kind) =
        some (.link (Utf8.bytes "/outside")) &&
      (linkedRoot.2.tree.find? ([] ++ [Utf8.bytes "outside"])).map (·.kind) =
        some .directory) = true := by
  cbv

/-- On that host a path can be bound so that its mount is made outside the final directory. -/
theorem bind_outside_linkedRoot :
    ¬ ∀ source destination plan',
      forContainer (Config.plain.withBind source destination) = .ok plan' →
        ∀ step later s, plan'.ComesTo (Host.system .whole) Host.mounting .withLinkedImage step later
          s → later ≠ [] → ∀ loc, s.tree.Reaches Host.withLinkedImage.view step.request.target loc →
            [Utf8.bytes "final"] <+: loc := by
  intro hinside
  have hfound := linkedRoot_found
  simp only [Bool.and_eq_true, decide_eq_true_eq] at hfound
  obtain ⟨⟨⟨⟨hok, hformed⟩, hfinal⟩, hlink⟩, houtside⟩ := hfound
  have hrun : linkedRoot = (.ok (), linkedRoot.2) := by
    cases hresult : linkedRoot.1 with
    | error stop =>
      rw [hresult] at hok
      cases hok
    | ok => exact Prod.ext hresult rfl
  have hreaches : linkedRoot.2.tree.Reaches Host.withLinkedImage.view Config.plain.layout.finalDir
      [Utf8.bytes "final"] := by
    cases hstat : linkedRoot.2.tree.statAt Host.withLinkedImage.view "/final" with
    | error e =>
      rw [hstat] at hfinal
      cases hfinal
    | ok f =>
      rw [hstat] at hfinal
      have hlocation : f.location = [Utf8.bytes "final"] := Option.some.inj hfinal
      rw [← hlocation]
      exact FileTree.reaches_of_statAt hstat
  obtain ⟨link, hlink, hkind⟩ := Option.map_eq_some_iff.mp hlink
  obtain ⟨outside, houtside, hdir⟩ := Option.map_eq_some_iff.mp houtside
  have hplan : forContainer Config.plain = .ok ⟨systemSteps Config.plain.rootfs
      Config.plain.layout.finalDir ++ [stagingStep Config.plain.layout]⟩ := rfl
  have hconfined := ((inside_iff_confined (Host.system .whole) Host.mounting Host.tree
    Host.withLinkedImage.view [Utf8.bytes "final"] Host.withLinkedImage hplan).2
    (stagingStep Config.plain.layout) linkedRoot.2 ⟨_, rfl, hrun⟩ hformed hreaches).mpr
    fun source destination plan' hplan' step later hcomes =>
      hinside source destination plan' hplan' step later _ hcomes
  have hleads : linkedRoot.2.tree.Leads [] [Utf8.bytes "final"] [Utf8.bytes "data"]
      [Utf8.bytes "outside"] := by
    refine .step (.link (by decide) hlink hkind (by decide)) ?_
    exact .step (.enter (by decide) houtside hdir) (.here _)
  have hprefix := hconfined _ _ _ _ _ List.prefix_rfl hlink hkind hleads
  revert hprefix
  decide

end MountPlan
end Container
