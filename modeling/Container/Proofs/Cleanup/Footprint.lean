import Container.Engine.Cleanup
import Container.Proofs.Cleanup.Hierarchy
import Container.Proofs.Cleanup.Sections
import Container.Proofs.Host.Disk
import Container.Proofs.Mount.Confinement

set_option autoImplicit false

/-!
# What cleaning up removes from a disk

The image, the control group and the record of a container are removed from the disk by their
paths, and links may stand in all of them and on the way to them. What goes is what has the name at
the end of the path of the image, with what is in it if that is a directory; directories of what the
path of the control group leads to; and the one file that the record is. It does not matter in which
order that happens, since in a tree that only loses files a path leads nowhere new.

## Main definitions

* `Teardown.OnDisk` — those who give things back where the disk is.
* `Engine.MayLose`, `Engine.Footprint` — where a step, and where cleaning up, may remove something.

## Main results

* `CgroupTeardown.lost_removeTree`, `Engine.lost_removeImage`, `Engine.lost_record` — what is lost
  by a step.
* `CgroupTeardown.statAt_of_remove`, `Engine.lacks_of_removeImage` — what is left where something
  was removed.
* `Engine.cleanup_footprint` — what cleaning up does to a disk, and on a host with a link in the
  image `Engine.cleanup_footprint_keepsake`.
-/

namespace Container

open FileTree Host

variable {σ α : Type} {place : Slot σ Host} {before : Host} {allowed : Location → Prop}

/-! ## Control groups -/

/-- The directories in what a path leads to, that one included. -/
def FileTree.OfGroup (tree : FileTree) (v : Viewpoint) (p : Path) (other : Location) : Prop :=
  ∃ loc, tree.Reaches v p loc ∧ loc <+: other ∧ tree.IsDirAt other

namespace CgroupTeardown

variable {p q : Path} {s s' : σ}

/-- All entries of a directory can be read, and a directory among them is directly below where the
path leads. -/
theorem prefix_of_listDir (hlost : Lost place before allowed s) (hformed : before.tree.WellFormed)
    (hdistinct : (before.tree.files.map (·.location)).Nodup)
    {found : List (Except IoFault DirEntry)} {listed : σ}
    (h : (Host.system place).listDir q s = (.ok found, listed)) :
    ∃ entries : List DirEntry, found = entries.map .ok ∧
      ∃ loc, before.tree.Reaches before.view q loc ∧ ∀ entry ∈ entries, entry.isDir →
        ∀ below, before.tree.Reaches before.view (q.join ⟨entry.name⟩) below → loc <+: below := by
  rw [listDir_eq] at h
  obtain ⟨hanswer, -⟩ := Prod.mk.inj h
  obtain ⟨-, files, hlist, rfl⟩ := exists_of_ask hanswer
  obtain ⟨d, hstat, hkind, rfl⟩ := exists_of_list hlist
  have hreaches := hlost.loses.reaches (reaches_of_statAt hstat)
  rw [hlost.view] at hreaches
  refine ⟨((place.get s).tree.children d.location).map fun f => ⟨f.name, f.isDir⟩, by simp,
    d.location, hreaches, ?_⟩
  intro entry hentry hisDir below hbelow
  obtain ⟨f, hf, rfl⟩ := List.mem_map.mp hentry
  obtain ⟨hmem, n, hn⟩ := mem_children.mp hf
  have hthere := (find?_eq_some hdistinct).mpr ⟨hlost.loses.files.subset hmem, hn⟩
  obtain ⟨hname, hparent⟩ := hformed.parent hthere
  have hdown : before.tree.Leads before.view.root d.location [n] (d.location ++ [n]) :=
    .step (.enter hname.isName hthere (by simpa [File.isDir] using hisDir)) (.here _)
  have hjoin : before.tree.Reaches before.view (q.join ⟨f.name⟩) (d.location ++ [n]) := by
    rw [name_of_location hn]
    exact hreaches.join hparent (by simpa using hname) (by simp) hdown
  rw [hbelow.2.eq hjoin.2]
  exact List.prefix_append _ _

/-- What is left where an empty directory was to be removed. -/
theorem lost_removeEmpty (hformed : before.tree.WellFormed)
    (hallowed : ∀ loc, before.tree.Reaches before.view q loc → before.tree.IsDirAt loc →
      allowed loc) :
    Act.Preserves (Lost place before allowed) (removeEmpty (Host.system place) q) := by
  intro s hs
  have hlost := (takes_removeDir place q s).lost hs hformed fun f hnames hfind hkind =>
    have hdir : before.tree.IsDirAt f.location := ⟨f, hfind, by simpa [File.isDir] using hkind⟩
    hallowed _ (hnames.reaches hdir) hdir
  rw [run_removeEmpty]
  rcases hremove : (Host.system place).removeDir q s with ⟨fault | _, s'⟩
  · rw [hremove] at hlost
    simp only
    split <;> exact hlost
  · rwa [hremove] at hlost

/-- **What is lost with a control group** are directories of what its path leads to.

**Proof sketch.** By induction on how deep the directories may lie. What is below a directory on
the way down was below it before anything was removed, since a path leads nowhere new. -/
theorem lost_removeTree (hformed : before.tree.WellFormed)
    (hdistinct : (before.tree.files.map (·.location)).Nodup)
    (hallowed : ∀ loc, before.tree.OfGroup before.view p loc → allowed loc) (depth : Nat)
    (hbelow : ∀ loc, before.tree.Reaches before.view q loc →
      ∃ base, before.tree.Reaches before.view p base ∧ base <+: loc) :
    Act.Preserves (Lost place before allowed) (removeTree (Host.system place) depth q) := by
  have hempty : ∀ q, (∀ loc, before.tree.Reaches before.view q loc →
      ∃ base, before.tree.Reaches before.view p base ∧ base <+: loc) →
      Act.Preserves (Lost place before allowed) (removeEmpty (Host.system place) q) := by
    intro q hbelow
    refine lost_removeEmpty hformed fun loc hreaches hdir => ?_
    obtain ⟨base, hbase, hprefix⟩ := hbelow loc hreaches
    exact hallowed loc ⟨base, hbase, hprefix, hdir⟩
  induction depth generalizing q with
  | zero => exact hempty q hbelow
  | succ depth ih =>
    intro s hs
    rw [run_removeTree_succ]
    rcases hlist : (Host.system place).listDir q s with ⟨fault | found, listed⟩
    all_goals obtain rfl : s = listed := (Prod.mk.inj ((listDir_eq q s).symm.trans hlist)).2
    · simp only
      split <;> exact hs
    · obtain ⟨entries, rfl, loc, hreaches, hentries⟩ :=
        prefix_of_listDir hs hformed hdistinct hlist
      simp only [forEachDir_readable]
      refine ((Act.Preserves.forM fun entry hentry => ?_).bind fun _ => hempty q hbelow) s hs
      obtain ⟨hmem, hisDir⟩ := List.mem_filter.mp hentry
      refine ih fun below hdown => ?_
      obtain ⟨base, hbase, hprefix⟩ := hbelow loc hreaches
      exact ⟨base, hbase, hprefix.trans (hentries entry hmem hisDir below hdown)⟩

/-- Once an empty directory was removed or was not there, it is lacking. -/
theorem lacks_of_removeEmpty (h : removeEmpty (Host.system place) q s = (.ok (), s')) :
    q.hasNul = false ∧ (place.get s').tree.Lacks (place.get s').view q := by
  rw [run_removeEmpty] at h
  have htakes := takes_removeDir place q s
  rcases hremove : (Host.system place).removeDir q s with ⟨fault | _, after⟩
  · rw [hremove] at h htakes
    simp only at h
    split at h
    · rename_i hfault
      cases h
      exact htakes.lacks fun other hother => by
        cases hother
        exact hfault
    · cases h
  · rw [hremove] at h htakes
    cases h
    exact htakes.lacks fun other hother => by cases hother

/-- **Once a control group was removed, its path leads nowhere.** Either it is lacking, or nothing
was done. -/
theorem statAt_of_removeTree {depth : Nat}
    (h : removeTree (Host.system place) depth q s = (.ok (), s')) :
    q.hasNul = false ∧ (place.get s').tree.statAt (place.get s').view q = .error .notFound ∧
      ((place.get s').tree.Lacks (place.get s').view q ∨ s' = s) := by
  cases depth with
  | zero =>
    obtain ⟨hnul, hlacks⟩ := lacks_of_removeEmpty h
    exact ⟨hnul, hlacks.lookup true, .inl hlacks⟩
  | succ depth =>
    rw [run_removeTree_succ] at h
    rcases hlist : (Host.system place).listDir q s with ⟨fault | entries, listed⟩
    · rw [hlist] at h
      simp only at h
      split at h
      · rename_i hfault
        cases h
        obtain ⟨hanswer, rfl⟩ := Prod.mk.inj ((listDir_eq q s).symm.trans hlist)
        obtain ⟨hnul, hmissing⟩ := eq_notFound_of_ask hanswer hfault
        exact ⟨hnul, list_eq_notFound.mp hmissing, .inr rfl⟩
      · cases h
    · rw [hlist] at h
      simp only [Act.run_bind] at h
      rcases hswept : (forEachDir entries fun entry =>
        removeTree (Host.system place) depth (q.join ⟨entry.name⟩)) listed with ⟨stop | _, swept⟩
      · rw [hswept] at h
        cases h
      · rw [hswept] at h
        obtain ⟨hnul, hlacks⟩ := lacks_of_removeEmpty h
        exact ⟨hnul, hlacks.lookup true, .inl hlacks⟩

/-- Where a path leads nowhere, there is nothing to be removed. -/
theorem removeTree_of_statAt (hnul : q.hasNul = false) (hends : NameEnds q)
    (hstat : (place.get s).tree.statAt (place.get s).view q = .error .notFound) {depth : Nat}
    (hdepth : depth = 0 → (place.get s).tree.files = []) :
    removeTree (Host.system place) depth q s = (.ok (), s) := by
  cases depth with
  | zero =>
    have hlacks := lacks_of_files_eq_nil (hdepth rfl) hends hstat
    have hremove : (Host.system place).removeDir q s = (.error (.os .notFound), s) := by
      refine (run_change q _ s).trans ?_
      rw [if_neg (by simp [hnul]), hlacks.removeDir]
    show removeEmpty (Host.system place) q s = _
    rw [run_removeEmpty, hremove]
    rfl
  | succ depth =>
    have hlist : (Host.system place).listDir q s = (.error (.os .notFound), s) := by
      rw [listDir_eq, if_neg (by simp [hnul]), list_eq_notFound.mpr hstat]
      rfl
    rw [run_removeTree_succ, hlist]
    rfl

/-- What removing a control group comes to, once that is reported. -/
theorem run_remove (sys : System σ) (cgroup : Cgroup) (s : σ) :
    remove sys cgroup s =
      let begun := (sys.report .debug .cgroups "removing cgroup"
        [("cgroup", .shown cgroup.path.display)] s).2
      removeTree sys (sys.depthBound begun) cgroup.path begun := rfl

/-- **Once a control group was removed**, its path leads nowhere, and to remove it again changes
nothing. -/
theorem statAt_of_remove {cgroup : Cgroup} (hends : NameEnds cgroup.path)
    (h : remove (Host.system place) cgroup s = (.ok (), s')) :
    (place.get s').tree.statAt (place.get s').view cgroup.path = .error .notFound ∧
    ((place.get s').tree.Vacant (place.get s').view cgroup.path ∨ SameDisk place s s') ∧
    ∃ again, remove (Host.system place) cgroup s' = (.ok (), again) ∧ SameDisk place s' again := by
  have hreport := sameDisk_report place .debug .cgroups "removing cgroup"
    [("cgroup", .shown cgroup.path.display)]
  rw [run_remove] at h
  obtain ⟨hnul, hstat, hend⟩ := statAt_of_removeTree h
  refine ⟨hstat, ?_, _, ?_, hreport s'⟩
  · rcases hend with hlacks | rfl
    · exact .inl hlacks.vacant
    · exact .inr (hreport s)
  rw [run_remove]
  refine removeTree_of_statAt hnul hends ?_ List.length_eq_zero_iff.mp
  rw [(hreport s').tree, (hreport s').view, hstat]

end CgroupTeardown

namespace Engine

variable {engine : Engine} {s s' : σ}

/-! ## The image -/

/-- What becomes of the image: it is removed as what it is, if it is there. -/
def takeImage (sys : System σ) (engine : Engine) : StateM σ (Except IoFault Unit) := fun s =>
  match sys.linkStat engine.config.image s with
  | (.ok info, s) =>
    if info.isDir then sys.removeTree engine.config.image s
    else sys.removeFile engine.config.image s
  | (.error fault, s) => (.error fault, s)

/-- What removing the image comes to. -/
theorem run_removeImage (sys : System σ) (engine : Engine) (s : σ) :
    engine.removeImage sys s =
      match engine.takeImage sys (sys.report .info .cleanup "cleaning up image"
        [("image", .shown engine.config.image.display)] s).2 with
      | (.ok (), s) => (.ok (), s)
      | (.error fault, s) =>
        if fault.isNotFound then
          (.ok (), (sys.report .debug .cleanup "image already gone"
            [("image", .shown engine.config.image.display)] s).2)
        else (.error (.failed (.io fault)), s) := by
  unfold removeImage takeImage
  simp only [Act.run_bind, Act.run_lift]
  rcases sys.linkStat engine.config.image (sys.report .info .cleanup "cleaning up image"
    [("image", .shown engine.config.image.display)] s).2 with ⟨fault | info, seen⟩
  · by_cases hfault : fault.isNotFound <;> simp [hfault]
  · by_cases hdir : info.isDir
    · rcases hremoved : sys.removeTree engine.config.image seen with ⟨fault | _, after⟩
      · by_cases hfault : fault.isNotFound <;> simp [hdir, hremoved, hfault]
      · simp [hdir, hremoved]
    · rcases hremoved : sys.removeFile engine.config.image seen with ⟨fault | _, after⟩
      · by_cases hfault : fault.isNotFound <;> simp [hdir, hremoved, hfault]
      · simp [hdir, hremoved]

/-- What is lost is the image, with what is in it if it is a directory. -/
theorem lost_takeImage (hformed : before.tree.WellFormed) (hends : NameEnds engine.config.image)
    (hallowed : ∀ loc, before.tree.OfEntry before.view engine.config.image loc → allowed loc)
    (hs : Lost place before allowed s) :
    Lost place before allowed (engine.takeImage (Host.system place) s).2 := by
  unfold takeImage
  rcases hlook : (Host.system place).linkStat engine.config.image s with ⟨fault | info, seen⟩
  all_goals obtain ⟨hanswer, rfl⟩ := Prod.mk.inj ((linkStat_eq _ s).symm.trans hlook)
  · exact hs
  · obtain ⟨hnul, -⟩ := exists_of_ask hanswer
    simp only
    split
    · exact lost_removeTree hs hformed hends hnul hallowed
    · exact (takes_removeFile place engine.config.image s).lost hs hformed
        fun f hnames _ _ => hallowed _ ⟨_, hnames, .inl rfl⟩

/-- What was the image, or was not found, is lacking. -/
theorem lacks_takeImage (place : Slot σ Host) (s : σ) (hends : NameEnds engine.config.image)
    (hresult : ∀ fault, (engine.takeImage (Host.system place) s).1 = .error fault →
      fault.isNotFound) :
    engine.config.image.hasNul = false ∧
      (place.get (engine.takeImage (Host.system place) s).2).tree.Lacks
        (place.get (engine.takeImage (Host.system place) s).2).view engine.config.image := by
  unfold takeImage at hresult ⊢
  rcases hlook : (Host.system place).linkStat engine.config.image s with ⟨fault | info, seen⟩
  all_goals
    rw [hlook] at hresult
    obtain ⟨hanswer, rfl⟩ := Prod.mk.inj ((linkStat_eq _ s).symm.trans hlook)
  · obtain ⟨hnul, hmissing⟩ := eq_notFound_of_ask hanswer (hresult fault rfl)
    exact ⟨hnul, lacks_of_linkStatAt hends hmissing⟩
  · obtain ⟨hnul, -⟩ := exists_of_ask hanswer
    by_cases hdir : info.isDir
    · simp only [if_pos hdir] at hresult ⊢
      exact ⟨hnul, lacks_removeTree hends hnul s hresult⟩
    · simp only [if_neg hdir] at hresult ⊢
      exact (takes_removeFile place engine.config.image s).lacks hresult

/-- **What is lost with the image.** -/
theorem lost_removeImage (hformed : before.tree.WellFormed) (hends : NameEnds engine.config.image)
    (hallowed : ∀ loc, before.tree.OfEntry before.view engine.config.image loc → allowed loc) :
    Act.Preserves (Lost place before allowed) (engine.removeImage (Host.system place)) := by
  intro s hs
  have hlost := lost_takeImage hformed hends hallowed
    (hs.of_sameDisk (sameDisk_report place .info .cleanup "cleaning up image"
      [("image", .shown engine.config.image.display)] s))
  rw [run_removeImage]
  rcases htake : engine.takeImage (Host.system place) _ with ⟨fault | _, taken⟩
  all_goals rw [htake] at hlost
  · simp only
    split
    · exact hlost.of_sameDisk (sameDisk_report place _ _ _ _ _)
    · exact hlost
  · exact hlost

/-- **Once the image was removed, nothing is found at its path.** -/
theorem lacks_of_removeImage (hends : NameEnds engine.config.image)
    (h : engine.removeImage (Host.system place) s = (.ok (), s')) :
    engine.config.image.hasNul = false ∧
      (place.get s').tree.Lacks (place.get s').view engine.config.image := by
  rw [run_removeImage] at h
  have hlacks := lacks_takeImage place ((Host.system place).report .info .cleanup
    "cleaning up image" [("image", .shown engine.config.image.display)] s).2 hends
  rcases htake : engine.takeImage (Host.system place) _ with ⟨fault | _, taken⟩
  all_goals rw [htake] at h hlacks
  · simp only at h
    split at h
    · rename_i hfault
      cases h
      have hsame := sameDisk_report place .debug .cleanup "image already gone"
        [("image", .shown engine.config.image.display)] taken
      rw [hsame.tree, hsame.view]
      exact hlacks fun other hother => by
        cases hother
        exact hfault
    · cases h
  · cases h
    exact hlacks fun other hother => by cases hother

/-- An image that is lacking is removed already. -/
theorem removeImage_of_lacks (hnul : engine.config.image.hasNul = false)
    (h : (place.get s).tree.Lacks (place.get s).view engine.config.image) :
    ∃ s', engine.removeImage (Host.system place) s = (.ok (), s') ∧ SameDisk place s s' := by
  let begun := ((Host.system place).report .info .cleanup "cleaning up image"
    [("image", .shown engine.config.image.display)] s).2
  have hbegun : SameDisk place s begun := sameDisk_report place _ _ _ _ s
  have htake : engine.takeImage (Host.system place) begun = (.error (.os .notFound), begun) := by
    unfold takeImage
    rw [linkStat_eq, if_neg (by simp [hnul]), hbegun.tree, hbegun.view,
      show FileTree.linkStatAt _ _ _ = _ from h.lookup false]
    rfl
  refine ⟨_, ?_, hbegun.trans (sameDisk_report place .debug .cleanup "image already gone"
    [("image", .shown engine.config.image.display)] begun)⟩
  rw [run_removeImage, htake]
  rfl

end Engine

/-! ## All that is given back -/

/-- Those who give things back where the disk is: control groups and records are removed there, and
the others leave it alone. -/
structure Teardown.OnDisk (teardown : Teardown σ) (place : Slot σ Host) (registry : Registry) :
    Prop where
  removeCgroup : teardown.removeCgroup = CgroupTeardown.remove (Host.system place)
  findRecord : teardown.findRecord = fun containerId kind => do
    let found ← registry.find (Host.system place) containerId kind
    return Registry.delete (Host.system place) found
  deleteNetwork : ∀ network, LeavesDisk place (teardown.deleteNetwork network)
  raise : LeavesDisk place teardown.elevation.raise
  restore : LeavesDisk place teardown.elevation.restore
  detach : ∀ path, LeavesDisk place (teardown.crypt.detach path)
  closeDevice : ∀ name, LeavesDisk place (teardown.crypt.closeDevice name)

namespace Engine

variable {engine : Engine} {registry : Registry} {teardown : Teardown σ} {s s' : σ}

/-- The places at which a step may remove something. -/
def MayLose (engine : Engine) (registry : Registry) (tree : FileTree) (v : Viewpoint) :
    CleanupStep → Location → Prop
  | .image, other => tree.OfEntry v engine.config.image other
  | .cgroup, other => ∃ cgroup ∈ engine.config.cgroup?, tree.OfGroup v cgroup.path other
  | .record, other => Registry.isValidId engine.identity.containerId ∧
      tree.Names v ((registry.root.join Registry.engineKind).join
        (Path.ofText (engine.identity.containerId ++ ".json"))) other ∧ ¬ tree.IsDirAt other
  | .network, _ | .crypt, _ => False

/-- A report loses nothing. -/
theorem preserves_report (level : Level) (source : LogSource) (message : String)
    (values : List (String × LogValue)) :
    Act.Preserves (Lost place before allowed)
      (liftM ((Host.system place).report level source message values) : Act σ Unit) :=
  .lift fun s hs => hs.of_sameDisk (sameDisk_report place level source message values s)

/-- Nor does the report of a failure. -/
theorem preserves_reported {act : Act σ α} (h : Act.Preserves (Lost place before allowed) act)
    {level : Level} {source : LogSource} {message : String}
    {values : Failure → List (String × LogValue)} :
    Act.Preserves (Lost place before allowed) (act.onFailure fun f =>
      (Host.system place).report level source message (values f)) :=
  h.onFailure fun _ s hs => hs.of_sameDisk (sameDisk_report place _ _ _ _ s)

/-- A section of raised privilege leaves intact what its work does. -/
theorem preserves_bracket (hdisk : teardown.OnDisk place registry) {work : Act σ Unit}
    (h : Act.Preserves (Lost place before allowed) work) :
    Act.Preserves (Lost place before allowed)
      (teardown.elevation.bracket (Host.system place) work) := by
  intro s hs
  have hgiveUp : Act.Preserves (Lost place before allowed)
      (Elevation.giveUp (Host.system place) teardown.elevation) := by
    refine hdisk.restore.preserves.guarded.bind fun answer => ?_
    cases answer with
    | ok => exact .pure _
    | error f => exact preserves_report _ _ _ _
  have hraised := hdisk.raise.preserves s hs
  rw [Cleanup.run_bracket]
  rcases hraise : teardown.elevation.raise s with ⟨stop | _, raised⟩
  all_goals rw [hraise] at hraised
  · exact hraised
  · exact hgiveUp _ (h _ (preserves_report _ _ _ _ _ hraised))

/-- Looking for a record changes nothing. One that is found is where records are. -/
theorem find_onDisk {containerId kind : String} {result : Except Stop FoundRecord}
    (h : registry.find (Host.system place) containerId kind s = (result, s')) :
    s = s' ∧ ∀ found, result = .ok found →
      registry.recordPath? containerId kind = .ok found.path := by
  unfold Registry.find Registry.locate at h
  cases hpath : registry.recordPath? containerId kind with
  | error fault =>
    rw [hpath] at h
    cases h
    exact ⟨rfl, fun found hfound => by cases hfound⟩
  | ok path =>
    have hread : (Host.system place).readFile path s =
        (((Host.system place).readFile path s).1, s) :=
      Prod.ext rfl (Prod.mk.inj (run_ask path (fun tree v => tree.readFile v path) s)).2
    simp only [hpath, Act.run_bind, Act.run_call, Act.run_pure] at h
    rw [hread] at h
    cases hcontent : ((Host.system place).readFile path s).1 with
    | error fault =>
      rw [hcontent] at h
      cases h
      exact ⟨rfl, fun found hfound => by cases hfound⟩
    | ok content =>
      rw [hcontent] at h
      cases hparsed : Json.parse InstanceInfo.read content with
      | ok info =>
        simp only [mapError_ok, hparsed] at h
        cases h
        exact ⟨rfl, fun found hfound => by cases hfound; rfl⟩
      | error error =>
        simp only [mapError_ok, hparsed] at h
        cases h
        exact ⟨rfl, fun found hfound => by cases hfound⟩

/-- What is lost with the record of the container is the file that the record is. -/
theorem lost_record (hdisk : teardown.OnDisk place registry) (hformed : before.tree.WellFormed)
    (hallowed : ∀ loc, engine.MayLose registry before.tree before.view .record loc → allowed loc) :
    Act.Preserves (Lost place before allowed)
      (engine.runStep (Host.system place) teardown .record) := by
  intro s hs
  unfold runStep
  simp only [hdisk.findRecord, bind_assoc, pure_bind]
  rw [Act.run_bind]
  rcases hfind : registry.find (Host.system place) engine.identity.containerId
    Registry.engineKind s with ⟨stop | found, s'⟩
  all_goals obtain ⟨rfl, hpath⟩ := find_onDisk hfind
  · exact hs
  · have hlocated := hpath found rfl
    unfold Registry.recordPath? at hlocated
    split at hlocated
    · rename_i hvalid
      have hremoved := (takes_removeFile place found.path s).lost hs hformed
        fun f hnames hthere hkind => hallowed _ ⟨hvalid, by
          rw [Except.ok.inj hlocated]
          exact hnames, by
          rintro ⟨d, hd, hdir⟩
          obtain rfl := Option.some.inj (hthere.symm.trans hd)
          simp [File.isDir, hdir] at hkind⟩
      simp only [Registry.delete, Act.run_call]
      exact hremoved
    · cases hlocated

/-- **What a step removes** it may remove. -/
theorem lost_runStep (hdisk : teardown.OnDisk place registry) (hformed : before.tree.WellFormed)
    (hdistinct : (before.tree.files.map (·.location)).Nodup)
    (hends : NameEnds engine.config.image) (step : CleanupStep)
    (hallowed : ∀ loc, engine.MayLose registry before.tree before.view step loc → allowed loc) :
    Act.Preserves (Lost place before allowed)
      (engine.runStep (Host.system place) teardown step) := by
  cases step with
  | image => exact lost_removeImage hformed hends hallowed
  | network =>
    unfold runStep
    cases engine.config.network? with
    | none => exact .pure _
    | some network =>
      simp only
      split
      · exact preserves_bracket hdisk (hdisk.deleteNetwork network).preserves
      · exact (hdisk.deleteNetwork network).preserves
  | cgroup =>
    unfold runStep
    cases hcgroup : engine.config.cgroup? with
    | none => exact .pure _
    | some cgroup =>
      simp only [hdisk.removeCgroup]
      intro s hs
      exact CgroupTeardown.lost_removeTree hformed hdistinct
        (fun loc hloc => hallowed loc ⟨cgroup, hcgroup, hloc⟩) _
        (fun loc hloc => ⟨loc, hloc, List.prefix_rfl⟩) _
        (hs.of_sameDisk (sameDisk_report place .debug .cgroups "removing cgroup"
          [("cgroup", .shown cgroup.path.display)] s))
  | record => exact lost_record hdisk hformed hallowed
  | crypt =>
    unfold runStep
    cases engine.config.cryptDevice? with
    | none => exact .pure _
    | some device =>
      refine preserves_bracket hdisk ?_
      unfold CryptTeardown.steps
      refine (preserves_reported (hdisk.detach _).preserves).bind fun _ =>
        (preserves_reported (hdisk.detach _).preserves).bind fun _ => ?_
      cases CryptTeardown.deviceName device with
      | error fault => exact .fail _
      | ok name =>
        exact (preserves_reported (hdisk.closeDevice name).preserves).bind fun _ =>
          preserves_report _ _ _ _

/-- Steps one after the other remove what they may. -/
theorem lost_runSteps (hdisk : teardown.OnDisk place registry) (hformed : before.tree.WellFormed)
    (hdistinct : (before.tree.files.map (·.location)).Nodup)
    (hends : NameEnds engine.config.image) (steps : List CleanupStep)
    (hallowed : ∀ step ∈ steps, ∀ loc,
      engine.MayLose registry before.tree before.view step loc → allowed loc) :
    Act.Preserves (Lost place before allowed)
      (engine.runSteps (Host.system place) teardown steps) := by
  induction steps with
  | nil => exact .pure _
  | cons step steps ih =>
    have hrest := ih fun later hlater => hallowed later (by simp [hlater])
    have hstep := lost_runStep hdisk hformed hdistinct hends step (hallowed step (by simp))
    unfold runSteps
    refine hstep.guarded.bind fun answer => ?_
    cases answer with
    | ok => exact hrest.bind fun _ => .pure _
    | error f =>
      simp only
      split
      · exact .fail _
      · exact (preserves_report _ _ _ _).bind fun _ => hrest.bind fun _ => .pure _

/-- The places at which cleaning up after a container may remove something: what the steps that the
container needs may remove. -/
def Footprint (engine : Engine) (registry : Registry) (tree : FileTree) (v : Viewpoint)
    (other : Location) : Prop :=
  ∃ step : CleanupStep, step.applies engine.config ∧ engine.MayLose registry tree v step other

/-- The same container with its image at another path. -/
def withImage (engine : Engine) (image : Path) : Engine :=
  { engine with config := { engine.config with image } }

/-- No step but one looks at the path of the image. -/
theorem runSteps_withImage (sys : System σ) (image : Path) {steps : List CleanupStep}
    (h : CleanupStep.image ∉ steps) :
    (engine.withImage image).runSteps sys teardown steps =
      engine.runSteps sys teardown steps := by
  induction steps with
  | nil => rfl
  | cons step steps ih =>
    have hstep : (engine.withImage image).runStep sys teardown step =
        engine.runStep sys teardown step := by
      cases step with
      | image => simp at h
      | _ => rfl
    unfold runSteps
    rw [hstep, ih fun hin => h (by simp [hin])]

/-- Nor does cleaning up, where the image is not to be deleted. -/
theorem cleanup_withImage (sys : System σ) (hkept : engine.config.deleteImage = false)
    (image : Path) (fatal? : Option Failure) (status : ExitStatus) :
    (engine.withImage image).cleanup sys teardown fatal? status =
      engine.cleanup sys teardown fatal? status := by
  have hsteps : (engine.withImage image).runSteps sys teardown
      (CleanupStep.order.filter (·.applies engine.config)) =
        engine.runSteps sys teardown (CleanupStep.order.filter (·.applies engine.config)) :=
    runSteps_withImage sys image fun hin => by simp [CleanupStep.applies, hkept] at hin
  have happlies : ∀ step : CleanupStep,
      step.applies (engine.withImage image).config = step.applies engine.config :=
    fun step => by cases step <;> rfl
  unfold cleanup
  simp only [happlies, hsteps]
  rfl

/-- **Cleaning up removes** what its footprint has, and nothing else. -/
theorem lost_cleanup (hdisk : teardown.OnDisk place registry) (hformed : before.tree.WellFormed)
    (hdistinct : (before.tree.files.map (·.location)).Nodup)
    (hends : NameEnds engine.config.image) (fatal? : Option Failure) (status : ExitStatus) :
    Act.Preserves (Lost place before (engine.Footprint registry before.tree before.view))
      (engine.cleanup (Host.system place) teardown fatal? status) := by
  have hsteps : Act.Preserves (Lost place before
      (engine.Footprint registry before.tree before.view))
      (engine.runSteps (Host.system place) teardown
        (CleanupStep.order.filter (·.applies engine.config))) :=
    lost_runSteps hdisk hformed hdistinct hends _ fun step hstep loc hloc =>
      ⟨step, (List.mem_filter.mp hstep).2, hloc⟩
  unfold cleanup
  cases fatal? with
  | none => exact (preserves_report _ _ _ _).bind fun _ => hsteps.bind fun _ => .pure _
  | some f =>
    exact (preserves_report _ _ _ _).bind fun _ =>
      (preserves_report _ _ _ _).bind fun _ => hsteps.bind fun _ => .pure _

/-- **What cleaning up does to a disk.** It removes files at places of its footprint and nowhere
else, adds none and changes none. Where the image is not to be deleted, it makes no difference which
path that has. Once the image was removed, nothing is found at its path; once the control group was
removed, its path leads nowhere, and what has its name is gone unless there was nothing to do. To do
the same again then succeeds and changes nothing.

**Proof sketch.** Whatever is removed was named by a path in the tree as it was, since in a tree
that only loses files a path leads nowhere new; so each step stays within what it may remove. A path
that named what was removed leads nowhere, since the way to it is as it was or is itself missing. -/
theorem cleanup_footprint (engine : Engine) (hdisk : teardown.OnDisk place registry) (s : σ)
    (hformed : (place.get s).tree.WellFormed)
    (hdistinct : ((place.get s).tree.files.map (·.location)).Nodup)
    (himage : NameEnds engine.config.image)
    (hcgroup : ∀ cgroup ∈ engine.config.cgroup?, NameEnds cgroup.path) :
    (∀ fatal? status, Lost place (place.get s)
      (engine.Footprint registry (place.get s).tree (place.get s).view)
      (engine.cleanup (Host.system place) teardown fatal? status s).2) ∧
    (engine.config.deleteImage = false → ∀ image fatal? status,
      (engine.withImage image).cleanup (Host.system place) teardown fatal? status =
        engine.cleanup (Host.system place) teardown fatal? status) ∧
    (∀ s', engine.runStep (Host.system place) teardown .image s = (.ok (), s') →
      (place.get s').tree.Vacant (place.get s').view engine.config.image ∧
      ∃ again, engine.runStep (Host.system place) teardown .image s' = (.ok (), again) ∧
        SameDisk place s' again) ∧
    ∀ cgroup ∈ engine.config.cgroup?, ∀ s',
      engine.runStep (Host.system place) teardown .cgroup s = (.ok (), s') →
      (place.get s').tree.statAt (place.get s').view cgroup.path = .error .notFound ∧
      ((place.get s').tree.Vacant (place.get s').view cgroup.path ∨ SameDisk place s s') ∧
      ∃ again, engine.runStep (Host.system place) teardown .cgroup s' = (.ok (), again) ∧
        SameDisk place s' again := by
  refine ⟨fun fatal? status => ?_, fun hkept image fatal? status => ?_, fun s' hrun => ?_,
    fun cgroup hmem s' hrun => ?_⟩
  · exact lost_cleanup hdisk hformed hdistinct himage fatal? status s (.start place _ s)
  · exact cleanup_withImage (Host.system place) hkept image fatal? status
  · obtain ⟨hnul, hlacks⟩ := lacks_of_removeImage himage hrun
    exact ⟨hlacks.vacant, removeImage_of_lacks hnul hlacks⟩
  · have hremove : ∀ t, engine.runStep (Host.system place) teardown .cgroup t =
        CgroupTeardown.remove (Host.system place) cgroup t := by
      intro t
      unfold runStep
      rw [hmem, hdisk.removeCgroup]
    simp only [hremove] at hrun ⊢
    exact CgroupTeardown.statAt_of_remove (hcgroup cgroup hmem) hrun

/-- A host with an image in which a link leads to a directory outside, with a control group, and
with a record. -/
def keepsake : Host := CgroupTeardown.hostWith [(["img"], .directory),
  (["img", "away"], .link (Utf8.bytes "../keep")), (["keep"], .directory),
  (["keep", "f"], .regular []), (["cg"], .directory), (["cg", "a"], .directory),
  (["reg"], .directory), (["reg", "shroud"], .directory),
  (["reg", "shroud", "c1.json"], .regular [])]

/-- A container that held all these. -/
def holder : Engine where
  identity := ⟨"c1", "shroud", ⟨["/bin/sh"], []⟩⟩
  config := {
    rootfs := "/srv/root", image := "img", recipe := .empty, network? := none
    cgroup? := some ⟨"cg"⟩, cryptDevice? := none, deleteImage := true, hasRecord := true
    fakeroot := false, mountTmp := false, contain := false, binds := []
    layout := ⟨"/run/session", "/run/final"⟩ }

/-- Those who give back on that host what the container held. -/
def keepsakeTeardown : Teardown Host where
  elevation := ⟨pure (), pure ()⟩
  deleteNetwork _ := pure ()
  removeCgroup := CgroupTeardown.remove (Host.system .whole)
  findRecord containerId kind := do
    let found ← Registry.find (Host.system .whole) ⟨"reg"⟩ containerId kind
    return Registry.delete (Host.system .whole) found
  crypt := ⟨fun _ => pure (), fun _ => pure ()⟩

/-- They work on that host. -/
theorem keepsakeTeardown_onDisk : keepsakeTeardown.OnDisk .whole ⟨"reg"⟩ where
  removeCgroup := rfl
  findRecord := rfl
  deleteNetwork _ _ := .refl _ _
  raise _ := .refl _ _
  restore _ := .refl _ _
  detach _ _ := .refl _ _
  closeDevice _ _ := .refl _ _

/-- What the link in the image leads to is not in the footprint. -/
theorem keepsake_outside :
    ¬ holder.Footprint ⟨"reg"⟩ keepsake.tree keepsake.view [Utf8.bytes "keep", Utf8.bytes "f"] := by
  have himage : keepsake.tree.Names keepsake.view "img" [Utf8.bytes "img"] :=
    ⟨[], Utf8.bytes "img", [], by decide +kernel, by decide +kernel, rfl, ⟨_, rfl, rfl⟩, .here _⟩
  have hcgroup : keepsake.tree.Names keepsake.view "cg" [Utf8.bytes "cg"] :=
    ⟨[], Utf8.bytes "cg", [], by decide +kernel, by decide +kernel, rfl, ⟨_, rfl, rfl⟩, .here _⟩
  rintro ⟨step, -, hstep⟩
  cases step with
  | image =>
    obtain ⟨loc, hnames, hother⟩ := hstep
    obtain rfl := hnames.eq himage
    rcases hother with hother | ⟨-, hother⟩
    · exact absurd hother (by decide +kernel)
    · exact absurd hother (by decide +kernel)
  | cgroup =>
    obtain ⟨cgroup, hmem, loc, hreaches, hother, -⟩ := hstep
    cases hmem
    rw [hreaches.2.eq (hcgroup.reaches ⟨_, rfl, rfl⟩).2] at hother
    exact absurd hother (by decide +kernel)
  | record =>
    obtain ⟨-, ⟨init, n, dir, hsteps, -, hother, -⟩, -⟩ := hstep
    -- The record has another name than what is asked for.
    have hlast : (stepsOf ((("reg" : Path).join Registry.engineKind).join
        (Path.ofText ("c1" ++ ".json"))).bytes).getLast? = some (Utf8.bytes "c1.json") := by
      decide +kernel
    have hname : some n = some (Utf8.bytes "c1.json") := by
      have hsame := (congrArg List.getLast? hsteps).symm.trans hlast
      simpa using hsame
    have hend : some (Utf8.bytes "f") = some n := by
      simpa using congrArg List.getLast? hother
    exact absurd (hend.trans hname) (by decide +kernel)
  | network => exact hstep
  | crypt => exact hstep

/-- The image goes, and what the link in it leads to stays. -/
theorem cleanup_footprint_keepsake :
    ((holder.cleanup (Host.system .whole) keepsakeTeardown none (.ofInt 0) keepsake).2.tree.find?
        [Utf8.bytes "keep", Utf8.bytes "f"]).isSome ∧
      ∃ s', holder.runStep (Host.system .whole) keepsakeTeardown .image keepsake = (.ok (), s') ∧
        s'.tree.Vacant s'.view "img" := by
  have hends : ∀ p : Path, p = "img" ∨ p = "cg" → NameEnds p := by
    rintro p (rfl | rfl)
    · exact ⟨by decide +kernel, [], Utf8.bytes "img", by decide +kernel, by decide +kernel⟩
    · exact ⟨by decide +kernel, [], Utf8.bytes "cg", by decide +kernel, by decide +kernel⟩
  obtain ⟨hlost, -, himage, -⟩ := cleanup_footprint holder keepsakeTeardown_onDisk
    keepsake (by decide +kernel) (by decide +kernel) (hends _ (.inl rfl)) fun cgroup hcgroup => by
      cases hcgroup
      exact hends _ (.inr rfl)
  refine ⟨?_, ?_⟩
  · rcases (hlost none (.ofInt 0)).loses.kept [Utf8.bytes "keep", Utf8.bytes "f"] with
      hsame | ⟨-, hfootprint⟩
    · exact (congrArg Option.isSome hsame).trans (by decide +kernel)
    · exact absurd hfootprint keepsake_outside
  · have hrun : (holder.runStep (Host.system .whole) keepsakeTeardown .image keepsake).1 =
        .ok () := by cbv
    exact ⟨_, Prod.ext hrun rfl, (himage _ (Prod.ext hrun rfl)).1⟩

end Engine

end Container
