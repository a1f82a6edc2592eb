import Mathlib
import Container.Proofs.Host.Tending
import Container.Teardown.Cgroup

set_option autoImplicit false

/-!
# Removing a hierarchy of control groups

A hierarchy of control groups is removed from the inside out, and what is no directory is never
touched. So a hierarchy that consists of directories goes as a whole. Of any other, all directories
above the things that are none stay, and only such parts go as consist of directories.

## Main definitions

* `FileTree.Removal` — what becomes of a place from which a hierarchy is to be removed.
* `FileTree.Sweep` — what becomes of some of the places in a directory.

## Main results

* `FileTree.Sweep.cons`, `FileTree.Sweep.removal` — from the places in a directory to the directory.
* `CgroupTeardown.removeTree_removal` — what removing a directory comes to.
* `CgroupTeardown.remove_law` — what removing a control group comes to.
-/

namespace Container

open Container.Path

namespace FileTree

variable {tree mid tree' : FileTree} {loc : Location} {result : Except Stop Unit}

/-- What becomes of a place from which a hierarchy is to be removed, with the result. -/
structure Removal (tree : FileTree) (loc : Location) (result : Except Stop Unit)
    (tree' : FileTree) : Prop where
  /-- Where there are only directories, all of them go. -/
  bare : tree.Bare loc → result = .ok () ∧ ∀ other, loc <+: other → tree'.find? other = none
  /-- Where there is anything else, that fails. -/
  stray : ¬ tree.Bare loc → ∃ fault, result = .error (.failed (.cgroup fault))
  /-- What goes is at that place or below it, and had nothing but directories below it. All else
  stays as it is. -/
  kept : ∀ other, tree'.find? other = tree.find? other ∨
    tree'.find? other = none ∧ loc <+: other ∧ tree.Bare other

/-- What becomes of some of the places in a directory, from which hierarchies are to be removed one
after the other, up to the first that cannot be. -/
structure Sweep (tree : FileTree) (loc : Location) (names : List Bytes)
    (result : Except Stop Unit) (tree' : FileTree) : Prop where
  bare : (∀ n ∈ names, tree.Bare (loc ++ [n])) →
    result = .ok () ∧ ∀ n ∈ names, ∀ other, loc ++ [n] <+: other → tree'.find? other = none
  stray : (∃ n ∈ names, ¬ tree.Bare (loc ++ [n])) →
    ∃ fault, result = .error (.failed (.cgroup fault))
  kept : ∀ other, tree'.find? other = tree.find? other ∨
    tree'.find? other = none ∧ (∃ n ∈ names, loc ++ [n] <+: other) ∧ tree.Bare other

/-- Directories that are there afterwards were there before. -/
theorem Removal.isDirAt (h : Removal tree loc result tree') {other : Location}
    (hdir : tree'.IsDirAt other) : tree.IsDirAt other := by
  obtain ⟨d, hd, hkind⟩ := hdir
  rcases h.kept other with hsame | ⟨hnone, -, -⟩
  · exact ⟨d, hsame ▸ hd, hkind⟩
  · rw [hnone] at hd
    cases hd

/-! ## From places in a directory to the directory -/

/-- What is below one name in a directory is not below another. -/
theorem name_eq_of_below {n m : Bytes} {other : Location} (h : loc ++ [n] <+: other)
    (h' : loc ++ [m] <+: other) : n = m := by
  obtain ⟨more, rfl⟩ := h
  have hpair : loc ++ [m] <+: loc ++ [n] :=
    List.prefix_of_prefix_length_le h' (List.prefix_append _ _) (by simp)
  have hsame : loc ++ [m] = loc ++ [n] := hpair.eq_of_length (by simp)
  simpa using (List.append_cancel_left hsame).symm

namespace Sweep

variable {names : List Bytes}

/-- What goes is below the directory. -/
theorem kept_below (h : Sweep tree loc names result tree') (other : Location) :
    tree'.find? other = tree.find? other ∨
      tree'.find? other = none ∧ loc <+: other ∧ tree.Bare other :=
  (h.kept other).imp_right fun ⟨hnone, ⟨_, _, hother⟩, hbare⟩ =>
    ⟨hnone, (List.prefix_append _ _).trans hother, hbare⟩

/-- Nothing is done at no place. -/
theorem nil (tree : FileTree) (loc : Location) : Sweep tree loc [] (.ok ()) tree where
  bare _ := ⟨rfl, by simp⟩
  stray h := by simp at h
  kept _ := .inl rfl

/-- The first place cannot be cleared, and nothing comes after that. -/
theorem stop {n : Bytes} {stop : Stop} (h : Removal tree (loc ++ [n]) (.error stop) tree')
    (names : List Bytes) : Sweep tree loc (n :: names) (.error stop) tree' where
  bare hbare := by
    obtain ⟨hok, -⟩ := h.bare (hbare n (by simp))
    cases hok
  stray _ := by
    refine h.stray fun hbare => ?_
    obtain ⟨hok, -⟩ := h.bare hbare
    cases hok
  kept other := (h.kept other).imp_right fun ⟨hnone, hother, hbare⟩ =>
    ⟨hnone, ⟨n, by simp, hother⟩, hbare⟩

/-- **The first place is cleared, then the others.** What is below the others is not affected by the
first. -/
theorem cons {n : Bytes} (h : Removal tree (loc ++ [n]) (.ok ()) mid)
    (hrest : Sweep mid loc names result tree') (hn : n ∉ names) :
    Sweep tree loc (n :: names) result tree' := by
  have hfirst : tree.Bare (loc ++ [n]) := by
    by_contra hbare
    obtain ⟨fault, hfault⟩ := h.stray hbare
    cases hfault
  have hsame : ∀ m ∈ names, ∀ other, loc ++ [m] <+: other → mid.find? other = tree.find? other := by
    intro m hm other hother
    rcases h.kept other with hsame | ⟨-, hbelow, -⟩
    · exact hsame
    · exact absurd (name_eq_of_below hbelow hother ▸ hm) hn
  have hcongr : ∀ m ∈ names, ∀ other, loc ++ [m] <+: other → (mid.Bare other ↔ tree.Bare other) :=
    fun m hm other hother => bare_congr fun place hplace => hsame m hm place (hother.trans hplace)
  constructor
  · intro hbare
    obtain ⟨hok, hcleared⟩ := hrest.bare fun m hm =>
      (hcongr m hm _ List.prefix_rfl).mpr (hbare m (by simp [hm]))
    refine ⟨hok, ?_⟩
    intro m hm other hother
    rcases List.mem_cons.mp hm with rfl | hm
    · have hgone := (h.bare hfirst).2 other hother
      rcases hrest.kept other with hkept | ⟨hnone, -, -⟩
      · rw [hkept, hgone]
      · exact hnone
    · exact hcleared m hm other hother
  · rintro ⟨m, hm, hstray⟩
    rcases List.mem_cons.mp hm with rfl | hm
    · exact absurd hfirst hstray
    · exact hrest.stray ⟨m, hm, mt (hcongr m hm _ List.prefix_rfl).mp hstray⟩
  · intro other
    rcases hrest.kept other with hkept | ⟨hnone, ⟨m, hm, hother⟩, hbare⟩
    · rw [hkept]
      exact (h.kept other).imp_right fun ⟨hnone, hother, hbare⟩ =>
        ⟨hnone, ⟨n, by simp, hother⟩, hbare⟩
    · exact .inr ⟨hnone, ⟨m, by simp [hm], hother⟩, (hcongr m hm other hother).mp hbare⟩

variable (hformed : tree.WellFormed) (hdir : tree.IsDirAt loc)
  (hnames : ∀ n, n ∈ names ↔ tree.IsDirAt (loc ++ [n]))
include hformed hdir hnames

/-- Where the directories in a directory cannot all be cleared, it is not bare, and it stays. -/
theorem removal_of_error {stop : Stop} (h : Sweep tree loc names (.error stop) tree') :
    Removal tree loc (.error stop) tree' := by
  have hstray : ∃ n ∈ names, ¬ tree.Bare (loc ++ [n]) := by
    by_contra hall
    obtain ⟨hok, -⟩ := h.bare fun n hn => by
      by_contra hbare
      exact hall ⟨n, hn, hbare⟩
    cases hok
  constructor
  · intro hbare
    obtain ⟨n, hn, hnot⟩ := hstray
    obtain ⟨f, hf, -⟩ := (hnames n).mp hn
    exact absurd ((bare_iff hformed hdir).mp hbare n f hf) hnot
  · exact fun _ => h.stray hstray
  · exact h.kept_below

/-- Where something is left in a directory, there was something that is no directory, and it
stays. -/
theorem removal_of_occupied (h : Sweep tree loc names (.ok ()) tree')
    (hleft : ∃ n f, tree'.find? (loc ++ [n]) = some f) (fault : CgroupFault) :
    Removal tree loc (.error (.failed (.cgroup fault))) tree' := by
  obtain ⟨n, f, hf⟩ := hleft
  have hnot : ¬ tree.Bare loc := by
    intro hbare
    have hchildren := (bare_iff hformed hdir).mp hbare
    have hthere : tree.find? (loc ++ [n]) = some f := by
      rcases h.kept (loc ++ [n]) with hkept | ⟨hnone, -, -⟩
      · rw [← hkept, hf]
      · rw [hf] at hnone
        cases hnone
    have hisDir : tree.IsDirAt (loc ++ [n]) :=
      ⟨f, hthere, (hchildren n f hthere).2 _ f List.prefix_rfl hthere⟩
    obtain ⟨-, hcleared⟩ := h.bare fun m hm => by
      obtain ⟨g, hg, -⟩ := (hnames m).mp hm
      exact hchildren m g hg
    rw [hcleared n ((hnames n).mpr hisDir) _ List.prefix_rfl] at hf
    cases hf
  exact ⟨fun hbare => absurd hbare hnot, fun _ => ⟨fault, rfl⟩, h.kept_below⟩

/-- Where nothing is left in a directory, it was bare, and can be removed itself. -/
theorem removal_of_empty (h : Sweep tree loc names (.ok ()) tree') (hformed' : tree'.WellFormed)
    (hempty : ∀ n, tree'.find? (loc ++ [n]) = none) :
    Removal tree loc (.ok ()) (tree'.remove loc) := by
  have hbare : tree.Bare loc := by
    refine (bare_iff hformed hdir).mpr fun n f hf => ?_
    rcases h.kept (loc ++ [n]) with hkept | ⟨-, -, hbare⟩
    · rw [hempty n, hf] at hkept
      cases hkept
    · exact hbare
  have hgone : ∀ other, loc <+: other → (tree'.remove loc).find? other = none := by
    rintro other ⟨more, rfl⟩
    rw [find?_remove]
    split
    · rfl
    · rename_i hne
      cases more with
      | nil => exact absurd (List.append_nil loc) hne
      | cons n more =>
        cases hfind : tree'.find? (loc ++ n :: more) with
        | none => rfl
        | some f =>
          have hassoc : loc ++ n :: more = loc ++ [n] ++ more := by simp
          rw [hassoc] at hfind
          cases more with
          | nil =>
            rw [List.append_nil, hempty n] at hfind
            cases hfind
          | cons m more =>
            obtain ⟨d, hd, -⟩ := hformed'.isDirAt (by simp) hfind
            rw [hempty n] at hd
            cases hd
  refine ⟨fun _ => ⟨rfl, hgone⟩, fun hnot => absurd hbare hnot, fun other => ?_⟩
  by_cases hother : other = loc
  · subst hother
    exact .inr ⟨hgone other List.prefix_rfl, List.prefix_rfl, hbare⟩
  · rw [find?_remove, if_neg hother]
    exact h.kept_below other

end Sweep

end FileTree

open FileTree

variable {σ : Type}

namespace CgroupTeardown

/-! ## Runs -/

/-- What removing a directory that may have gone already comes to. -/
theorem run_removeEmpty (sys : System σ) (path : Path) (s : σ) :
    removeEmpty sys path s = match sys.removeDir path s with
      | (.ok (), s') => (.ok (), s')
      | (.error fault, s') =>
        if fault.isNotFound then (.ok (), s')
        else (.error (.failed (.cgroup (.notRemoved path fault))), s') := by
  unfold removeEmpty
  rw [Act.run_bind, Act.run_lift]
  rcases sys.removeDir path s with ⟨fault | ⟨⟩, s'⟩
  · by_cases hfault : fault.isNotFound <;> simp [hfault]
  · rfl

/-- What removing a directory after those inside it comes to. -/
theorem run_removeTree_succ (sys : System σ) (depth : Nat) (path : Path) (s : σ) :
    removeTree sys (depth + 1) path s = match sys.listDir path s with
      | (.ok entries, s') =>
        (forEachDir entries (fun entry =>
          removeTree sys depth (path.join ⟨entry.name⟩)) >>= fun _ => removeEmpty sys path) s'
      | (.error fault, s') =>
        if fault.isNotFound then (.ok (), s')
        else (.error (.failed (.cgroup (.unreadable path fault))), s') := by
  rw [removeTree, Act.run_bind, Act.run_lift]
  rcases sys.listDir path s with ⟨fault | entries, s'⟩
  · by_cases hfault : fault.isNotFound <;> simp [hfault]
  · rfl

section Tending

variable {sys : System σ} {treeOf : σ → FileTree} {v : Viewpoint} {p : Path} {calm : σ → Prop}
  {base : Location} {names : List Bytes} {s s' : σ} {tree : FileTree}

/-- The world is calm, and the way to a place does not go through it. -/
def Ready (treeOf : σ → FileTree) (v : Viewpoint) (p : Path) (calm : σ → Prop) (base : Location)
    (s : σ) : Prop :=
  calm s ∧ ((treeOf s).cut base).Names v p base

/-- What becomes of the place itself makes no difference to the way. -/
theorem Ready.of_kept (h : Ready treeOf v p calm base s) (hcalm : calm s')
    (hkept : ∀ other, ¬ base <+: other → (treeOf s').find? other = (treeOf s).find? other) :
    Ready treeOf v p calm base s' :=
  ⟨hcalm, h.2.cut_congr hkept⟩

/-- Nor does what a removal does there or below. -/
theorem Ready.of_removal {result : Except Stop Unit} (h : Ready treeOf v p calm base s)
    (hcalm : calm s')
    (hremoval : Removal (treeOf s) (base ++ names) result (treeOf s')) :
    Ready treeOf v p calm base s' := by
  refine h.of_kept hcalm fun other hother => ?_
  rcases hremoval.kept other with hsame | ⟨-, hbelow, -⟩
  · exact hsame
  · exact absurd ((List.prefix_append _ _).trans hbelow) hother

/-- **Clearing one directory after the other**, given how one of them is cleared. -/
theorem forM_sweep {depth : Nat}
    (hclear : ∀ names s, Ready treeOf v p calm base s → (treeOf s).IsDirAt (base ++ names) →
      (∀ more, (treeOf s).IsDirAt (base ++ names ++ more) → more.length ≤ depth) →
      ∃ result s', removeTree sys depth (p.down names) s = (result, s') ∧ calm s' ∧
        Removal (treeOf s) (base ++ names) result (treeOf s'))
    (entries : List DirEntry) (hnodup : (entries.map (·.name)).Nodup)
    (hready : Ready treeOf v p calm base s)
    (hentries : ∀ entry ∈ entries, (treeOf s).IsDirAt (base ++ names ++ [entry.name]))
    (hdepth : ∀ more, (treeOf s).IsDirAt (base ++ names ++ more) → more.length ≤ depth + 1) :
    ∃ result s', entries.forM (fun entry =>
        removeTree sys depth ((p.down names).join ⟨entry.name⟩)) s = (result, s') ∧
      Ready treeOf v p calm base s' ∧
      Sweep (treeOf s) (base ++ names) (entries.map (·.name)) result (treeOf s') := by
  induction entries generalizing s with
  | nil => exact ⟨.ok (), s, rfl, hready, .nil _ _⟩
  | cons entry entries ih =>
    have hassoc : base ++ (names ++ [entry.name]) = base ++ names ++ [entry.name] := by simp
    obtain ⟨result, mid, hrun, hcalm, hremoval⟩ := hclear (names ++ [entry.name]) s hready
      (hassoc ▸ hentries entry (by simp)) fun more hmore => by
        have hbound := hdepth (entry.name :: more) (by simpa using hmore)
        simpa using hbound
    have hmid := hready.of_removal hcalm hremoval
    rw [Path.down_concat] at hrun
    rw [hassoc] at hremoval
    obtain ⟨hnotin, hnodup⟩ := List.nodup_cons.mp hnodup
    rw [List.forM_eq_forM, List.forM_cons, Act.run_bind, hrun]
    cases result with
    | error stop => exact ⟨_, mid, rfl, hmid, .stop hremoval _⟩
    | ok =>
      have hothers : ∀ other ∈ entries,
          (treeOf mid).IsDirAt (base ++ names ++ [other.name]) := by
        intro other hother
        obtain ⟨d, hd, hkind⟩ := hentries other (by simp [hother])
        rcases hremoval.kept (base ++ names ++ [other.name]) with hsame | ⟨-, hbelow, -⟩
        · exact ⟨d, hsame.trans hd, hkind⟩
        · have hname := name_eq_of_below hbelow List.prefix_rfl
          exact absurd (List.mem_map.mpr ⟨other, hother, hname.symm⟩) hnotin
      obtain ⟨result, s', hrest, hready', hsweep⟩ := ih hnodup hmid hothers fun more hmore =>
        hdepth more (hremoval.isDirAt hmore)
      rw [List.forM_eq_forM] at hrest
      exact ⟨result, s', hrest, hready', .cons hremoval hsweep hnotin⟩

variable (h : TendsTree sys treeOf v p calm)
include h

/-- **The end of a removal**: once the directories in a directory were cleared, the directory itself
is removed, or stays because something else is in it. -/
theorem removeEmpty_removal (dirs : List Bytes) (hformed : tree.WellFormed)
    (hdir : tree.IsDirAt (base ++ names))
    (hdirs : ∀ n, n ∈ dirs ↔ tree.IsDirAt (base ++ names ++ [n]))
    (hready : Ready treeOf v p calm base s)
    (hsweep : Sweep tree (base ++ names) dirs (.ok ()) (treeOf s)) :
    ∃ result s', removeEmpty sys (p.down names) s = (result, s') ∧ calm s' ∧
      Removal tree (base ++ names) result (treeOf s') := by
  have hnames : (treeOf s).Names v p base := hready.2.of_cut
  have hstill : (treeOf s).IsDirAt (base ++ names) := by
    obtain ⟨d, hd, hkind⟩ := hdir
    rcases hsweep.kept (base ++ names) with hsame | ⟨-, ⟨n, -, hbelow⟩, -⟩
    · exact ⟨d, hsame.trans hd, hkind⟩
    · have hlength := hbelow.length_le
      rw [List.length_append, List.length_singleton] at hlength
      omega
  by_cases hempty : ∀ n, (treeOf s).find? (base ++ names ++ [n]) = none
  · obtain ⟨s', hcall, hcalm, htree⟩ := h.empty s base names hready.1 hnames hstill hempty
    refine ⟨.ok (), s', by rw [run_removeEmpty, hcall], hcalm, ?_⟩
    rw [htree]
    exact hsweep.removal_of_empty hformed hdir hdirs (h.formed s hready.1) hempty
  · simp only [not_forall] at hempty
    obtain ⟨n, hn⟩ := hempty
    obtain ⟨f, hf⟩ := Option.ne_none_iff_exists'.mp hn
    obtain ⟨fault, hfault, s', hcall, hcalm, htree⟩ :=
      h.occupied s base names hready.1 hnames hstill ⟨n, f, hf⟩
    refine ⟨.error (.failed (.cgroup (.notRemoved (p.down names) fault))), s', ?_, hcalm, ?_⟩
    · rw [run_removeEmpty, hcall]
      simp [hfault]
    · rw [htree]
      exact hsweep.removal_of_occupied hformed hdir hdirs ⟨n, f, hf⟩ _

/-- **What removing a directory comes to.**

**Proof sketch.** By induction on how deep directories lie inside the directory. Those in it are
cleared one after the other, which leaves the way to it and to the others as it was. Where none is
left in it, so that there is nothing to go through, it is removed or stays. -/
theorem removeTree_removal (depth : Nat) (names : List Bytes) (s : σ)
    (hready : Ready treeOf v p calm base s) (hdir : (treeOf s).IsDirAt (base ++ names))
    (hdepth : ∀ more, (treeOf s).IsDirAt (base ++ names ++ more) → more.length ≤ depth) :
    ∃ result s', removeTree sys depth (p.down names) s = (result, s') ∧ calm s' ∧
      Removal (treeOf s) (base ++ names) result (treeOf s') := by
  have hformed := h.formed s hready.1
  induction depth generalizing names s with
  | zero =>
    refine removeEmpty_removal h [] hformed hdir ?_ hready (.nil _ _)
    intro n
    refine ⟨nofun, fun hn => ?_⟩
    have hbound := hdepth [n] hn
    simp at hbound
  | succ depth ih =>
    obtain ⟨entries, ⟨hnodup, hentries⟩, listed, hlist, hcalm, htree⟩ :=
      h.lists s base names hready.1 hready.2.of_cut hdir
    have hlisted : Ready treeOf v p calm base listed :=
      hready.of_kept hcalm fun other _ => by rw [htree]
    have hdirs : ∀ n, n ∈ (entries.filter (·.isDir)).map (·.name) ↔
        (treeOf listed).IsDirAt (base ++ names ++ [n]) := by
      intro n
      rw [htree]
      constructor
      · intro hn
        obtain ⟨entry, hentry, rfl⟩ := List.mem_map.mp hn
        obtain ⟨hmem, hisDir⟩ := List.mem_filter.mp hentry
        obtain ⟨f, hf, hkind⟩ := (hentries entry).mp hmem
        exact ⟨f, hf, by simpa [File.isDir, hisDir] using hkind⟩
      · rintro ⟨f, hf, hkind⟩
        have hmem : ⟨n, true⟩ ∈ entries :=
          (hentries ⟨n, true⟩).mpr ⟨f, hf, by simp [File.isDir, hkind]⟩
        exact List.mem_map.mpr ⟨⟨n, true⟩, List.mem_filter.mpr ⟨hmem, rfl⟩, rfl⟩
    obtain ⟨result, swept, hrun, hswept, hsweep⟩ := forM_sweep (fun names s hready hdir hdepth =>
        ih names s hready hdir hdepth (h.formed s hready.1))
      (entries.filter (·.isDir)) ((List.filter_sublist.map _).nodup hnodup) hlisted
      (fun entry hentry => (hdirs _).mp (List.mem_map_of_mem hentry)) (htree ▸ hdepth)
    rw [run_removeTree_succ, hlist]
    simp only [forEachDir_readable, Act.run_bind, hrun]
    rw [htree] at hdirs hsweep
    cases result with
    | error stop =>
      exact ⟨_, swept, rfl, hswept.1, hsweep.removal_of_error hformed hdir hdirs⟩
    | ok => exact removeEmpty_removal h _ hformed hdir hdirs hswept hsweep

end Tending

/-- **What removing a control group comes to** on a system that tends its tree. Where nothing is at
its path, nothing is done, and that is no failure. A directory at its path the way to which does not
go through it is removed with all it holds if that is directories only. Of any other, what is
removed held nothing but directories, all else stays as it is, and that is a failure.

**Proof sketch.** By induction on the depth that is left (`removeTree_removal`): what a directory
holds is gone through first, each entry changes nothing but what is below it, and then the directory
itself is removed, which succeeds exactly if nothing is left inside. No directory lies deeper than
the system says, so the depth never runs out before the directories do. Where nothing is at the
path, both listing and removing say so, and that is no failure. -/
theorem remove_law {sys : System σ} {treeOf : σ → FileTree} {v : Viewpoint} {calm : σ → Prop}
    (cgroup : Cgroup) (h : TendsTree sys treeOf v cgroup.path calm) {s : σ} (hs : calm s) :
    ((treeOf s).Absent v cgroup.path →
      ∃ s', remove sys cgroup s = (.ok (), s') ∧ treeOf s' = treeOf s) ∧
    ∀ loc, ((treeOf s).cut loc).Names v cgroup.path loc → (treeOf s).IsDirAt loc →
      ∃ result s', remove sys cgroup s = (result, s') ∧
        Removal (treeOf s) loc result (treeOf s') := by
  obtain ⟨begun, hlog, hcalm, htree⟩ := h.log ⟨.debug, .cgroups, "removing cgroup",
    [("cgroup", .shown cgroup.path.display)]⟩ s hs
  have hrun : remove sys cgroup s =
      removeTree sys (sys.depthBound begun) cgroup.path begun := by
    unfold remove System.report
    rw [Act.run_bind, Act.run_lift, hlog]
    rfl
  rw [hrun, ← htree]
  refine ⟨fun habsent => ?_, fun loc hnames hdir => ?_⟩
  · obtain ⟨fault, fault', hfault, hfault', ⟨listed, hlist, -, hlisted⟩, ⟨kept, hkeep, -, hkept⟩⟩ :=
      h.absent begun hcalm habsent
    cases sys.depthBound begun with
    | zero =>
      refine ⟨kept, ?_, hkept⟩
      show removeEmpty sys cgroup.path begun = _
      rw [run_removeEmpty, hkeep]
      simp [hfault']
    | succ depth =>
      refine ⟨listed, ?_, hlisted⟩
      rw [run_removeTree_succ, hlist]
      simp [hfault]
  · have hready : Ready treeOf v cgroup.path calm loc begun := ⟨hcalm, hnames⟩
    have hbound : ∀ more, (treeOf begun).IsDirAt (loc ++ [] ++ more) →
        more.length ≤ sys.depthBound begun := by
      intro more hmore
      have hdeep := h.bounded begun _ hcalm hmore
      simp only [List.length_append] at hdeep
      omega
    rw [← List.append_nil loc] at hdir
    obtain ⟨result, s', hremoved, -, hremoval⟩ :=
      removeTree_removal h (sys.depthBound begun) [] begun hready hdir hbound
    rw [List.append_nil] at hremoval
    exact ⟨result, s', hremoved, hremoval⟩

/-! ## On a host -/

/-- A host with these files, each at a location below its top, which is the working directory. -/
def hostWith (files : List (List String × FileKind)) : Host where
  tree := ⟨⟨[], 1, 0o755, .directory⟩ ::
    files.map fun (names, kind) => ⟨names.map Utf8.bytes, 2, 0o755, kind⟩, 3⟩
  view := ⟨[], [], usualMask⟩
  environment := ⟨[]⟩
  output := #[]
  pipes := []
  nextId := 1
  ended? := none

/-- A host with a hierarchy of directories only, and with one in which there is a link to it. -/
def linkedHierarchies : Host := hostWith [(["bare"], .directory), (["bare", "a"], .directory),
  (["bare", "a", "b"], .directory), (["mixed"], .directory), (["mixed", "c"], .directory),
  (["mixed", "c", "l"], .link (Utf8.bytes "../../bare"))]

/-- Nothing is refused on that host. -/
theorem linkedHierarchies_calm : linkedHierarchies.Calm ⟨[], [], usualMask⟩ where
  view := rfl
  formed := by decide +kernel
  distinct := by decide +kernel
  cwd := ⟨_, rfl, rfl⟩
  permitted f hf _ access := by
    have hmode : ∀ f ∈ linkedHierarchies.tree.files, f.mode = 0o755 := by decide +kernel
    unfold File.permits
    rw [hmode f hf]
    cases access <;> decide
  plain := by decide +kernel

/-- Of the two hierarchies of that host the one goes as a whole. Of the other the link stays, with
the directories above it, and what it leads to is not touched. -/
theorem remove_law_linkedHierarchies :
    let v : Viewpoint := ⟨[], [], usualMask⟩
    let bare : Location := [Utf8.bytes "bare"]
    let mixed : Location := [Utf8.bytes "mixed"]
    (∀ name : String, name = "bare" ∨ name = "mixed" →
      TendsTree (Host.system .whole) Host.tree v ⟨Utf8.bytes name⟩ (Host.Calm v)) ∧
    linkedHierarchies.Calm v ∧
    (∃ s', remove (Host.system .whole) ⟨"bare"⟩ linkedHierarchies = (.ok (), s') ∧
      s'.tree.find? (bare ++ [Utf8.bytes "a", Utf8.bytes "b"]) = none ∧
      s'.tree.find? mixed = linkedHierarchies.tree.find? mixed) ∧
    ∃ fault s', remove (Host.system .whole) ⟨"mixed"⟩ linkedHierarchies =
        (.error (.failed (.cgroup fault)), s') ∧
      s'.tree.find? (mixed ++ [Utf8.bytes "c"]) ≠ none ∧
      s'.tree.find? bare = linkedHierarchies.tree.find? bare := by
  intro v bare mixed
  have htends : ∀ name : String, name = "bare" ∨ name = "mixed" →
      TendsTree (Host.system .whole) Host.tree v ⟨Utf8.bytes name⟩ (Host.Calm v) := by
    rintro name (rfl | rfl)
    · exact Host.tendsTree v (by decide +kernel)
    · exact Host.tendsTree v (by decide +kernel)
  refine ⟨htends, linkedHierarchies_calm, ?_, ?_⟩
  · obtain ⟨result, s', hrun, hremoval⟩ :=
      (remove_law ⟨"bare"⟩ (htends "bare" (.inl rfl)) linkedHierarchies_calm).2 bare
        (Host.names_cut (by decide +kernel) linkedHierarchies_calm.cwd) ⟨_, rfl, rfl⟩
    have hbare : linkedHierarchies.tree.Bare bare := bare_of_forall (by decide) (by decide +kernel)
    obtain ⟨rfl, hgone⟩ := hremoval.bare hbare
    refine ⟨s', hrun, hgone _ (List.prefix_append _ _), ?_⟩
    rcases hremoval.kept mixed with hsame | ⟨-, hbelow, -⟩
    · exact hsame
    · exact absurd hbelow (by decide +kernel)
  · obtain ⟨result, s', hrun, hremoval⟩ :=
      (remove_law ⟨"mixed"⟩ (htends "mixed" (.inr rfl)) linkedHierarchies_calm).2 mixed
        (Host.names_cut (by decide +kernel) linkedHierarchies_calm.cwd) ⟨_, rfl, rfl⟩
    have hlink : ∀ other, other <+: mixed ++ [Utf8.bytes "c", Utf8.bytes "l"] →
        ¬ linkedHierarchies.tree.Bare other := by
      intro other hother hbare
      have hkind := hbare.2 _ _ hother rfl
      cases hkind
    obtain ⟨fault, rfl⟩ := hremoval.stray (hlink mixed (List.prefix_append _ _))
    refine ⟨fault, s', hrun, ?_, ?_⟩
    · rcases hremoval.kept (mixed ++ [Utf8.bytes "c"]) with hsame | ⟨-, -, hbare⟩
      · rw [hsame]
        decide +kernel
      · exact absurd hbare (hlink _ (by decide +kernel))
    · rcases hremoval.kept bare with hsame | ⟨-, hbelow, -⟩
      · exact hsame
      · exact absurd hbelow (by decide +kernel)

/-- A host with a directory in a directory, and a file. -/
def nestedDirectory : Host := hostWith [(["x"], .directory), (["x", "sub"], .directory),
  (["f"], .regular [])]

/-- A control group is not listed on that host if its name is too long. -/
theorem remove_overlong {n : Bytes} (hentry : ∀ m ∈ [n], IsEntry m) (hnul : hasNul ⟨n⟩ = false)
    (hlong : nameLimit < n.length) (hshort : n.length ≤ pathLimit) :
    (remove (Host.system .whole) ⟨⟨n⟩⟩ nestedDirectory).1 =
      .error (.failed (.cgroup (.unreadable ⟨n⟩ (.os .nameTooLong)))) := by
  let begun : Host := ((Host.system .whole).report .debug .cgroups "removing cgroup"
    [("cgroup", .shown (display ⟨n⟩))] nestedDirectory).2
  have hopen : begun.tree.Open begun.view.cwd :=
    ⟨_, rfl, rfl, fun access => by cases access <;> rfl⟩
  have hrun : remove (Host.system .whole) ⟨⟨n⟩⟩ nestedDirectory =
      removeTree (Host.system .whole) 4 ⟨n⟩ begun := rfl
  rw [hrun, run_removeTree_succ, Host.run_listDir hnul,
    list_overlong hentry hlong hshort hopen]
  rfl

/-- Where the way to a directory goes through the directory itself, the directory stays although
nothing is said to be wrong. Where nothing can be at a path because the way goes through a file, or
because a name is too long, that is a failure. -/
theorem remove_unsettled :
    (nestedDirectory.tree.Names nestedDirectory.view "x/sub/../../x" [Utf8.bytes "x"] ∧
      nestedDirectory.tree.Bare [Utf8.bytes "x"] ∧
      (remove (Host.system .whole) ⟨"x/sub/../../x"⟩ nestedDirectory).1 = .ok () ∧
      ((remove (Host.system .whole) ⟨"x/sub/../../x"⟩ nestedDirectory).2.tree.find?
        [Utf8.bytes "x"]).isSome) ∧
    (nestedDirectory.tree.find? [Utf8.bytes "f", Utf8.bytes "x"] = none ∧
      (remove (Host.system .whole) ⟨"f/x"⟩ nestedDirectory).1 =
        .error (.failed (.cgroup (.unreadable "f/x" (.os .notDirectory))))) ∧
    nestedDirectory.tree.find? [List.replicate 256 0x6E] = none ∧
      (remove (Host.system .whole) ⟨⟨List.replicate 256 0x6E⟩⟩ nestedDirectory).1 =
        .error (.failed (.cgroup (.unreadable ⟨List.replicate 256 0x6E⟩ (.os .nameTooLong)))) := by
  have hnames : nestedDirectory.tree.Names nestedDirectory.view "x/sub/../../x"
      [Utf8.bytes "x"] := by
    refine ⟨[Utf8.bytes "x", Utf8.bytes "sub", [dot, dot], [dot, dot]], Utf8.bytes "x", [],
      by decide +kernel, by decide +kernel, rfl, ⟨_, rfl, rfl⟩, ?_⟩
    refine .step (.enter (by decide +kernel) rfl rfl) ?_
    refine .step (.enter (by decide +kernel) rfl rfl) ?_
    exact .step .parent (.step .parent (.here _))
  have hbare : nestedDirectory.tree.Bare [Utf8.bytes "x"] :=
    bare_of_forall (by decide +kernel) (by decide +kernel)
  refine ⟨⟨hnames, hbare, by cbv, by cbv⟩, ⟨by decide +kernel, by cbv⟩, by decide +kernel, ?_⟩
  exact remove_overlong (by decide +kernel) (by decide +kernel) (by decide +kernel)
    (by decide +kernel)

end CgroupTeardown
end Container
