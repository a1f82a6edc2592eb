import Container.Proofs.Host.Tending

set_option autoImplicit false

/-!
# Trees that only lose files

What is removed from a tree is removed at some places, and nothing else becomes of it. In a tree
that has lost files a path leads no longer where it led, or still leads there; it leads nowhere
new. So it can be said in terms of the tree as it was what a call removes later.

## Main definitions

* `FileTree.Loses` — a tree loses files at some of the places that are allowed.
* `FileTree.NameEnds` — a path that ends in a name.
* `FileTree.OfEntry` — the places at the end of a path: what has that name, and what is in it.
* `FileTree.Removes` — a file is removed that has the name at the end of a path.

## Main results

* `FileTree.Loses.reaches` — a path leads nowhere new.
* `FileTree.removes_of_unlink`, `FileTree.removes_of_removeDir`, `FileTree.removeTree_loses` — what
  the calls remove.
-/

namespace Container.FileTree

open Container.Path

/-! ## Losing files -/

/-- A tree loses files, all of them at places where that is allowed. Nothing is added, and what
stays is as it was. -/
structure Loses (allowed : Location → Prop) (tree tree' : FileTree) : Prop where
  files : tree'.files.Sublist tree.files
  kept : ∀ loc, tree'.find? loc = tree.find? loc ∨ tree'.find? loc = none ∧ allowed loc

variable {allowed allowed' : Location → Prop} {tree mid tree' : FileTree} {v : Viewpoint} {p : Path}
  {root dir loc other : Location} {steps : List Bytes}

namespace Loses

theorem refl (allowed : Location → Prop) (tree : FileTree) : Loses allowed tree tree :=
  ⟨.refl _, fun _ => .inl rfl⟩

theorem trans (h : Loses allowed tree mid) (h' : Loses allowed mid tree') :
    Loses allowed tree tree' := by
  refine ⟨h'.files.trans h.files, fun loc => ?_⟩
  rcases h'.kept loc with hsame | hgone
  · rw [hsame]
    exact h.kept loc
  · exact .inr hgone

theorem mono (h : Loses allowed tree tree') (hmore : ∀ loc, allowed loc → allowed' loc) :
    Loses allowed' tree tree' :=
  ⟨h.files, fun loc => (h.kept loc).imp_right fun ⟨hgone, hloc⟩ => ⟨hgone, hmore loc hloc⟩⟩

/-- A file is removed. -/
theorem remove (tree : FileTree) (h : allowed loc) : Loses allowed tree (tree.remove loc) := by
  refine ⟨List.filter_sublist, fun other => ?_⟩
  rw [find?_remove]
  split
  · rename_i hother
    exact .inr ⟨rfl, hother ▸ h⟩
  · exact .inl rfl

/-- What is there was there. -/
theorem find?_eq_some (h : Loses allowed tree tree') (loc : Location) (f : File)
    (hf : tree'.find? loc = some f) : tree.find? loc = some f := by
  rcases h.kept loc with hsame | ⟨hgone, -⟩
  · rw [← hsame, hf]
  · rw [hgone] at hf
    cases hf

/-- A path leads nowhere new. -/
theorem reaches (h : Loses allowed tree tree') (hreaches : tree'.Reaches v p loc) :
    tree.Reaches v p loc :=
  ⟨hreaches.1, hreaches.2.mono h.find?_eq_some⟩

/-- What could be gone through can be, or is not there. -/
theorem require (h : Loses allowed tree tree') {access : Access}
    (hrequire : tree.require loc access = .ok ()) : tree'.require loc access = .ok () := by
  unfold FileTree.require at hrequire ⊢
  rcases h.kept loc with hsame | ⟨hgone, -⟩
  · rw [hsame]
    exact hrequire
  · rw [hgone]

end Loses

/-! ## The way to the end of a path -/

/-- A step through a directory that is needed is passed. -/
theorem require_of_followSteps {links : Nat} {slash : Bool} {followed : Followed} {n : Bytes}
    (h : tree.followSteps root links dir slash (n :: steps) = .ok followed) :
    tree.require dir .run = .ok () := by
  cases hrequire : tree.require dir .run with
  | ok => rfl
  | error e =>
    cases steps <;>
    · unfold followSteps at h
      simp [hrequire, bind, Except.bind] at h

/-- A slash at the end of a path makes no difference if the path leads to a directory. -/
theorem Leads.whole_of_isDirAt {bs : Bytes} {ys : List Bytes}
    (h : tree.Leads root dir (stepsOf bs ++ ys) loc) (hdir : tree.IsDirAt loc) :
    tree.Leads root dir (wholeSteps bs ++ ys) loc := by
  cases ys with
  | cons y ys => exact h.whole (by simp)
  | nil =>
    rw [List.append_nil] at h ⊢
    unfold wholeSteps slashStep
    split
    · refine h.append ?_ (.step .current (.here loc))
      intro f hf
      obtain ⟨d, hd, hkind⟩ := hdir
      obtain rfl := Option.some.inj (hd.symm.trans hf)
      exact hkind
    · rwa [List.append_nil]

/-- **All but the last step** lead to the directory in which the last is taken, in the tree or in
the one that it has lost files from.

**Proof sketch.** By induction on how the steps are followed. -/
theorem leads_of_followSteps (hloses : Loses allowed tree tree') {links : Nat} {slash : Bool}
    {followed : Followed} (h : tree'.followSteps root links dir slash steps = .ok followed)
    (hne : steps ≠ []) :
    ∃ init n, steps = init ++ [n] ∧ lastSteps followed.last = [n] ∧
      (tree.IsDirAt followed.directory → tree.Leads root dir init followed.directory) := by
  induction links, dir, steps using followSteps.induct root with
  | case1 links dir => exact absurd rfl hne
  | case2 links dir n =>
    obtain ⟨last, rfl, hlast, -⟩ := followSteps_last h
    exact ⟨[], n, rfl, hlast, fun _ => .here dir⟩
  | case3 links dir n next steps ihCurrent ihParent ihEnter ihLink =>
    rcases followSteps_cases h with ⟨rfl, hnext⟩ | ⟨rfl, hnext⟩ | ⟨f, hn, hfind, hkind, hnext⟩ |
      ⟨f, target, fewer, hn, hfind, hkind, htarget, rfl, hnext⟩
    · obtain ⟨init, m, hsteps, hlast, hleads⟩ := ihCurrent hnext (by simp)
      exact ⟨_ :: init, m, by rw [hsteps]; rfl, hlast, fun hdir => .step .current (hleads hdir)⟩
    · obtain ⟨init, m, hsteps, hlast, hleads⟩ := ihParent hnext (by simp)
      exact ⟨_ :: init, m, by rw [hsteps]; rfl, hlast, fun hdir => .step .parent (hleads hdir)⟩
    · obtain ⟨init, m, hsteps, hlast, hleads⟩ := ihEnter f hnext (by simp)
      rw [location_of_find? hfind] at hleads
      exact ⟨_ :: init, m, by rw [hsteps]; rfl, hlast, fun hdir =>
        .step (.enter hn (hloses.find?_eq_some _ _ hfind) hkind) (hleads hdir)⟩
    · obtain ⟨all, m, hsteps, hlast, hleads⟩ := ihLink target hnext (by simp)
      -- The last step is one of those after the link, so the steps of the link come before it.
      obtain ⟨init, k, hinit⟩ := (List.eq_nil_or_concat (next :: steps)).resolve_left (by simp)
      rw [List.concat_eq_append] at hinit
      rw [hinit, ← List.append_assoc] at hsteps
      obtain ⟨rfl, hk⟩ := List.append_inj' hsteps rfl
      obtain rfl : k = m := by simpa using hk
      refine ⟨n :: init, k, by rw [hinit]; rfl, hlast, fun hdir => ?_⟩
      exact .step (.link hn (hloses.find?_eq_some _ _ hfind) hkind htarget)
        ((hleads hdir).whole_of_isDirAt hdir)

/-- Following a path is following its steps. -/
theorem followSteps_of_follow {cwd : Location} {bs : Bytes} {followed : Followed}
    (h : tree.follow root cwd bs = .ok followed) :
    tree.followSteps root linkLimit (startOf root cwd bs) (endsInSlash bs) (stepsOf bs) =
      .ok followed := by
  unfold follow at h
  split at h
  · cases h
  · split at h
    · cases h
    · exact h

/-- What a path names is what it was followed to, in the tree or in the one that it has lost files
from. -/
theorem names_of_follow (hloses : Loses allowed tree tree') {followed : Followed} {n : Bytes}
    (h : tree'.follow v.root v.cwd p.bytes = .ok followed) (hlast : followed.last = .name n)
    (hdir : tree.IsDirAt followed.directory) :
    tree.Names v p (followed.directory ++ [n]) := by
  have hfollow := followSteps_of_follow h
  obtain ⟨-, hname, -⟩ := isFollowed_of_followSteps hfollow
  have hne : stepsOf p.bytes ≠ [] := by
    intro hnil
    rw [hnil, followSteps] at hfollow
    cases hfollow
    cases hlast
  obtain ⟨init, m, hsteps, hm, hleads⟩ := leads_of_followSteps hloses hfollow hne
  rw [hlast] at hm
  obtain rfl : n = m := by simpa [lastSteps] using hm
  exact ⟨init, n, _, hsteps, hname n hlast, rfl, hdir, hleads hdir⟩

/-- A path names one place at most. -/
theorem Names.eq (h : tree.Names v p loc) (h' : tree.Names v p other) : loc = other := by
  obtain ⟨init, n, dir, hsteps, -, rfl, -, hleads⟩ := h
  obtain ⟨init', n', dir', hsteps', -, rfl, -, hleads'⟩ := h'
  obtain ⟨rfl, hn⟩ := List.append_inj' (hsteps.symm.trans hsteps') rfl
  obtain rfl := List.singleton_inj.mp hn
  rw [hleads.eq hleads']

/-- A path leads to the directory that it names. -/
theorem Names.reaches (h : tree.Names v p loc) (hdir : tree.IsDirAt loc) :
    tree.Reaches v p loc := by
  obtain ⟨init, n, dir, hsteps, hn, rfl, ⟨d, hd, hkind⟩, hleads⟩ := h
  obtain ⟨f, hf, hdirectory⟩ := hdir
  refine ⟨?_, ?_⟩
  · intro hempty
    rw [hempty] at hsteps
    exact List.append_ne_nil_of_right_ne_nil init (List.cons_ne_nil n []) hsteps.symm
  · have hlast : tree.Leads v.root dir [n] (dir ++ [n]) :=
      .step (.enter hn hf hdirectory) (.here _)
    have hsteps' : tree.Leads v.root (startOf v.root v.cwd p.bytes) (stepsOf p.bytes ++ [])
        (dir ++ [n]) := by
      rw [List.append_nil, hsteps]
      refine hleads.append (fun g hg => ?_) hlast
      obtain rfl := Option.some.inj (hd.symm.trans hg)
      exact hkind
    have hwhole := hsteps'.whole_of_isDirAt ⟨f, hf, hdirectory⟩
    rwa [List.append_nil] at hwhole

/-! ## What the calls remove -/

/-- What is found by its name in a directory that a path was followed to is what the path names. -/
theorem names_of_find? (hformed : tree.WellFormed) (hloses : Loses allowed tree tree')
    {followed : Followed} {n : Bytes} {f : File}
    (h : tree'.follow v.root v.cwd p.bytes = .ok followed) (hlast : followed.last = .name n)
    (hfind : tree'.find? (followed.directory ++ [n]) = some f) :
    tree.Names v p f.location ∧ tree.find? f.location = some f := by
  have hthere := hloses.find?_eq_some _ _ hfind
  obtain ⟨-, hparent⟩ := hformed.parent hthere
  have hlocation := location_of_find? hfind
  exact ⟨hlocation ▸ names_of_follow hloses h hlast hparent, hlocation.symm ▸ hthere⟩

/-- A file is removed that has the name at the end of a path. -/
def Removes (tree : FileTree) (v : Viewpoint) (p : Path) (f : File) (tree' : FileTree) : Prop :=
  ∃ followed n, tree.follow v.root v.cwd p.bytes = .ok followed ∧ followed.last = .name n ∧
    tree.find? (followed.directory ++ [n]) = some f ∧ tree' = tree.remove f.location

/-- What is unlinked is no directory. -/
theorem removes_of_unlink (h : tree.unlink v p = .ok tree') :
    ∃ f, f.kind ≠ .directory ∧ tree.Removes v p f tree' := by
  unfold unlink at h
  cases hfollow : tree.follow v.root v.cwd p.bytes with
  | error e => simp [hfollow, bind, Except.bind] at h
  | ok followed =>
    simp only [hfollow, bind, Except.bind] at h
    cases hlast : followed.last with
    | name n =>
      simp only [hlast] at h
      cases hfind : tree.find? (followed.directory ++ [n]) with
      | none => simp [hfind] at h
      | some f =>
        simp only [hfind] at h
        split at h
        · cases h
        · cases hrequire : tree.require followed.directory .write with
          | error e => simp [hrequire] at h
          | ok =>
            simp only [hrequire] at h
            split at h
            · cases h
            · rename_i hdir
              cases h
              exact ⟨f, by simpa [File.isDir] using hdir, followed, n, hfollow, hlast, hfind, rfl⟩
    | _ => simp [hlast] at h

/-- What is removed as an empty directory is a directory. -/
theorem removes_of_removeDir (h : tree.removeDir v p = .ok tree') :
    ∃ f, f.kind = .directory ∧ tree.Removes v p f tree' := by
  unfold removeDir at h
  cases hfollow : tree.follow v.root v.cwd p.bytes with
  | error e => simp [hfollow, bind, Except.bind] at h
  | ok followed =>
    simp only [hfollow, bind, Except.bind] at h
    cases hlast : followed.last with
    | name n =>
      simp only [hlast] at h
      cases hfind : tree.find? (followed.directory ++ [n]) with
      | none => simp [hfind] at h
      | some f =>
        simp only [hfind] at h
        cases hrequire : tree.require followed.directory .write with
        | error e => simp [hrequire] at h
        | ok =>
          simp only [hrequire] at h
          split at h
          · cases h
          · rename_i hdir
            split at h
            · cases h
            · cases h
              exact ⟨f, by simpa [File.isDir] using hdir, followed, n, hfollow, hlast, hfind, rfl⟩
    | _ => simp [hlast] at h

/-- What is removed is what the path names, in the tree or in one that had more files. -/
theorem Removes.names {f : File} (h : mid.Removes v p f tree') (hformed : tree.WellFormed)
    (hloses : Loses allowed tree mid) :
    tree.Names v p f.location ∧ tree.find? f.location = some f ∧ tree' = mid.remove f.location := by
  obtain ⟨followed, n, hfollow, hlast, hfind, htree'⟩ := h
  obtain ⟨hnames, hthere⟩ := names_of_find? hformed hloses hfollow hlast hfind
  exact ⟨hnames, hthere, htree'⟩

/-- **What a directory is cleared of** lies in it.

**Proof sketch.** By induction on how deep directories lie in it, and for each of them on what it
holds. -/
theorem clear_loses (depth : Nat) (tree : FileTree) (directory : File) :
    Loses (directory.location <+: ·) tree (clear depth tree directory).1 := by
  induction depth generalizing tree directory with
  | zero => exact .refl _ _
  | succ depth ih =>
    rw [clear]
    cases directory.require .read with
    | error e => exact .refl _ _
    | ok =>
      have hbelow : ∀ f ∈ tree.children directory.location, directory.location <+: f.location := by
        intro f hf
        obtain ⟨-, n, hn⟩ := mem_children.mp hf
        rw [hn]
        exact List.prefix_append _ _
      refine List.foldlRecOn (motive := fun (state : FileTree × _) => Loses _ tree state.1) _ _
        (.refl _ tree) ?_
      rintro ⟨mid, result⟩ hmid f hf
      have hcleared : Loses (directory.location <+: ·) mid
          (if f.isDir then clear depth mid f else (mid, .ok ())).1 := by
        split
        · exact (ih mid f).mono fun loc hloc => (hbelow f hf).trans hloc
        · exact .refl _ _
      cases result with
      | error e => exact hmid
      | ok =>
        cases directory.require .run with
        | error e => exact hmid
        | ok =>
          rcases hclear : (if f.isDir then clear depth mid f else (mid, .ok ())) with
            ⟨emptied, e | _⟩
          · rw [hclear] at hcleared
            simpa only [hclear] using hmid.trans hcleared
          · rw [hclear] at hcleared
            simp only [hclear]
            cases directory.require .write with
            | error e => exact hmid.trans hcleared
            | ok => exact (hmid.trans hcleared).trans (.remove emptied (hbelow f hf))

/-! ## Removing all there is at a path -/

/-- The path ends in a name, with no slash after it. -/
structure NameEnds (p : Path) : Prop where
  slash : endsInSlash p.bytes = false
  last : ∃ init n, stepsOf p.bytes = init ++ [n] ∧ IsName n

/-- What has the name at the end of the path, and what is in it if it is a directory. -/
def OfEntry (tree : FileTree) (v : Viewpoint) (p : Path) (other : Location) : Prop :=
  ∃ loc, tree.Names v p loc ∧ (other = loc ∨ tree.IsDirAt loc ∧ loc <+: other)

/-- A path that ends in a name is followed to that name. -/
theorem NameEnds.followed (h : NameEnds p) {cwd : Location} {followed : Followed}
    (hfollow : tree.follow root cwd p.bytes = .ok followed) :
    ∃ n, followed = ⟨followed.directory, .name n, false⟩ := by
  obtain ⟨hslash, init, n, hsteps, hn⟩ := h
  have hfollow := followSteps_of_follow hfollow
  obtain ⟨hslash', -, -⟩ := isFollowed_of_followSteps hfollow
  obtain ⟨init', m, hsteps', hm, -⟩ :=
    leads_of_followSteps (.refl (fun _ => True) tree) hfollow (by simp [hsteps])
  obtain ⟨-, hnm⟩ := List.append_inj' (hsteps.symm.trans hsteps') rfl
  obtain rfl := List.singleton_inj.mp hnm
  obtain ⟨directory, last, slash⟩ := followed
  refine ⟨n, ?_⟩
  simp only at hslash' hm ⊢
  rw [hslash', hslash]
  cases last with
  | name k => rw [List.singleton_inj.mp hm]
  | current => exact absurd (List.singleton_inj.mp hm).symm hn.1
  | parent => exact absurd (List.singleton_inj.mp hm).symm hn.2
  | root => cases hm

/-- A name that no slash follows is not followed itself. -/
theorem find?_of_lastStep {links : Nat} {n : Bytes} {f : File}
    (h : tree.lastStep root false links ⟨dir, .name n, false⟩ = .ok (.file f)) :
    tree.find? (dir ++ [n]) = some f := by
  unfold lastStep at h
  simp only at h
  cases hfind : tree.find? (dir ++ [n]) with
  | none =>
    simp only [hfind] at h
    split at h <;> cases h
  | some found =>
    simp only [hfind] at h
    cases hkind : found.kind <;> simp [hkind] at h <;> rw [h]

/-- What is found at a path without following a link at its end is what the path names. -/
theorem names_of_linkStatAt (hformed : tree.WellFormed) (hloses : Loses allowed tree mid)
    (hends : NameEnds p) {f : File} (h : mid.linkStatAt v p = .ok f) :
    tree.Names v p f.location ∧ tree.find? f.location = some f := by
  unfold linkStatAt lookup resolve at h
  cases hfollow : mid.follow v.root v.cwd p.bytes with
  | error e => simp [hfollow, bind, Except.bind] at h
  | ok followed =>
    obtain ⟨n, hfollowed⟩ := hends.followed hfollow
    have hlast : followed.last = .name n := by rw [hfollowed]
    simp only [hfollow, bind, Except.bind] at h
    cases hresolved : mid.lastStep v.root false linkLimit followed with
    | error e => simp [hresolved] at h
    | ok resolved =>
      simp only [hresolved] at h
      cases resolved with
      | free location slash => cases h
      | file found =>
        cases h
        rw [hfollowed] at hresolved
        exact names_of_find? hformed hloses hfollow hlast (find?_of_lastStep hresolved)

/-- **What is removed with all that is in it** is what has the name at the end of the path, a link
as itself. -/
theorem removeTree_loses (hformed : tree.WellFormed) (hloses : Loses allowed tree mid)
    (hends : NameEnds p) : Loses (tree.OfEntry v p) mid (mid.removeTree v p).1 := by
  unfold removeTree
  cases hstat : mid.linkStatAt v p with
  | error e => exact .refl _ _
  | ok f =>
    obtain ⟨hnames, hfind⟩ := names_of_linkStatAt hformed hloses hends hstat
    cases hkind : f.kind with
    | link target =>
      simp only [hkind]
      cases hunlink : mid.unlink v p with
      | error e => exact .refl _ _
      | ok tree' =>
        obtain ⟨g, -, hremoves⟩ := removes_of_unlink hunlink
        obtain ⟨hg, -, rfl⟩ := hremoves.names hformed hloses
        exact .remove mid ⟨_, hg, .inl rfl⟩
    | directory =>
      have hdir : tree.IsDirAt f.location := ⟨f, hfind, hkind⟩
      have hcleared : Loses (tree.OfEntry v p) mid (clear mid.depthBound mid f).1 :=
        (clear_loses mid.depthBound mid f).mono fun other hother =>
          ⟨_, hnames, .inr ⟨hdir, hother⟩⟩
      simp only [hkind]
      rcases hclear : clear mid.depthBound mid f with ⟨emptied, e | _⟩
      · rwa [hclear] at hcleared
      · rw [hclear] at hcleared
        simp only
        cases hremove : emptied.removeDir v p with
        | error e => exact hcleared
        | ok tree' =>
          have hemptied : Loses (fun _ => True) tree emptied :=
            (hloses.mono fun _ _ => trivial).trans (hcleared.mono fun _ _ => trivial)
          obtain ⟨g, -, hremoves⟩ := removes_of_removeDir hremove
          obtain ⟨hg, -, rfl⟩ := hremoves.names hformed hemptied
          exact hcleared.trans (.remove emptied ⟨_, hg, .inl rfl⟩)
    | _ =>
      simp only [hkind]
      exact .refl _ _

end Container.FileTree
