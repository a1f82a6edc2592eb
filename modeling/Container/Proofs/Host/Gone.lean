import Container.Proofs.Host.Losing

set_option autoImplicit false

/-!
# Paths at which nothing is found

A call that removes what is at a path leaves a tree in which nothing is found at that path, whatever
else the way to it goes through; and where such a call says that nothing is there, nothing is found
there.

## Main definitions

* `FileTree.Lacks` — the way to what a path names is missing, or the name at its end is free.
* `FileTree.Vacant` — nothing is found at a path.

## Main results

* `FileTree.Loses.follow_eq` — a way is the same in a tree that has lost files, or is missing.
* `FileTree.Removes.lacks`, `FileTree.lacks_of_removeTree` — what was removed is lacking.
* `FileTree.Lacks.vacant`, `FileTree.Lacks.removeDir` — what is lacking is not found.
-/

namespace Container.FileTree

open Container.Path

variable {allowed : Location → Prop} {tree tree' : FileTree} {v : Viewpoint} {p : Path}
  {root cwd dir loc : Location} {steps : List Bytes}

/-! ## Ways -/

/-- Steps are followed to the same place in a tree that has lost files, or a name is missing.

**Proof sketch.** By induction on how the steps are followed: what is found on the way is the same,
or is gone. -/
theorem Loses.followSteps_eq (hloses : Loses allowed tree tree') {links : Nat} {slash : Bool}
    {followed : Followed} (h : tree.followSteps root links dir slash steps = .ok followed) :
    tree'.followSteps root links dir slash steps = .ok followed ∨
      tree'.followSteps root links dir slash steps = .error .notFound := by
  induction links, dir, steps using followSteps.induct root with
  | case1 links dir =>
    rw [followSteps] at h ⊢
    exact .inl h
  | case2 links dir n =>
    have hrequire := require_of_followSteps h
    rw [followSteps, hrequire] at h
    rw [followSteps, hloses.require hrequire]
    exact .inl h
  | case3 links dir n next steps ihCurrent ihParent ihEnter ihLink =>
    have hrequire := require_of_followSteps h
    have hrequire' := hloses.require hrequire
    rw [followSteps, hrequire] at h
    rw [followSteps, hrequire']
    simp only [bind, Except.bind] at h ⊢
    split_ifs at h ⊢ with hcurrent hparent hlong
    · exact ihCurrent h
    · exact ihParent h
    · rcases hloses.kept (dir ++ [n]) with hsame | ⟨hgone, -⟩
      · rw [hsame]
        cases hfind : tree.find? (dir ++ [n]) with
        | none => exact .inr rfl
        | some f =>
          simp only [hfind] at h ⊢
          cases hkind : f.kind with
          | directory =>
            simp only [hkind] at h ⊢
            exact ihEnter f h
          | link target =>
            simp only [hkind] at h ⊢
            cases links with
            | zero => cases h
            | succ links =>
              simp only at h ⊢
              split_ifs at h ⊢
              exact ihLink target h
          | _ => simp [hkind] at h
      · rw [hgone]
        exact .inr rfl

/-- **A way is the same** in a tree that has lost files, or is missing. -/
theorem Loses.follow_eq (hloses : Loses allowed tree tree') {bs : Bytes} {followed : Followed}
    (h : tree.follow root cwd bs = .ok followed) :
    tree'.follow root cwd bs = .ok followed ∨ tree'.follow root cwd bs = .error .notFound := by
  have hsteps := hloses.followSteps_eq (followSteps_of_follow h)
  unfold follow at h ⊢
  split_ifs at h ⊢
  exact hsteps

/-! ## Errors -/

/-- A way to use a file is refused for one reason only. -/
theorem error_of_permits {f : File} {access : Access} {e : Errno}
    (h : f.require access = .error e) : e = .accessDenied := by
  unfold File.require at h
  split at h <;> cases h
  rfl

/-- So is a way to use what is at a location. -/
theorem error_of_require {access : Access} {e : Errno}
    (h : tree.require loc access = .error e) : e = .accessDenied := by
  unfold FileTree.require at h
  split at h
  · exact error_of_permits h
  · cases h

/-! ## Paths at which nothing is found -/

/-- The way to what a path names is missing, or the name at its end is free. -/
def Lacks (tree : FileTree) (v : Viewpoint) (p : Path) : Prop :=
  tree.follow v.root v.cwd p.bytes = .error .notFound ∨
    ∃ followed n, tree.follow v.root v.cwd p.bytes = .ok followed ∧ followed.last = .name n ∧
      tree.find? (followed.directory ++ [n]) = none

/-- Nothing is found there, whether or not a link at the end is followed. -/
theorem Lacks.lookup (h : tree.Lacks v p) (through : Bool) :
    tree.lookup v.root v.cwd through p.bytes = .error .notFound := by
  rcases h with hfollow | ⟨⟨directory, last, slash⟩, n, hfollow, rfl, hfind⟩
  · simp only [FileTree.lookup, resolve, hfollow, bind, Except.bind]
  · simp only [FileTree.lookup, resolve, hfollow, bind, Except.bind]
    unfold lastStep
    simp only [hfind]
    by_cases hdir : (tree.find? directory).isSome
    · simp only [if_pos hdir]
      rfl
    · simp only [if_neg hdir]

/-- Nothing is found at a path, whether or not a link at its end is followed. -/
def Vacant (tree : FileTree) (v : Viewpoint) (p : Path) : Prop :=
  tree.statAt v p = .error .notFound ∧ tree.linkStatAt v p = .error .notFound

/-- What is lacking is not found. -/
theorem Lacks.vacant (h : tree.Lacks v p) : tree.Vacant v p := ⟨h.lookup true, h.lookup false⟩

/-- Nothing can be removed there. -/
theorem Lacks.removeDir (h : tree.Lacks v p) : tree.removeDir v p = .error .notFound := by
  unfold FileTree.removeDir
  rcases h with hfollow | ⟨followed, n, hfollow, hlast, hfind⟩
  · simp only [hfollow, bind, Except.bind]
  · simp only [hfollow, hlast, hfind, bind, Except.bind]
    rfl

/-- **Once it is removed, it is lacking.** -/
theorem Removes.lacks {f : File} (h : tree.Removes v p f tree') : tree'.Lacks v p := by
  obtain ⟨followed, n, hfollow, hlast, hfind, rfl⟩ := h
  have hloses : Loses (fun _ => True) tree (tree.remove f.location) := .remove tree trivial
  rcases hloses.follow_eq hfollow with hsame | hmissing
  · refine .inr ⟨followed, n, hsame, hlast, ?_⟩
    rw [find?_remove, if_pos (location_of_find? hfind).symm]
  · exact .inl hmissing

/-- Where there is nothing to unlink, something is lacking. -/
theorem lacks_of_unlink (h : tree.unlink v p = .error .notFound) : tree.Lacks v p := by
  unfold unlink at h
  cases hfollow : tree.follow v.root v.cwd p.bytes with
  | error e =>
    simp only [hfollow, bind, Except.bind] at h
    cases h
    exact .inl hfollow
  | ok followed =>
    simp only [hfollow, bind, Except.bind] at h
    cases hlast : followed.last with
    | name n =>
      simp only [hlast] at h
      cases hfind : tree.find? (followed.directory ++ [n]) with
      | none => exact .inr ⟨followed, n, hfollow, hlast, hfind⟩
      | some f =>
        simp only [hfind] at h
        by_cases hslash : followed.slash
        · simp only [if_pos hslash] at h
          cases hdir : f.isDir <;> (rw [hdir] at h; cases h)
        · simp only [if_neg hslash] at h
          cases hrequire : tree.require followed.directory .write with
          | error e =>
            obtain rfl := error_of_require hrequire
            simp only [hrequire] at h
            cases h
          | ok =>
            simp only [hrequire] at h
            split at h <;> cases h
    | _ =>
      simp only [hlast] at h
      cases h

/-- Where there is no directory to remove, something is lacking. -/
theorem lacks_of_removeDir (h : tree.removeDir v p = .error .notFound) : tree.Lacks v p := by
  unfold FileTree.removeDir at h
  cases hfollow : tree.follow v.root v.cwd p.bytes with
  | error e =>
    simp only [hfollow, bind, Except.bind] at h
    cases h
    exact .inl hfollow
  | ok followed =>
    simp only [hfollow, bind, Except.bind] at h
    cases hlast : followed.last with
    | name n =>
      simp only [hlast] at h
      cases hfind : tree.find? (followed.directory ++ [n]) with
      | none => exact .inr ⟨followed, n, hfollow, hlast, hfind⟩
      | some f =>
        simp only [hfind] at h
        cases hrequire : tree.require followed.directory .write with
        | error e =>
          obtain rfl := error_of_require hrequire
          simp only [hrequire] at h
          cases h
        | ok =>
          simp only [hrequire] at h
          split at h
          · cases h
          · split at h <;> cases h
    | _ =>
      simp only [hlast] at h
      cases h

/-- Where nothing is found without following a link at the end, something is lacking. -/
theorem lacks_of_linkStatAt (hends : NameEnds p) (h : tree.linkStatAt v p = .error .notFound) :
    tree.Lacks v p := by
  unfold linkStatAt FileTree.lookup resolve at h
  cases hfollow : tree.follow v.root v.cwd p.bytes with
  | error e =>
    simp only [hfollow, bind, Except.bind] at h
    cases h
    exact .inl hfollow
  | ok followed =>
    obtain ⟨n, hfollowed⟩ := hends.followed hfollow
    refine .inr ⟨followed, n, hfollow, by rw [hfollowed], ?_⟩
    simp only [hfollow, bind, Except.bind] at h
    rw [hfollowed] at h
    unfold lastStep at h
    cases hfind : tree.find? (followed.directory ++ [n]) with
    | none => rfl
    | some f =>
      exfalso
      simp only [hfind] at h
      cases hkind : f.kind <;>
      · simp [hkind] at h
        cases h

/-- In a tree without files, what a path to a name does not lead to is lacking. -/
theorem lacks_of_files_eq_nil (hnil : tree.files = []) (hends : NameEnds p)
    (h : tree.statAt v p = .error .notFound) : tree.Lacks v p := by
  cases hfollow : tree.follow v.root v.cwd p.bytes with
  | error e =>
    simp only [statAt, FileTree.lookup, resolve, hfollow, bind, Except.bind] at h
    cases h
    exact .inl hfollow
  | ok followed =>
    obtain ⟨n, hfollowed⟩ := hends.followed hfollow
    refine .inr ⟨followed, n, hfollow, by rw [hfollowed], ?_⟩
    simp [find?, hnil]

/-! ## Removing a tree, listing a directory -/

/-- A directory is not cleared in vain because something is not found. -/
theorem clear_ne_notFound (depth : Nat) (tree : FileTree) (directory : File) :
    (clear depth tree directory).2 ≠ .error .notFound := by
  induction depth generalizing tree directory with
  | zero => exact fun h => by cases h
  | succ depth ih =>
    rw [clear]
    cases hread : directory.require .read with
    | error e =>
      obtain rfl := error_of_permits hread
      exact fun h => by cases h
    | ok =>
      refine List.foldlRecOn (motive := fun (state : FileTree × Except Errno Unit) =>
        state.2 ≠ .error .notFound) _ _ (by simp) ?_
      rintro ⟨mid, result⟩ hmid f hf
      have hcleared : (if f.isDir then clear depth mid f else (mid, .ok ())).2 ≠
          .error .notFound := by
        split
        · exact ih mid f
        · simp
      cases result with
      | error e => exact hmid
      | ok =>
        cases hrun : directory.require .run with
        | error e =>
          obtain rfl := error_of_permits hrun
          exact fun h => by cases h
        | ok =>
          rcases hclear : (if f.isDir then clear depth mid f else (mid, .ok ())) with
            ⟨emptied, e | _⟩
          · rw [hclear] at hcleared
            simpa only [hclear] using hcleared
          · simp only [hclear]
            cases hwrite : directory.require .write with
            | error e =>
              obtain rfl := error_of_permits hwrite
              exact fun h => by cases h
            | ok => exact fun h => by cases h

/-- **What was removed with all that is in it is lacking**, and so is what is not found where it
should be removed. -/
theorem lacks_of_removeTree (hends : NameEnds p)
    (h : (tree.removeTree v p).2 = .ok () ∨ (tree.removeTree v p).2 = .error .notFound) :
    (tree.removeTree v p).1.Lacks v p := by
  unfold removeTree at h ⊢
  cases hstat : tree.linkStatAt v p with
  | error e =>
    rw [hstat] at h
    rcases h with h | h
    · cases h
    · cases h
      exact lacks_of_linkStatAt hends hstat
  | ok f =>
    cases hkind : f.kind with
    | link target =>
      simp only [hstat, hkind] at h ⊢
      cases hunlink : tree.unlink v p with
      | ok tree' =>
        obtain ⟨g, -, hremoves⟩ := removes_of_unlink hunlink
        exact hremoves.lacks
      | error e =>
        rw [hunlink] at h
        rcases h with h | h
        · cases h
        · cases h
          exact lacks_of_unlink hunlink
    | directory =>
      have hclear := clear_ne_notFound tree.depthBound tree f
      simp only [hstat, hkind] at h ⊢
      rcases hcleared : clear tree.depthBound tree f with ⟨emptied, e | _⟩
      · rw [hcleared] at h hclear
        rcases h with h | h
        · cases h
        · exact absurd h hclear
      · simp only [hcleared] at h ⊢
        cases hremove : emptied.removeDir v p with
        | ok tree' =>
          obtain ⟨g, -, hremoves⟩ := removes_of_removeDir hremove
          exact hremoves.lacks
        | error e =>
          rw [hremove] at h
          rcases h with h | h
          · cases h
          · cases h
            exact lacks_of_removeDir hremove
    | _ =>
      simp only [hstat, hkind] at h
      rcases h with h | h <;> cases h

/-- What is listed is what is in the directory that the path leads to. -/
theorem exists_of_list {files : List File} (h : tree.list v p = .ok files) :
    ∃ f, tree.statAt v p = .ok f ∧ f.kind = .directory ∧ files = tree.children f.location := by
  unfold list at h
  cases hstat : tree.statAt v p with
  | error e => simp [hstat, bind, Except.bind] at h
  | ok f =>
    simp only [hstat, bind, Except.bind] at h
    split at h
    · cases h
    · rename_i hdir
      cases hread : f.require .read with
      | error e => simp [hread] at h
      | ok =>
        simp only [hread] at h
        cases h
        exact ⟨f, rfl, by simpa [File.isDir] using hdir, rfl⟩

/-- A directory is not found where it should be listed if the path leads nowhere. -/
theorem list_eq_notFound :
    tree.list v p = .error .notFound ↔ tree.statAt v p = .error .notFound := by
  unfold list
  cases hstat : tree.statAt v p with
  | error e => simp [bind, Except.bind]
  | ok f =>
    refine ⟨fun h => ?_, fun h => by cases h⟩
    simp only [bind, Except.bind] at h
    split at h
    · cases h
    · cases hread : f.require .read with
      | error e =>
        obtain rfl := error_of_permits hread
        simp only [hread] at h
        cases h
      | ok =>
        simp only [hread] at h
        cases h

end Container.FileTree
