import Mathlib.Data.List.Induction
import Container.Proofs.Host.Leads

set_option autoImplicit false

/-!
# The way to a place

All but the last step of a path are the way to the place that it names. The way may be missing, and
it may go through the very place it leads to. This module says what a path names whether or not
anything is there, and what becomes of it when the tree changes elsewhere.

## Main definitions

* `FileTree.Names` — the place that a path names.
* `FileTree.Absent` — a path at which nothing is.
* `FileTree.cut` — a tree without what is at a place and below it.
* `FileTree.Bare` — a place at which and below which there are only directories.
* `Path.down` — a path with names joined to it, one after the other.

## Main results

* `FileTree.Names.mono` — a path names the same place in a larger tree.
* `FileTree.WellFormed.isDirAt` — above each file there are directories.
* `FileTree.bare_iff` — a place is bare if everything in it is.
-/

namespace Container

/-- A path with names joined to it, one after the other. -/
def Path.down (p : Path) (names : List Bytes) : Path := names.foldl (fun q n => q.join ⟨n⟩) p

@[simp] theorem Path.down_nil (p : Path) : p.down [] = p := rfl

theorem Path.down_concat (p : Path) (names : List Bytes) (n : Bytes) :
    p.down (names ++ [n]) = (p.down names).join ⟨n⟩ := by simp [down]

namespace FileTree

open Container.Path

/-- There is a directory at a location. -/
def IsDirAt (tree : FileTree) (loc : Location) : Prop :=
  ∃ f, tree.find? loc = some f ∧ f.kind = .directory

/-- The place that a path names: all its steps but the last lead to a directory, and the last is a
name there. -/
def Names (tree : FileTree) (v : Viewpoint) (p : Path) (loc : Location) : Prop :=
  ∃ init n dir, stepsOf p.bytes = init ++ [n] ∧ IsName n ∧ loc = dir ++ [n] ∧ tree.IsDirAt dir ∧
    tree.Leads v.root (startOf v.root v.cwd p.bytes) init dir

/-- Steps come to a name that is not there. -/
inductive Misses (tree : FileTree) (root : Location) : Location → List Bytes → Prop where
  | here {dir : Location} {n : Bytes} {steps : List Bytes} (hn : IsName n)
      (hfind : tree.find? (dir ++ [n]) = none) : Misses tree root dir (n :: steps)
  | later {dir next : Location} {n : Bytes} {more steps : List Bytes}
      (first : tree.Step root dir n next more) (rest : Misses tree root next (more ++ steps)) :
      Misses tree root dir (n :: steps)

/-- Nothing is at a path that ends in a name: it is not there, or a name on the way is not. -/
def Absent (tree : FileTree) (v : Viewpoint) (p : Path) : Prop :=
  (∃ loc, tree.Names v p loc ∧ tree.find? loc = none) ∨
    ∃ init n, stepsOf p.bytes = init ++ [n] ∧ IsName n ∧
      tree.Misses v.root (startOf v.root v.cwd p.bytes) init

/-- A tree without what is at a location and below it. -/
def cut (tree : FileTree) (loc : Location) : FileTree :=
  { tree with files := tree.files.filter fun f => !isBelow loc f.location }

/-- At a location and below it there are only directories, and there is at least one. -/
def Bare (tree : FileTree) (loc : Location) : Prop :=
  (tree.find? loc).isSome ∧ ∀ other f, loc <+: other → tree.find? other = some f →
    f.kind = .directory

variable {tree tree' : FileTree} {v : Viewpoint} {p : Path} {root dir loc other : Location}
  {steps : List Bytes}

/-! ## What is left of a tree -/

/-- What is found among the files at some of the locations. -/
theorem find?_filter (files : List File) (keep : Location → Bool) (loc : Location) :
    (files.filter fun f => keep f.location).find? (·.location = loc) =
      if keep loc then files.find? (·.location = loc) else none := by
  rw [List.find?_filter]
  split
  · rename_i hkeep
    congr 1
    funext f
    by_cases hf : f.location = loc
    · simp [hf, hkeep]
    · simp [hf]
  · rename_i hkeep
    rw [List.find?_eq_none]
    intro f _
    by_cases hf : f.location = loc
    · simp [hf, hkeep]
    · simp [hf]

/-- What is found where a file was removed. -/
theorem find?_remove (tree : FileTree) (loc other : Location) :
    (tree.remove loc).find? other = if other = loc then none else tree.find? other := by
  refine (find?_filter tree.files (fun place => decide (place ≠ loc)) other).trans ?_
  by_cases hother : other = loc
  · simp [hother]
  · simp [hother, find?]

/-- What is found in a tree that was cut. -/
theorem find?_cut (tree : FileTree) (loc other : Location) :
    (tree.cut loc).find? other = if loc <+: other then none else tree.find? other := by
  refine (find?_filter tree.files (fun place => !isBelow loc place) other).trans ?_
  by_cases hother : loc <+: other
  · have hbelow : isBelow loc other = true := List.isPrefixOf_iff_prefix.mpr hother
    simp [hother, hbelow]
  · have hbelow : isBelow loc other = false :=
      Bool.eq_false_iff.mpr (mt List.isPrefixOf_iff_prefix.mp hother)
    simp [hother, hbelow, find?]

/-! ## Larger trees -/

/-- Steps lead to the same place in a larger tree. -/
theorem Leads.mono (h : tree.Leads root dir steps loc)
    (hmore : ∀ other f, tree.find? other = some f → tree'.find? other = some f) :
    tree'.Leads root dir steps loc := by
  induction h with
  | here dir => exact .here dir
  | step first _ ih =>
    cases first with
    | current => exact .step .current ih
    | parent => exact .step .parent ih
    | enter hn hfind hkind => exact .step (.enter hn (hmore _ _ hfind) hkind) ih
    | link hn hfind hkind htarget => exact .step (.link hn (hmore _ _ hfind) hkind htarget) ih
  | file hn hfind hdir hlink => exact .file hn (hmore _ _ hfind) hdir hlink

/-- **A path names the same place in a larger tree.** -/
theorem Names.mono (h : tree.Names v p loc)
    (hmore : ∀ other f, tree.find? other = some f → tree'.find? other = some f) :
    tree'.Names v p loc := by
  obtain ⟨init, n, dir, hsteps, hn, rfl, ⟨f, hf, hkind⟩, hleads⟩ := h
  exact ⟨init, n, dir, hsteps, hn, rfl, ⟨f, hmore _ _ hf, hkind⟩, hleads.mono hmore⟩

/-- A path the way to which does not go through the place it names is not affected by what becomes
of that place. -/
theorem Names.cut_congr (h : (tree.cut loc).Names v p loc)
    (hsame : ∀ other, ¬ loc <+: other → tree'.find? other = tree.find? other) :
    (tree'.cut loc).Names v p loc := by
  refine h.mono fun other f hf => ?_
  rw [find?_cut] at hf ⊢
  split at hf
  · cases hf
  · rename_i hother
    rw [if_neg hother, hsame other hother, hf]

/-- What is named in a tree that was cut is named in the whole tree. -/
theorem Names.of_cut (h : (tree.cut other).Names v p loc) : tree.Names v p loc := by
  refine h.mono fun place f hf => ?_
  rw [find?_cut] at hf
  split at hf
  · cases hf
  · exact hf

/-! ## Directories -/

/-- Above each file there are directories. -/
theorem WellFormed.isDirAt (h : tree.WellFormed) {more : List Bytes} {f : File} (hne : more ≠ [])
    (hfind : tree.find? (loc ++ more) = some f) : tree.IsDirAt loc := by
  induction more using List.reverseRecOn generalizing f with
  | nil => exact absurd rfl hne
  | append_singleton more n ih =>
    rw [← List.append_assoc] at hfind
    obtain ⟨-, parent, hparent, hkind⟩ := h.parent hfind
    cases more with
    | nil =>
      rw [List.append_nil] at hparent
      exact ⟨parent, hparent, hkind⟩
    | cons => exact ih (by simp) hparent

/-- Files still lie in directories when something goes that holds nothing. -/
theorem WellFormed.remove (h : tree.WellFormed)
    (hempty : ∀ n, tree.find? (loc ++ [n]) = none) : (tree.remove loc).WellFormed := by
  intro f hf hne
  obtain ⟨hmem, hother⟩ := List.mem_filter.mp hf
  obtain ⟨hname, hparent⟩ := h f hmem hne
  refine ⟨hname, ?_⟩
  have hplace : f.location.dropLast ≠ loc := by
    intro hloc
    have hsome : (tree.find? f.location).isSome := List.find?_isSome.mpr ⟨f, hmem, by simp⟩
    rw [← List.dropLast_concat_getLast hne, hloc, hempty] at hsome
    cases hsome
  rwa [find?_remove, if_neg hplace]

/-- Whether a place is bare is decided by what is there and below. -/
theorem bare_congr (h : ∀ other, loc <+: other → tree'.find? other = tree.find? other) :
    tree'.Bare loc ↔ tree.Bare loc := by
  unfold Bare
  rw [h loc List.prefix_rfl]
  refine and_congr_right fun _ => forall_congr' fun other => forall_congr' fun f => ?_
  refine imp_congr_right fun hother => ?_
  rw [h other hother]

/-- A place is bare if all files at it and below it are directories. -/
theorem bare_of_forall (hsome : (tree.find? loc).isSome)
    (h : ∀ f ∈ tree.files, loc <+: f.location → f.kind = .directory) : tree.Bare loc := by
  refine ⟨hsome, fun other f hother hf => h f (List.mem_of_find?_eq_some hf) ?_⟩
  rwa [location_of_find? hf]

/-- **A directory is bare if everything in it is.** -/
theorem bare_iff (hformed : tree.WellFormed) (hdir : tree.IsDirAt loc) :
    tree.Bare loc ↔ ∀ n f, tree.find? (loc ++ [n]) = some f → tree.Bare (loc ++ [n]) := by
  obtain ⟨d, hd, hkind⟩ := hdir
  constructor
  · intro h n f hf
    refine ⟨by simp [hf], fun other g hother => h.2 other g ?_⟩
    exact (List.prefix_append loc [n]).trans hother
  · intro h
    refine ⟨by simp [hd], ?_⟩
    rintro other f ⟨more, rfl⟩ hf
    cases more with
    | nil =>
      rw [List.append_nil, hd] at hf
      cases hf
      exact hkind
    | cons n more =>
      have hassoc : loc ++ n :: more = loc ++ [n] ++ more := by simp
      obtain ⟨child, hchild⟩ : ∃ child, tree.find? (loc ++ [n]) = some child := by
        cases more with
        | nil => exact ⟨f, hf⟩
        | cons m more =>
          rw [hassoc] at hf
          obtain ⟨child, hchild, -⟩ := hformed.isDirAt (by simp) hf
          exact ⟨child, hchild⟩
      exact (h n child hchild).2 _ f (by rw [hassoc]; exact List.prefix_append _ _) hf

end FileTree
end Container
