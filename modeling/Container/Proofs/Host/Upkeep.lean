import Mathlib.Data.List.Nodup
import Container.Proofs.Host.Plain

set_option autoImplicit false

/-!
# Changes to a sound tree

In a sound tree the files lie in directories, each has a number of its own, and no use of a
directory or of a regular file is refused. A tree stays sound while files are made, written and
removed, and everything else stays where and as it is.

## Main definitions

* `FileTree.Sound` — such a tree.
* `FileTree.Made` — what making directories along a way comes to.

## Main results

* `FileTree.Sound.add`, `FileTree.Sound.rewrite`, `FileTree.Sound.remove` — one change.
* `FileTree.append_update`, `FileTree.Sound.append_add` — a file is opened and written to.
* `FileTree.makeDirs_plain` — directories are made along a plain path.
-/

namespace Container

open Path

namespace FileTree

/-- A tree whose files lie in directories and have numbers of their own, and in which no use of a
directory or of a regular file is refused. -/
structure Sound (tree : FileTree) : Prop where
  formed : tree.WellFormed
  numbered : (tree.files.map (·.inode)).Nodup
  fresh : ∀ f ∈ tree.files, f.inode < tree.nextInode
  directories : ∀ f ∈ tree.files, f.kind = .directory → ∀ access, f.permits access = true
  regular : ∀ f ∈ tree.files, ∀ content, f.kind = .regular content →
    f.permits .read = true ∧ f.permits .write = true

/-- The same file with another content. -/
def withContent (content : Bytes) (f : File) : File := { f with kind := .regular content }

variable {tree tree' mid : FileTree} {v : Viewpoint} {dir loc : Location} {names init : List Bytes}
  {n : Bytes} {f : File} {old content : Bytes}

/-! ## What is found after a change -/

/-- What is found in a tree to which a file was added. -/
theorem find?_add (hfree : tree.find? loc = none) (mode : Nat) (kind : FileKind)
    (other : Location) : (tree.add loc mode kind).find? other =
      if other = loc then some ⟨loc, tree.nextInode, mode, kind⟩ else tree.find? other := by
  have hsplit : (tree.add loc mode kind).find? other = (tree.find? other).or
      ([⟨loc, tree.nextInode, mode, kind⟩].find? fun f : File => f.location = other) :=
    List.find?_append
  rw [hsplit]
  by_cases hother : other = loc
  · subst hother
    simp [hfree]
  · simp [hother, Ne.symm hother]

/-- What is found in a tree in which a file was changed where it is. -/
theorem find?_update {change : File → File} (hplace : ∀ f, (change f).location = f.location)
    (inode : Nat) (other : Location) : (tree.update inode change).find? other =
      (tree.find? other).map fun f => if f.inode = inode then change f else f := by
  have hsame : ∀ f : File, (if f.inode = inode then change f else f).location = f.location := by
    intro f
    split
    · exact hplace f
    · rfl
  unfold FileTree.update FileTree.find?
  simp only [List.find?_map, Function.comp_def, hsame]

/-- Two files of a sound tree do not share a number. -/
theorem Sound.eq_of_inode (h : tree.Sound) {f g : File} (hf : f ∈ tree.files) (hg : g ∈ tree.files)
    (hinode : f.inode = g.inode) : f = g :=
  List.inj_on_of_nodup_map h.numbered hf hg hinode

/-- What is found in a sound tree in which a file was written anew. -/
theorem Sound.find?_rewrite (h : tree.Sound) (hfind : tree.find? loc = some f) (content : Bytes)
    (other : Location) : (tree.update f.inode (withContent content)).find? other =
      if other = loc then some (withContent content f) else tree.find? other := by
  have hplace : ∀ g, (withContent content g).location = g.location := fun _ => rfl
  rw [find?_update hplace]
  by_cases hother : other = loc
  · subst hother
    simp [hfind]
  · rw [if_neg hother]
    cases hg : tree.find? other with
    | none => rfl
    | some g =>
      have hne : g.inode ≠ f.inode := by
        intro hinode
        obtain rfl := h.eq_of_inode (List.mem_of_find?_eq_some hg) (List.mem_of_find?_eq_some hfind)
          hinode
        exact hother ((location_of_find? hg).symm.trans (location_of_find? hfind))
      simp [hne]

/-! ## One change -/

namespace Sound

/-- Directories in a sound tree are open. -/
theorem open_of_isDirAt (h : tree.Sound) (hdir : tree.IsDirAt loc) : tree.Open loc := by
  obtain ⟨d, hd, hkind⟩ := hdir
  exact ⟨d, hd, hkind, h.directories d (List.mem_of_find?_eq_some hd) hkind⟩

/-- A file is added in a directory. -/
theorem add (h : tree.Sound) (mode : Nat) (kind : FileKind) (hn : IsEntry n)
    (hdir : tree.IsDirAt dir) (hfree : tree.find? (dir ++ [n]) = none)
    (hdirectory : kind = .directory → ∀ access : Access, mode / access.bit % 2 = 1)
    (hregular : ∀ content, kind = .regular content →
      mode / Access.read.bit % 2 = 1 ∧ mode / Access.write.bit % 2 = 1) :
    (tree.add (dir ++ [n]) mode kind).Sound := by
  have hmem : ∀ f, f ∈ (tree.add (dir ++ [n]) mode kind).files ↔
      f ∈ tree.files ∨ f = ⟨dir ++ [n], tree.nextInode, mode, kind⟩ := by
    intro f
    simp [FileTree.add]
  constructor
  · intro f hf hne
    rcases (hmem f).mp hf with hf | rfl
    · obtain ⟨hname, hparent⟩ := h.formed f hf hne
      refine ⟨hname, ?_⟩
      rw [find?_add hfree]
      split
      · rename_i hloc
        rw [hloc, hfree] at hparent
        cases hparent
      · exact hparent
    · obtain ⟨d, hd, hkind⟩ := hdir
      refine ⟨by simpa [File.name] using hn, ?_⟩
      have hplace : dir ≠ dir ++ [n] := by simp
      simp [find?_add hfree, hplace, hd, File.isDir, hkind]
  · have hfresh : tree.nextInode ∉ tree.files.map (·.inode) := by
      intro hin
      obtain ⟨f, hf, hinode⟩ := List.mem_map.mp hin
      exact absurd (h.fresh f hf) (by omega)
    have hlist : (tree.add (dir ++ [n]) mode kind).files.map (·.inode) =
        tree.files.map (·.inode) ++ [tree.nextInode] := by simp [FileTree.add]
    rw [hlist]
    exact h.numbered.append (List.nodup_singleton _) (by simpa using hfresh)
  · intro f hf
    rcases (hmem f).mp hf with hf | rfl
    · exact Nat.lt_succ_of_lt (h.fresh f hf)
    · exact Nat.lt_succ_self _
  · intro f hf hkind
    rcases (hmem f).mp hf with hf | rfl
    · exact h.directories f hf hkind
    · intro access
      simpa [File.permits] using hdirectory hkind access
  · intro f hf content hkind
    rcases (hmem f).mp hf with hf | rfl
    · exact h.regular f hf content hkind
    · simpa [File.permits] using hregular content hkind

/-- A regular file is written anew. -/
theorem rewrite (h : tree.Sound) (hfind : tree.find? loc = some f) (hkind : f.kind = .regular old)
    (content : Bytes) : (tree.update f.inode (withContent content)).Sound := by
  have hf := List.mem_of_find?_eq_some hfind
  have hmem : ∀ g ∈ (tree.update f.inode (withContent content)).files,
      g ∈ tree.files ∨ g = withContent content f := by
    intro g hg
    obtain ⟨k, hk, rfl⟩ := List.mem_map.mp hg
    split
    · rename_i hinode
      exact .inr (by rw [h.eq_of_inode hk hf hinode])
    · exact .inl hk
  have hparent : ∀ g ∈ tree.files, g.location ≠ [] → IsEntry g.name ∧
      ((tree.update f.inode (withContent content)).find? g.location.dropLast).any File.isDir := by
    intro g hg hne
    obtain ⟨hname, hparent⟩ := h.formed g hg hne
    refine ⟨hname, ?_⟩
    rw [h.find?_rewrite hfind]
    split
    · rename_i hloc
      rw [hloc, hfind] at hparent
      simp [File.isDir, hkind] at hparent
    · exact hparent
  constructor
  · intro g hg hne
    rcases hmem g hg with hg | rfl
    · exact hparent g hg hne
    · exact hparent f hf hne
  · have hsame : (tree.update f.inode (withContent content)).files.map (·.inode) =
        tree.files.map (·.inode) := by
      unfold FileTree.update
      rw [List.map_map]
      refine List.map_congr_left fun g _ => ?_
      simp only [Function.comp_apply]
      split <;> rfl
    rw [hsame]
    exact h.numbered
  · intro g hg
    rcases hmem g hg with hg | rfl
    · exact h.fresh g hg
    · exact h.fresh f hf
  · intro g hg hdirectory
    rcases hmem g hg with hg | rfl
    · exact h.directories g hg hdirectory
    · cases hdirectory
  · intro g hg other hregular
    rcases hmem g hg with hg | rfl
    · exact h.regular g hg other hregular
    · exact h.regular f hf old hkind

/-- A regular file is removed. -/
theorem remove (h : tree.Sound) (hfind : tree.find? loc = some f) (hkind : f.kind = .regular old) :
    (tree.remove loc).Sound where
  formed := by
    refine h.formed.remove fun n => ?_
    refine Option.eq_none_iff_forall_ne_some.mpr fun g hg => ?_
    obtain ⟨-, d, hd, hdirectory⟩ := h.formed.parent hg
    obtain rfl := Option.some.inj (hfind.symm.trans hd)
    rw [hkind] at hdirectory
    cases hdirectory
  numbered := (List.filter_sublist.map _).nodup h.numbered
  fresh f hf := h.fresh f (List.mem_filter.mp hf).1
  directories f hf := h.directories f (List.mem_filter.mp hf).1
  regular f hf := h.regular f (List.mem_filter.mp hf).1

end Sound

/-- In a tree with nothing but its top, nothing is found anywhere else. -/
theorem find?_empty (hne : loc ≠ []) : FileTree.empty.find? loc = none := by
  simp [FileTree.empty, FileTree.find?, Ne.symm hne]

/-- The top of such a tree is open. -/
theorem open_empty : FileTree.empty.Open [] :=
  ⟨_, rfl, rfl, fun access => by cases access <;> rfl⟩

/-- A tree with nothing but its top is sound. -/
theorem sound_empty : FileTree.empty.Sound where
  formed := by decide
  numbered := by decide
  fresh := by decide
  directories f hf _ access := by
    obtain rfl := List.mem_singleton.mp hf
    cases access <;> rfl
  regular f hf content hkind := by
    obtain rfl := List.mem_singleton.mp hf
    cases hkind

/-! ## Writing to a file that was opened -/

/-- Writing to a file the content of which is gone. -/
theorem append_update (tree : FileTree) (inode : Nat) (content : Bytes) :
    (tree.update inode (withContent [])).append inode content =
      tree.update inode (withContent content) := by
  unfold FileTree.append FileTree.update
  simp only [List.map_map]
  congr 1
  refine List.map_congr_left fun f _ => ?_
  by_cases hinode : f.inode = inode
  · simp [hinode, withContent]
  · simp [hinode]

/-- Writing to a file that was just made. -/
theorem Sound.append_add (h : tree.Sound) (loc : Location) (mode : Nat) (content : Bytes) :
    (tree.add loc mode (.regular [])).append tree.nextInode content =
      tree.add loc mode (.regular content) := by
  have hothers : (tree.append tree.nextInode content).files = tree.files := by
    refine (List.map_congr_left fun f hf => ?_).trans (List.map_id _)
    have hne : f.inode ≠ tree.nextInode := Nat.ne_of_lt (h.fresh f hf)
    simp [hne]
  unfold FileTree.append FileTree.update at hothers ⊢
  unfold FileTree.add
  simp only [List.map_append] at hothers ⊢
  rw [hothers]
  simp

/-! ## Directories along a way -/

/-- What making directories along some names comes to: each of them is there and open, and all else
is as it was. -/
structure Made (tree : FileTree) (dir : Location) (names : List Bytes) (tree' : FileTree) :
    Prop where
  sound : tree'.Sound
  along : tree'.OpenAlong dir names
  others : ∀ place, (∀ earlier, earlier <+: names → place ≠ dir ++ earlier) →
    tree'.find? place = tree.find? place

/-- Where the way is open already, nothing has to be made. -/
theorem Made.refl (h : tree.Sound) (hopen : tree.OpenAlong dir names) : tree.Made dir names tree :=
  ⟨h, hopen, fun _ _ => rfl⟩

/-- A directory that was just made may be used in any way. -/
theorem newDirMode_permits (access : Access) : newDirMode usualMask / access.bit % 2 = 1 := by
  cases access <;> rfl

/-- The last directory is made after the others. -/
theorem Made.concat (h : tree.Made dir init mid) (hn : IsEntry n)
    (hfree : mid.find? (dir ++ init ++ [n]) = none) :
    tree.Made dir (init ++ [n])
      (mid.add (dir ++ init ++ [n]) (newDirMode usualMask) .directory) := by
  obtain ⟨d, hd, hkind, -⟩ := h.along init List.prefix_rfl
  refine ⟨h.sound.add _ _ hn ⟨d, hd, hkind⟩ hfree (fun _ => newDirMode_permits) nofun, ?_, ?_⟩
  · intro earlier hearlier
    rcases List.prefix_concat_iff.mp hearlier with rfl | hearlier
    · refine ⟨_, by rw [find?_add hfree, if_pos (List.append_assoc _ _ _).symm], rfl, ?_⟩
      intro access
      simpa [File.permits] using newDirMode_permits access
    · obtain ⟨g, hg, hopen⟩ := h.along earlier hearlier
      have hplace : dir ++ earlier ≠ dir ++ init ++ [n] := by
        intro hsame
        rw [hsame, hfree] at hg
        cases hg
      exact ⟨g, by rw [find?_add hfree, if_neg hplace, hg], hopen⟩
  · intro place hplace
    have hlast : place ≠ dir ++ init ++ [n] := by
      rw [List.append_assoc]
      exact hplace _ List.prefix_rfl
    rw [find?_add hfree, if_neg hlast]
    exact h.others place fun earlier hearlier => hplace earlier
      (hearlier.trans (List.prefix_append _ _))

/-- Names before others on a plain path are plain. -/
theorem Plain.before (h : Plain (init ++ [n])) : Plain init where
  isEntry m hm := h.isEntry m (by simp [hm])
  named m hm := h.named m (by simp [hm])
  noNul m hm := h.noNul m (by simp [hm])
  short := by
    have hshort := h.short
    by_cases hne : init = []
    · simp [hne, joinSegments]
    · rw [joinSegments_concat hne, List.length_append] at hshort
      omega

/-- A path has no more names than bytes. -/
theorem length_le_joinSegments (hnames : ∀ m ∈ names, IsEntry m) :
    names.length ≤ (joinSegments names).length := by
  induction names with
  | nil => simp
  | cons m names ih =>
    have hpos : 0 < m.length := List.length_pos_iff.mpr (hnames m (by simp)).ne_nil
    have hrest := ih fun k hk => hnames k (by simp [hk])
    cases names with
    | nil => exact hpos
    | cons k names =>
      simp only [joinSegments, List.length_append, List.length_cons] at hrest ⊢
      omega

/-- The path above a path made of names. -/
theorem parent?_joinSegments (hnames : ∀ m ∈ init ++ [n], IsEntry m) :
    parent? ⟨joinSegments (init ++ [n])⟩ = some ⟨joinSegments init⟩ := by
  have hcomponents := components_joinSegments hnames (by simp)
  rw [List.map_append, List.map_singleton] at hcomponents
  rw [parent?_of_components hcomponents, ofComponents_names]

section MakeDirs

variable (hmask : v.mask = usualMask) (h : tree.Sound) (hcwd : tree.Open v.cwd)
include hmask h hcwd

/-- The last directory on a plain path is made, once those before it have been. -/
theorem makeDirAfter_plain (hplain : Plain (init ++ [n]))
    (hclear : tree.ClearAlong v.cwd (init ++ [n])) {above : Path → FileTree × Except Errno Unit}
    (habove : tree.find? (v.cwd ++ init) = none → ∃ mid,
      above ⟨joinSegments init⟩ = (mid, .ok ()) ∧ tree.Made v.cwd init mid) :
    ∃ tree', tree.makeDirAfter v ⟨joinSegments (init ++ [n])⟩ above = (tree', .ok ()) ∧
      tree.Made v.cwd (init ++ [n]) tree' := by
  have hclearInit : tree.ClearAlong v.cwd init :=
    fun earlier hearlier => hclear earlier (hearlier.trans (List.prefix_append _ _))
  have hn := hplain.isEntry n (by simp)
  cases hdir : tree.find? (v.cwd ++ init) with
  | none =>
    obtain ⟨mid, hrun, hmade⟩ := habove hdir
    have hne : (⟨joinSegments init⟩ : Path) ≠ .empty := by
      intro hempty
      have hnil : init = [] := by
        by_contra hne
        exact joinSegments_ne_nil hplain.before.isEntry hne (congrArg Path.bytes hempty)
      obtain ⟨d, hd, -⟩ := hcwd
      rw [hnil, List.append_nil, hd] at hdir
      cases hdir
    have hfree : mid.find? (v.cwd ++ init ++ [n]) = none := by
      rw [hmade.others]
      · refine Option.eq_none_iff_forall_ne_some.mpr fun f hf => ?_
        obtain ⟨-, d, hd, -⟩ := h.formed.parent hf
        rw [hdir] at hd
        cases hd
      · intro earlier hearlier hsame
        rw [List.append_assoc] at hsame
        have hlength := hearlier.length_le
        rw [← List.append_cancel_left hsame, List.length_append, List.length_singleton] at hlength
        omega
    have hmake := makeDir_plain hplain hmade.along
    rw [hfree, hmask] at hmake
    refine ⟨_, ?_, hmade.concat hn hfree⟩
    rw [makeDirAfter, makeDir_missing hplain hcwd hclearInit hdir,
      parent?_joinSegments hplain.isEntry]
    simp only [if_pos, if_neg hne, hrun, hmake]
  | some d =>
    have halong := hclearInit.openAlong h.formed (by simp [hdir])
    have hmake := makeDir_plain hplain halong
    rcases hclear (init ++ [n]) List.prefix_rfl with hfree | hopen
    · rw [← List.append_assoc] at hfree
      rw [hfree, hmask] at hmake
      exact ⟨_, by rw [makeDirAfter, hmake], (Made.refl h halong).concat hn hfree⟩
    · have hwhole : tree.OpenAlong v.cwd (init ++ [n]) :=
        hclear.openAlong h.formed (by
          obtain ⟨f, hf, -⟩ := hopen
          simp [hf])
      rw [← List.append_assoc] at hopen
      obtain ⟨f, hf, hkind, -⟩ := hopen
      have hisDir : tree.isDirAt v ⟨joinSegments (init ++ [n])⟩ = true := by
        rw [isDirAt, statAt,
          lookup_plain hplain halong (not_link_of_some hf (by simp [hkind])), hf]
        simp [File.isDir, hkind]
      have hother : Errno.alreadyExists ≠ .notFound := by decide
      rw [hf] at hmake
      exact ⟨tree, by simp [makeDirAfter, hmake, hother, hisDir], Made.refl h hwhole⟩

/-- **Directories are made along a plain path**, as far as they are missing.

**Proof sketch.** By induction on how many there may be: the last is made after those before it. -/
theorem makeDirsWithin_plain (depth : Nat) (hne : names ≠ []) (hdepth : names.length ≤ depth + 1)
    (hplain : Plain names) (hclear : tree.ClearAlong v.cwd names) :
    ∃ tree', tree.makeDirsWithin v depth ⟨joinSegments names⟩ = (tree', .ok ()) ∧
      tree.Made v.cwd names tree' := by
  induction depth generalizing names with
  | zero =>
    obtain ⟨n, rfl⟩ : ∃ n, names = [] ++ [n] := by
      obtain ⟨n, rest, rfl⟩ := List.exists_cons_of_ne_nil hne
      have hrest : rest = [] := by simpa using hdepth
      exact ⟨n, by rw [hrest]; rfl⟩
    refine makeDirAfter_plain hmask h hcwd hplain hclear fun hnone => ?_
    obtain ⟨d, hd, -⟩ := hcwd
    rw [List.append_nil, hd] at hnone
    cases hnone
  | succ depth ih =>
    obtain ⟨init, n, rfl⟩ : ∃ init n, names = init ++ [n] :=
      ⟨_, _, (List.dropLast_concat_getLast hne).symm⟩
    refine makeDirAfter_plain hmask h hcwd hplain hclear fun hnone => ?_
    have hinit : init ≠ [] := by
      rintro rfl
      obtain ⟨d, hd, -⟩ := hcwd
      rw [List.append_nil, hd] at hnone
      cases hnone
    refine ih hinit (by simpa using hdepth) hplain.before ?_
    exact fun earlier hearlier => hclear earlier (hearlier.trans (List.prefix_append _ _))

/-- **Directories are made along a plain path** from the working directory. -/
theorem makeDirs_plain (hplain : Plain names) (hclear : tree.ClearAlong v.cwd names) :
    ∃ tree', tree.makeDirs v ⟨joinSegments names⟩ = (tree', .ok ()) ∧
      tree.Made v.cwd names tree' := by
  by_cases hne : names = []
  · subst hne
    refine ⟨tree, if_pos rfl, Made.refl h fun earlier hearlier => ?_⟩
    rw [List.prefix_nil.mp hearlier, List.append_nil]
    exact hcwd
  · have hbytes : (⟨joinSegments names⟩ : Path) ≠ .empty := fun hempty =>
      joinSegments_ne_nil hplain.isEntry hne (congrArg Path.bytes hempty)
    rw [makeDirs, if_neg hbytes]
    exact makeDirsWithin_plain hmask h hcwd _ hne
      (Nat.le_succ_of_le (length_le_joinSegments hplain.isEntry)) hplain hclear

end MakeDirs

end FileTree
end Container
