import Mathlib.Data.List.Nodup
import Mathlib.Data.List.Perm.Subperm
import Container.Proofs.Host.Plain

set_option autoImplicit false

/-!
# Calls that tend a tree

To say what becomes of a tree of files, it is enough to know how directories are listed and removed
at a path and below it. This module says what is asked of a system, and that a host in memory does
it where every directory may be used in any way and no path is too long.

## Main definitions

* `FileTree.Lists` — the entries of a directory.
* `TendsTree` — how a system lists and removes directories at a path and below it.
* `Host.Calm` — a host on which nothing is refused at a name in the working directory and below it.

## Main results

* `Host.tendsTree` — such a host tends its tree.
-/

namespace Container

open Path

namespace FileTree

/-- The entries of a directory, each once, in any order. -/
def Lists (tree : FileTree) (loc : Location) (entries : List DirEntry) : Prop :=
  (entries.map (·.name)).Nodup ∧ ∀ entry, entry ∈ entries ↔
    ∃ f, tree.find? (loc ++ [entry.name]) = some f ∧ f.isDir = entry.isDir

variable {tree : FileTree} {loc other : Location}

/-- What a directory holds. -/
theorem mem_children {f : File} :
    f ∈ tree.children loc ↔ f ∈ tree.files ∧ ∃ n, f.location = loc ++ [n] := by
  unfold children
  rw [List.mem_mergeSort, List.mem_filter]
  refine and_congr_right fun _ => ?_
  unfold isChild
  rw [Bool.and_eq_true, List.isPrefixOf_iff_prefix, decide_eq_true_eq]
  constructor
  · rintro ⟨hlength, more, hmore⟩
    rw [← hmore, List.length_append] at hlength
    obtain ⟨n, rfl⟩ := List.length_eq_one_iff.mp (show more.length = 1 by omega)
    exact ⟨n, hmore.symm⟩
  · rintro ⟨n, hn⟩
    rw [hn]
    exact ⟨by simp, List.prefix_append _ _⟩

/-- In a tree in which no two files are at the same location, each file is found. -/
theorem find?_eq_some (hdistinct : (tree.files.map (·.location)).Nodup) {f : File} :
    tree.find? loc = some f ↔ f ∈ tree.files ∧ f.location = loc := by
  constructor
  · intro h
    exact ⟨List.mem_of_find?_eq_some h, location_of_find? h⟩
  · rintro ⟨hmem, rfl⟩
    obtain ⟨g, hg⟩ : ∃ g, tree.find? f.location = some g :=
      Option.isSome_iff_exists.mp (List.find?_isSome.mpr ⟨f, hmem, by simp⟩)
    have hsame : g = f := List.inj_on_of_nodup_map hdistinct (List.mem_of_find?_eq_some hg) hmem
      (location_of_find? hg)
    rw [hg, hsame]

/-- The name of a file in a directory. -/
theorem name_of_location {f : File} {n : Bytes} (h : f.location = loc ++ [n]) : f.name = n := by
  simp [File.name, h]

/-- A directory holds what is found in it, each file once. -/
theorem lists_children (hdistinct : (tree.files.map (·.location)).Nodup) (loc : Location) :
    tree.Lists loc ((tree.children loc).map fun f => ⟨f.name, f.isDir⟩) := by
  refine ⟨?_, ?_⟩
  · have hlocations : ((tree.children loc).map (·.location)).Nodup := by
      unfold children
      refine (((List.mergeSort_perm _ _).map _).nodup_iff).mpr ?_
      exact (List.filter_sublist.map _).nodup hdistinct
    have hnamed : (tree.children loc).map (·.location) =
        ((tree.children loc).map (·.name)).map fun n => loc ++ [n] := by
      rw [List.map_map]
      refine List.map_congr_left fun f hf => ?_
      obtain ⟨-, n, hn⟩ := mem_children.mp hf
      simp [name_of_location hn, hn]
    rw [hnamed] at hlocations
    simpa [Function.comp_def] using hlocations.of_map
  · intro entry
    rw [List.mem_map]
    constructor
    · rintro ⟨f, hf, rfl⟩
      obtain ⟨hmem, n, hn⟩ := mem_children.mp hf
      exact ⟨f, (find?_eq_some hdistinct).mpr ⟨hmem, by rw [hn, name_of_location hn]⟩, rfl⟩
    · rintro ⟨f, hf, hisDir⟩
      obtain ⟨hmem, hlocation⟩ := (find?_eq_some hdistinct).mp hf
      refine ⟨f, mem_children.mpr ⟨hmem, _, hlocation⟩, ?_⟩
      rw [name_of_location hlocation, hisDir]

/-- A directory holds nothing if nothing is found in it. -/
theorem isEmpty_children (hdistinct : (tree.files.map (·.location)).Nodup) :
    (tree.children loc).isEmpty = true ↔ ∀ n, tree.find? (loc ++ [n]) = none := by
  rw [List.isEmpty_iff, List.eq_nil_iff_forall_not_mem]
  constructor
  · intro h n
    refine Option.eq_none_iff_forall_ne_some.mpr fun f hf => ?_
    obtain ⟨hmem, hlocation⟩ := (find?_eq_some hdistinct).mp hf
    exact h f (mem_children.mpr ⟨hmem, n, hlocation⟩)
  · intro h f hf
    obtain ⟨hmem, n, hlocation⟩ := mem_children.mp hf
    have hfound := (find?_eq_some hdistinct).mpr ⟨hmem, hlocation⟩
    rw [h n] at hfound
    cases hfound

/-- No directory lies deeper than there are files. -/
theorem length_le_depthBound (hformed : tree.WellFormed) (hdir : tree.IsDirAt loc) :
    loc.length ≤ tree.depthBound := by
  let above := (List.range (loc.length + 1)).map loc.take
  have hsubset : above ⊆ tree.files.map (·.location) := by
    intro place hplace
    obtain ⟨i, -, rfl⟩ := List.mem_map.mp hplace
    obtain ⟨f, hf⟩ : ∃ f, tree.find? (loc.take i) = some f := by
      obtain ⟨d, hd, -⟩ := hdir
      rw [← List.take_append_drop i loc] at hd
      cases hmore : loc.drop i with
      | nil =>
        rw [hmore, List.append_nil] at hd
        exact ⟨d, hd⟩
      | cons n more =>
        obtain ⟨f, hf, -⟩ := hformed.isDirAt (by simp [hmore]) hd
        exact ⟨f, hf⟩
    exact List.mem_map.mpr ⟨f, List.mem_of_find?_eq_some hf, location_of_find? hf⟩
  have hnodup : above.Nodup := by
    refine List.Nodup.map_on ?_ List.nodup_range
    intro i hi j hj hsame
    have hlength := congrArg List.length hsame
    simp only [List.mem_range, List.length_take] at hi hj hlength
    omega
  have hle := (hnodup.subperm hsubset).length_le
  simp only [above, List.length_map, List.length_range] at hle
  exact Nat.le_of_succ_le hle

end FileTree

open FileTree

variable {σ α : Type}

/-- A call gives an answer and leaves what is then seen of the world, which stays calm. -/
def Gives {τ : Type} (view : σ → τ) (calm : σ → Prop) (call : StateM σ α) (s : σ) (answer : α)
    (seen : τ) : Prop :=
  ∃ s', call s = (answer, s') ∧ calm s' ∧ view s' = seen

/-- How a system with a tree answers calls at a path and below it in a calm world, in which a call
fails only for what is where. -/
structure TendsTree (sys : System σ) (treeOf : σ → FileTree) (v : Viewpoint) (p : Path)
    (calm : σ → Prop) : Prop where
  formed : ∀ s, calm s → (treeOf s).WellFormed
  /-- No directory lies deeper than the system says. -/
  bounded : ∀ s loc, calm s → (treeOf s).IsDirAt loc → loc.length ≤ sys.depthBound s
  log : ∀ event s, calm s → Gives treeOf calm (sys.log event) s () (treeOf s)
  /-- Where nothing is, that is what is wrong. -/
  absent : ∀ s, calm s → (treeOf s).Absent v p → ∃ fault fault',
    fault.isNotFound ∧ fault'.isNotFound ∧
      Gives treeOf calm (sys.listDir p) s (.error fault) (treeOf s) ∧
      Gives treeOf calm (sys.removeDir p) s (.error fault') (treeOf s)
  /-- A directory is listed, with all its entries. -/
  lists : ∀ s loc names, calm s → (treeOf s).Names v p loc → (treeOf s).IsDirAt (loc ++ names) →
    ∃ entries, (treeOf s).Lists (loc ++ names) entries ∧
      Gives treeOf calm (sys.listDir (p.down names)) s (.ok (entries.map .ok)) (treeOf s)
  /-- An empty directory is removed. -/
  empty : ∀ s loc names, calm s → (treeOf s).Names v p loc → (treeOf s).IsDirAt (loc ++ names) →
    (∀ n, (treeOf s).find? (loc ++ names ++ [n]) = none) →
      Gives treeOf calm (sys.removeDir (p.down names)) s (.ok ())
        ((treeOf s).remove (loc ++ names))
  /-- Any other directory is not. -/
  occupied : ∀ s loc names, calm s → (treeOf s).Names v p loc → (treeOf s).IsDirAt (loc ++ names) →
    (∃ n f, (treeOf s).find? (loc ++ names ++ [n]) = some f) → ∃ fault, fault.isNotFound = false ∧
      Gives treeOf calm (sys.removeDir (p.down names)) s (.error fault) (treeOf s)

/-! ## A host that tends its tree -/

namespace Host

/-- What a call on a path without zero bytes comes to. -/
theorem run_withPath {p : Path} (hnul : p.hasNul = false) (call : HostM (Except Errno α))
    (host : Host) : withPath p call host = (asFault (call host).1, (call host).2) := by
  unfold withPath
  simp only [hnul]
  rfl

/-- What listing a directory on a host comes to. -/
theorem run_listDir {p : Path} (hnul : p.hasNul = false) (host : Host) :
    (Host.system .whole).listDir p host =
      (asFault ((·.map fun f => .ok ⟨f.name, f.isDir⟩) <$> host.tree.list host.view p), host) :=
  run_withPath hnul _ host

/-- What a call that changes the tree comes to. -/
theorem run_changeSeen (call : FileTree → Viewpoint → Except Errno FileTree) (host : Host) :
    changeSeen call host = match call host.tree host.view with
      | .ok tree => (.ok (), { host with tree })
      | .error e => (.error e, host) := rfl

/-- What removing a directory on a host comes to. -/
theorem run_removeDir {p : Path} (hnul : p.hasNul = false) (host : Host) :
    (Host.system .whole).removeDir p host =
      match host.tree.removeDir host.view p with
      | .ok tree => (.ok (), { host with tree })
      | .error e => (.error (.os e), host) := by
  refine (run_withPath hnul _ host).trans ?_
  rw [run_changeSeen]
  cases host.tree.removeDir host.view p <;> rfl

/-- A host on which nothing is refused at a name in the working directory and below it: every
directory may be used in any way, and no name and no path is too long. -/
structure Calm (v : Viewpoint) (host : Host) : Prop where
  view : host.view = v
  formed : host.tree.WellFormed
  distinct : (host.tree.files.map (·.location)).Nodup
  cwd : host.tree.IsDirAt v.cwd
  permitted : ∀ f ∈ host.tree.files, f.kind = .directory → ∀ access, f.permits access = true
  plain : ∀ f ∈ host.tree.files, v.cwd <+: f.location → Plain (f.location.drop v.cwd.length)

variable {v : Viewpoint} {host : Host} {n : Bytes} {names : List Bytes}

namespace Calm

/-- All directories on the way to a directory may be used in any way. -/
theorem openAlong (h : host.Calm v) (hdir : host.tree.IsDirAt (v.cwd ++ names)) :
    host.tree.OpenAlong v.cwd names := by
  rintro earlier ⟨later, rfl⟩
  obtain ⟨d, hd, hkind⟩ : host.tree.IsDirAt (v.cwd ++ earlier) := by
    cases later with
    | nil => simpa using hdir
    | cons m later =>
      obtain ⟨d, hd, -⟩ := hdir
      rw [← List.append_assoc] at hd
      exact h.formed.isDirAt (by simp) hd
  exact ⟨d, hd, hkind, h.permitted d (List.mem_of_find?_eq_some hd) hkind⟩

/-- The names of a file are plain. -/
theorem plain_of_isDirAt (h : host.Calm v) (hdir : host.tree.IsDirAt (v.cwd ++ names)) :
    Plain names := by
  obtain ⟨d, hd, -⟩ := hdir
  have hplain := h.plain d (List.mem_of_find?_eq_some hd)
  rw [location_of_find? hd, List.drop_left] at hplain
  exact hplain (List.prefix_append _ _)

/-- Nothing is refused once an empty directory is gone. -/
theorem remove (h : host.Calm v) (hn : names ≠ [])
    (hempty : ∀ n, host.tree.find? (v.cwd ++ names ++ [n]) = none) :
    Calm v { host with tree := host.tree.remove (v.cwd ++ names) } where
  view := h.view
  formed := h.formed.remove hempty
  distinct := (List.filter_sublist.map _).nodup h.distinct
  cwd := by
    obtain ⟨d, hd, hkind⟩ := h.cwd
    exact ⟨d, by simpa [find?_remove, hn] using hd, hkind⟩
  permitted f hf := h.permitted f (List.mem_filter.mp hf).1
  plain f hf := h.plain f (List.mem_filter.mp hf).1

end Calm

/-- The place that a path made of one name names. -/
theorem eq_of_names {loc : Location} (hn : Plain [n]) (h : host.tree.Names v ⟨n⟩ loc) :
    loc = v.cwd ++ [n] := by
  have hsteps : stepsOf n = [] ++ [n] := stepsOf_joinSegments hn.isEntry
  have hstart : startOf v.root v.cwd n = v.cwd := startOf_joinSegments hn.isEntry
  obtain ⟨init, m, dir, hinit, -, rfl, -, hleads⟩ := h
  obtain ⟨rfl, hm⟩ := List.append_inj' (hsteps.symm.trans hinit) rfl
  rw [hstart] at hleads
  cases hleads
  rw [hm]

/-- The way to a name in the working directory does not go through it. -/
theorem names_cut (hn : Plain [n]) (hcwd : host.tree.IsDirAt v.cwd) :
    (host.tree.cut (v.cwd ++ [n])).Names v ⟨n⟩ (v.cwd ++ [n]) := by
  have hsteps : stepsOf n = [] ++ [n] := stepsOf_joinSegments hn.isEntry
  have hstart : startOf v.root v.cwd n = v.cwd := startOf_joinSegments hn.isEntry
  obtain ⟨d, hd, hkind⟩ := hcwd
  have hway : ¬ v.cwd ++ [n] <+: v.cwd := by
    intro hprefix
    have hlength := hprefix.length_le
    rw [List.length_append, List.length_singleton] at hlength
    omega
  refine ⟨[], n, v.cwd, hsteps, (hn.isEntry n (by simp)).isName, rfl, ⟨d, ?_, hkind⟩, ?_⟩
  · rw [find?_cut, if_neg hway, hd]
  · rw [hstart]
    exact .here _

/-- Nothing is at a path made of one name only if nothing is there. -/
theorem find?_of_absent (hn : Plain [n]) (h : host.tree.Absent v ⟨n⟩) :
    host.tree.find? (v.cwd ++ [n]) = none := by
  rcases h with ⟨loc, hnames, hfind⟩ | ⟨init, m, hinit, -, hmisses⟩
  · rwa [← eq_of_names hn hnames]
  · have hsteps : stepsOf n = [] ++ [n] := stepsOf_joinSegments hn.isEntry
    obtain ⟨rfl, -⟩ := List.append_inj' (hsteps.symm.trans hinit) rfl
    cases hmisses

/-- A directory below a name is listed and removed as its path says. -/
theorem Calm.below (h : host.Calm v) (hdir : host.tree.IsDirAt (v.cwd ++ [n] ++ names)) :
    (⟨n⟩ : Path).down names = ⟨joinSegments (n :: names)⟩ ∧
      hasNul ⟨joinSegments (n :: names)⟩ = false ∧
      host.tree.list v ⟨joinSegments (n :: names)⟩ =
        .ok (host.tree.children (v.cwd ++ [n] ++ names)) ∧
      host.tree.removeDir v ⟨joinSegments (n :: names)⟩ =
        if ¬ (host.tree.children (v.cwd ++ [n] ++ names)).isEmpty then .error .notEmpty
        else .ok (host.tree.remove (v.cwd ++ [n] ++ names)) := by
  have hcons : v.cwd ++ [n] ++ names = v.cwd ++ (n :: names) := by simp
  rw [hcons] at hdir ⊢
  have hplain := h.plain_of_isDirAt hdir
  have hopen := h.openAlong hdir
  have hdown : (⟨joinSegments [n]⟩ : Path).down names = ⟨joinSegments ([n] ++ names)⟩ :=
    down_joinSegments hplain.isEntry
  refine ⟨hdown, hplain.hasNul, ?_⟩
  obtain ⟨init, last, hsplit⟩ : ∃ init last, n :: names = init ++ [last] :=
    ⟨_, _, (List.dropLast_append_getLast (by simp)).symm⟩
  rw [hsplit] at hdir hplain hopen ⊢
  have habove : host.tree.OpenAlong v.cwd init :=
    fun earlier hearlier => hopen earlier (hearlier.trans (List.prefix_append _ _))
  obtain ⟨d, hd, hkind⟩ := hdir
  rw [← List.append_assoc] at hd ⊢
  refine ⟨list_plain hplain hopen, ?_⟩
  rw [removeDir_plain hplain habove, hd]
  simp [File.isDir, hkind, location_of_find? hd]

/-- **A host tends its tree** at a name in the working directory and below it, as long as nothing is
refused there. -/
theorem tendsTree (v : Viewpoint) (hn : Plain [n]) :
    TendsTree (Host.system .whole) Host.tree v ⟨n⟩ (Calm v) where
  formed _ h := h.formed
  bounded _ _ h hdir := length_le_depthBound h.formed hdir
  log event host h := ⟨_, rfl, ⟨h.view, h.formed, h.distinct, h.cwd, h.permitted, h.plain⟩, rfl⟩
  absent host h habsent := by
    have hfind := find?_of_absent hn habsent
    have hnul : hasNul ⟨n⟩ = false := hn.hasNul
    have hopen : host.tree.OpenAlong v.cwd [] := h.openAlong (by simpa using h.cwd)
    have hlocation : v.cwd ++ [] ++ [n] = v.cwd ++ [n] := by simp
    have hlist : host.tree.list v ⟨n⟩ = .error .notFound :=
      list_plain_absent hn hopen (hlocation ▸ hfind)
    have hremove : host.tree.removeDir v ⟨n⟩ = .error .notFound := by
      refine (removeDir_plain hn hopen).trans ?_
      rw [hlocation, hfind]
    refine ⟨.os .notFound, .os .notFound, rfl, rfl, ⟨host, ?_, h, rfl⟩, ⟨host, ?_, h, rfl⟩⟩
    · rw [run_listDir hnul, h.view, hlist]
      rfl
    · rw [run_removeDir hnul, h.view, hremove]
  lists host loc names h hnames hdir := by
    obtain rfl := eq_of_names hn hnames
    obtain ⟨hdown, hnul, hlist, -⟩ := h.below hdir
    refine ⟨_, lists_children h.distinct _, host, ?_, h, rfl⟩
    rw [hdown, run_listDir hnul, h.view, hlist, List.map_map]
    rfl
  empty host loc names h hnames hdir hempty := by
    obtain rfl := eq_of_names hn hnames
    obtain ⟨hdown, hnul, -, hremove⟩ := h.below hdir
    have hnone := (isEmpty_children h.distinct).mpr hempty
    rw [if_neg (not_not_intro hnone)] at hremove
    refine ⟨{ host with tree := host.tree.remove (v.cwd ++ [n] ++ names) }, ?_, ?_, rfl⟩
    · rw [hdown, run_removeDir hnul, h.view, hremove]
    · have hcons : v.cwd ++ [n] ++ names = v.cwd ++ (n :: names) := by simp
      rw [hcons] at hempty ⊢
      exact h.remove (by simp) hempty
  occupied host loc names h hnames hdir hchild := by
    obtain rfl := eq_of_names hn hnames
    obtain ⟨hdown, hnul, -, hremove⟩ := h.below hdir
    have hsome : ¬ (host.tree.children (v.cwd ++ [n] ++ names)).isEmpty = true := by
      rw [isEmpty_children h.distinct]
      obtain ⟨m, f, hf⟩ := hchild
      intro hnone
      rw [hnone m] at hf
      cases hf
    rw [if_pos hsome] at hremove
    refine ⟨.os .notEmpty, rfl, host, ?_, h, rfl⟩
    rw [hdown, run_removeDir hnul, h.view, hremove]

end Host
end Container
