import Container.Host.Calls
import Container.Proofs.Act
import Container.Proofs.Host.Way

set_option autoImplicit false

/-!
# Plain paths on a host

A plain path is made of names that are neither empty nor too long, and leads down from the working
directory through directories that may be used in any way. There are no links on it and nothing is
refused, so what a host finds is what is at that location in its tree.

## Main definitions

* `FileTree.Open` — a directory that may be used in any way.
* `FileTree.Plain` — names that a host takes in a path.
* `FileTree.ClearAlong` — a way on which directories may be missing.

## Main results

* `FileTree.follow_plain`, `FileTree.resolve_plain` — where a plain path leads.
* `FileTree.list_plain`, `FileTree.removeDir_plain` — listing and removing a directory.
* `FileTree.readFile_plain`, `FileTree.unlink_plain`, `FileTree.openForWriting_new`,
  `FileTree.openForWriting_old`, `FileTree.makeDir_plain` — reading, removing and making files.
-/

namespace Container

open Path

namespace FileTree

/-- There is a directory at a location that may be used in any way. -/
def Open (tree : FileTree) (loc : Location) : Prop :=
  ∃ f, tree.find? loc = some f ∧ f.kind = .directory ∧ ∀ access, f.permits access = true

/-- All directories on the way along some names, from one to the last, may be used in any way. -/
def OpenAlong (tree : FileTree) (dir : Location) (names : List Bytes) : Prop :=
  ∀ earlier, earlier <+: names → tree.Open (dir ++ earlier)

/-- Names that a host takes in a path, one after the other. -/
structure Plain (names : List Bytes) : Prop where
  isEntry : ∀ n ∈ names, IsEntry n
  named : ∀ n ∈ names, n.length ≤ nameLimit
  noNul : ∀ n ∈ names, 0 ∉ n
  short : (joinSegments names).length ≤ pathLimit

instance (names : List Bytes) : Decidable (Plain names) :=
  decidable_of_iff ((∀ n ∈ names, IsEntry n) ∧ (∀ n ∈ names, n.length ≤ nameLimit) ∧
      (∀ n ∈ names, 0 ∉ n) ∧ (joinSegments names).length ≤ pathLimit)
    ⟨fun ⟨isEntry, named, noNul, short⟩ => ⟨isEntry, named, noNul, short⟩,
      fun ⟨isEntry, named, noNul, short⟩ => ⟨isEntry, named, noNul, short⟩⟩

variable {tree : FileTree} {v : Viewpoint} {root dir loc : Location} {names : List Bytes}
  {n : Bytes}

/-- Whatever is to be done in an open directory is permitted. -/
theorem Open.require (h : tree.Open loc) (access : Access) : tree.require loc access = .ok () := by
  obtain ⟨d, hd, -, hpermits⟩ := h
  simp [FileTree.require, hd, File.require, hpermits access]

/-! ## The bytes of a plain path -/

/-- The bytes of names with slashes between them. -/
theorem mem_joinSegments {b : UInt8} (h : b ∈ joinSegments names) :
    b = slash ∨ ∃ n ∈ names, b ∈ n := by
  induction names with
  | nil => simp [joinSegments] at h
  | cons first names ih =>
    cases names with
    | nil => exact .inr ⟨first, by simp, h⟩
    | cons next names =>
      rcases List.mem_append.mp h with h | h
      · exact .inr ⟨first, by simp, h⟩
      · rcases List.mem_cons.mp h with rfl | h
        · exact .inl rfl
        · obtain hslash | ⟨n, hn, hb⟩ := ih h
          · exact .inl hslash
          · exact .inr ⟨n, by simp [hn], hb⟩

/-- A plain path holds no zero byte. -/
theorem Plain.hasNul (h : Plain names) : hasNul ⟨joinSegments names⟩ = false := by
  unfold Path.hasNul
  rw [Bool.eq_false_iff, Ne, List.contains_iff_mem]
  intro hmem
  rcases mem_joinSegments hmem with hslash | ⟨n, hn, hzero⟩
  · exact absurd hslash (by decide)
  · exact h.noNul n hn hzero

/-- One more name after others. -/
theorem joinSegments_concat (hne : names ≠ []) (n : Bytes) :
    joinSegments (names ++ [n]) = joinSegments names ++ slash :: n := by
  induction names with
  | nil => exact absurd rfl hne
  | cons first names ih =>
    cases names with
    | nil => rfl
    | cons next names =>
      show first ++ slash :: joinSegments (next :: names ++ [n]) = _
      rw [ih (by simp)]
      simp [joinSegments]

/-- A path that was made of names, with one more name joined to it. -/
theorem join_joinSegments (hnames : ∀ m ∈ names ++ [n], IsEntry m) :
    (⟨joinSegments names⟩ : Path).join ⟨n⟩ = ⟨joinSegments (names ++ [n])⟩ := by
  have hlast : ∀ m ∈ [n], IsEntry m := fun m hm => hnames m (List.mem_append_right _ hm)
  have hrelative : (⟨n⟩ : Path).isAbsolute = false := isAbsolute_joinSegments hlast
  by_cases hne : names = []
  · subst hne
    simp [join, hrelative, joinSegments]
  · have hbefore : ∀ m ∈ names, IsEntry m := fun m hm => hnames m (by simp [hm])
    obtain ⟨b, hb⟩ : ∃ b, (joinSegments names).getLast? = some b :=
      ⟨_, List.getLast?_eq_some_getLast (joinSegments_ne_nil hbefore hne)⟩
    have hslash : b ≠ slash := by
      rintro rfl
      exact getLast?_joinSegments hbefore hb
    rw [join_relative hrelative hb hslash, joinSegments_concat hne]

/-- Names joined one after the other to a path that was made of names. -/
theorem down_joinSegments {more : List Bytes} (hnames : ∀ m ∈ names ++ more, IsEntry m) :
    (⟨joinSegments names⟩ : Path).down more = ⟨joinSegments (names ++ more)⟩ := by
  induction more generalizing names with
  | nil => simp
  | cons n more ih =>
    have hassoc : names ++ n :: more = names ++ [n] ++ more := by simp
    rw [hassoc] at hnames ⊢
    have hjoin : (⟨joinSegments names⟩ : Path).join ⟨n⟩ = ⟨joinSegments (names ++ [n])⟩ :=
      join_joinSegments fun m hm => hnames m (List.mem_append_left _ hm)
    show ((⟨joinSegments names⟩ : Path).join ⟨n⟩).down more = _
    rw [hjoin]
    exact ih hnames

/-- A path that was made of names starts in the working directory. -/
theorem startOf_joinSegments (hnames : ∀ m ∈ names, IsEntry m) :
    startOf root dir (joinSegments names) = dir := by
  have hrelative := isAbsolute_joinSegments hnames
  unfold isAbsolute at hrelative
  exact if_neg (by simpa using hrelative)

/-! ## Following a plain path -/

/-- Names lead down through directories that may be gone through. -/
theorem followSteps_plain (hnames : ∀ m ∈ names ++ [n], IsName m ∧ m.length ≤ nameLimit)
    (hopen : tree.OpenAlong dir names) (links : Nat) (slash : Bool) :
    tree.followSteps root links dir slash (names ++ [n]) = .ok ⟨dir ++ names, .name n, slash⟩ := by
  induction names generalizing dir with
  | nil =>
    have hrequire := (hopen [] List.nil_prefix).require .run
    obtain ⟨⟨hcurrent, hparent⟩, hlength⟩ := hnames n (by simp)
    rw [List.append_nil] at hrequire
    rw [List.nil_append, followSteps, hrequire]
    simp [bind, Except.bind, hcurrent, hparent, Nat.not_lt.mpr hlength]
  | cons m names ih =>
    have hrequire := (hopen [] List.nil_prefix).require .run
    obtain ⟨⟨hcurrent, hparent⟩, hlength⟩ := hnames m (by simp)
    obtain ⟨d, hd, hkind, -⟩ := hopen [m] (by simp)
    have hbelow : tree.OpenAlong (dir ++ [m]) names := by
      intro earlier h
      simpa using hopen (m :: earlier) (by simpa using h)
    have hrest := ih (fun k hk => hnames k (List.mem_cons_of_mem _ hk)) hbelow
    obtain ⟨next, steps, hsteps⟩ : ∃ next steps, names ++ [n] = next :: steps :=
      List.exists_cons_of_ne_nil (by simp)
    rw [List.append_nil] at hrequire
    rw [List.cons_append, hsteps, followSteps, hrequire]
    rw [hsteps] at hrest
    simp [bind, Except.bind, hcurrent, hparent, Nat.not_lt.mpr hlength, hd, hkind,
      location_of_find? hd, hrest]

/-- **Where a plain path leads**: through the directories that its names name, to the last name. -/
theorem follow_plain (hplain : Plain (names ++ [n])) (hopen : tree.OpenAlong v.cwd names) :
    tree.follow v.root v.cwd (joinSegments (names ++ [n])) =
      .ok ⟨v.cwd ++ names, .name n, false⟩ := by
  have hnames := hplain.isEntry
  have hslash : endsInSlash (joinSegments (names ++ [n])) = false := by
    simpa [endsInSlash] using getLast?_joinSegments hnames
  rw [follow, if_neg (joinSegments_ne_nil hnames (by simp)), if_neg (Nat.not_lt.mpr hplain.short),
    hslash, startOf_joinSegments hnames, stepsOf_joinSegments hnames]
  exact followSteps_plain (fun m hm => ⟨(hnames m hm).isName, hplain.named m hm⟩) hopen _ _

/-- What a host finds at a plain path, unless it is a link. -/
theorem resolve_plain (hplain : Plain (names ++ [n])) (hopen : tree.OpenAlong v.cwd names)
    (hlink : ∀ f, tree.find? (v.cwd ++ names ++ [n]) = some f → ∀ target, f.kind ≠ .link target)
    (through : Bool) :
    tree.resolve v.root v.cwd through (joinSegments (names ++ [n])) =
      .ok (match tree.find? (v.cwd ++ names ++ [n]) with
        | some f => .file f
        | none => .free (v.cwd ++ names ++ [n]) false) := by
  obtain ⟨d, hd, -, -⟩ := hopen names List.prefix_rfl
  rw [resolve, follow_plain hplain hopen]
  simp only [bind, Except.bind, lastStep]
  cases hfind : tree.find? (v.cwd ++ names ++ [n]) with
  | none => simp [hd]
  | some f =>
    cases hkind : f.kind with
    | link target => exact absurd hkind (hlink f hfind target)
    | _ => simp [hkind]

/-- What was found to be no link. -/
theorem not_link_of_some {f : File} (hfind : tree.find? loc = some f)
    (hkind : ∀ target, f.kind ≠ .link target) :
    ∀ g, tree.find? loc = some g → ∀ target, g.kind ≠ .link target := by
  intro g hg
  obtain rfl := Option.some.inj (hfind.symm.trans hg)
  exact hkind

/-- Nothing is no link. -/
theorem not_link_of_none (hfind : tree.find? loc = none) :
    ∀ g, tree.find? loc = some g → ∀ target, g.kind ≠ .link target := by
  intro g hg
  rw [hfind] at hg
  cases hg

/-! ## Directories -/

/-- The file at a plain path, or nothing. -/
theorem lookup_plain (hplain : Plain (names ++ [n])) (hopen : tree.OpenAlong v.cwd names)
    (hlink : ∀ f, tree.find? (v.cwd ++ names ++ [n]) = some f → ∀ target, f.kind ≠ .link target)
    (through : Bool) :
    tree.lookup v.root v.cwd through (joinSegments (names ++ [n])) =
      match tree.find? (v.cwd ++ names ++ [n]) with
      | some f => .ok f
      | none => .error .notFound := by
  rw [lookup, resolve_plain hplain hopen hlink]
  cases tree.find? (v.cwd ++ names ++ [n]) <;> rfl

/-- An open directory at a plain path is listed. -/
theorem list_plain (hplain : Plain (names ++ [n])) (hopen : tree.OpenAlong v.cwd (names ++ [n])) :
    tree.list v ⟨joinSegments (names ++ [n])⟩ = .ok (tree.children (v.cwd ++ names ++ [n])) := by
  have habove : tree.OpenAlong v.cwd names :=
    fun earlier h => hopen earlier (h.trans (List.prefix_append _ _))
  obtain ⟨d, hd, hkind, hpermits⟩ := hopen (names ++ [n]) List.prefix_rfl
  rw [← List.append_assoc] at hd
  have hisDir : d.isDir = true := by simp [File.isDir, hkind]
  have hlookup := lookup_plain hplain habove (not_link_of_some hd (by simp [hkind])) true
  rw [list, statAt, hlookup, hd]
  simp [bind, Except.bind, pure, Except.pure, hisDir, File.require, hpermits,
    location_of_find? hd]

/-- A directory that is not there cannot be listed. -/
theorem list_plain_absent (hplain : Plain (names ++ [n])) (hopen : tree.OpenAlong v.cwd names)
    (hfind : tree.find? (v.cwd ++ names ++ [n]) = none) :
    tree.list v ⟨joinSegments (names ++ [n])⟩ = .error .notFound := by
  rw [list, statAt, lookup_plain hplain hopen (not_link_of_none hfind), hfind]
  rfl

/-- A directory cannot have a name that is too long. -/
theorem list_overlong (hentry : ∀ m ∈ [n], IsEntry m) (hlong : nameLimit < n.length)
    (hshort : n.length ≤ pathLimit) (hopen : tree.Open v.cwd) :
    tree.list v ⟨n⟩ = .error .nameTooLong := by
  have hsteps : stepsOf n = [n] := stepsOf_joinSegments hentry
  have hstart : startOf v.root v.cwd n = v.cwd := startOf_joinSegments hentry
  obtain ⟨⟨hcurrent, hparent⟩, hne, -⟩ := hentry n (by simp)
  have hfollow : tree.follow v.root v.cwd n = .error .nameTooLong := by
    rw [follow, if_neg hne, if_neg (Nat.not_lt.mpr hshort), hsteps, hstart, followSteps,
      hopen.require]
    simp [bind, Except.bind, hcurrent, hparent, hlong]
  rw [list, statAt, lookup, resolve, hfollow]
  rfl

/-- What removing a directory at a plain path comes to. -/
theorem removeDir_plain (hplain : Plain (names ++ [n])) (hopen : tree.OpenAlong v.cwd names) :
    tree.removeDir v ⟨joinSegments (names ++ [n])⟩ =
      match tree.find? (v.cwd ++ names ++ [n]) with
      | none => .error .notFound
      | some f =>
        if ¬ f.isDir then .error .notDirectory
        else if ¬ (tree.children f.location).isEmpty then .error .notEmpty
        else .ok (tree.remove f.location) := by
  rw [removeDir, follow_plain hplain hopen]
  simp only [bind, Except.bind]
  cases hfind : tree.find? (v.cwd ++ names ++ [n]) with
  | none => rfl
  | some f =>
    simp only [(hopen names List.prefix_rfl).require]
    split <;> rfl

/-! ## A way that may be missing -/

/-- Along some names, from a directory to the last, there are only directories that may be used in
any way, as far as there is anything. -/
def ClearAlong (tree : FileTree) (dir : Location) (names : List Bytes) : Prop :=
  ∀ earlier, earlier <+: names → tree.find? (dir ++ earlier) = none ∨ tree.Open (dir ++ earlier)

/-- Where there is something at the end of the way, the way is open. -/
theorem ClearAlong.openAlong (h : tree.ClearAlong dir names) (hformed : tree.WellFormed)
    (hsome : (tree.find? (dir ++ names)).isSome) : tree.OpenAlong dir names := by
  rintro earlier ⟨later, rfl⟩
  rcases h earlier (List.prefix_append _ _) with hnone | hopen
  · exfalso
    obtain ⟨f, hf⟩ := Option.isSome_iff_exists.mp hsome
    cases later with
    | nil =>
      rw [List.append_nil, hnone] at hf
      cases hf
    | cons m later =>
      rw [← List.append_assoc] at hf
      obtain ⟨d, hd, -⟩ := hformed.isDirAt (by simp) hf
      rw [hnone] at hd
      cases hd
  · exact hopen

/-- Names lead nowhere if one of them but the last is missing. -/
theorem followSteps_missing (hnames : ∀ m ∈ names ++ [n], IsName m ∧ m.length ≤ nameLimit)
    (hopen : tree.Open dir) (hclear : tree.ClearAlong dir names)
    (hnone : tree.find? (dir ++ names) = none) (links : Nat) (slash : Bool) :
    tree.followSteps root links dir slash (names ++ [n]) = .error .notFound := by
  induction names generalizing dir with
  | nil =>
    obtain ⟨d, hd, -⟩ := hopen
    rw [List.append_nil, hd] at hnone
    cases hnone
  | cons m names ih =>
    obtain ⟨⟨hcurrent, hparent⟩, hlength⟩ := hnames m (by simp)
    obtain ⟨next, steps, hsteps⟩ : ∃ next steps, names ++ [n] = next :: steps :=
      List.exists_cons_of_ne_nil (by simp)
    rw [List.cons_append, hsteps, followSteps, hopen.require]
    rcases hclear [m] (by simp) with hfind | hbelow
    · simp [bind, Except.bind, hcurrent, hparent, Nat.not_lt.mpr hlength, hfind]
    · have hrest : tree.followSteps root links (dir ++ [m]) slash (names ++ [n]) =
          .error .notFound := by
        refine ih (fun k hk => hnames k (List.mem_cons_of_mem _ hk)) hbelow ?_
          (by simpa using hnone)
        intro earlier h
        simpa using hclear (m :: earlier) (by simpa using h)
      obtain ⟨d, hd, hkind, -⟩ := hbelow
      rw [hsteps] at hrest
      simp [bind, Except.bind, hcurrent, hparent, Nat.not_lt.mpr hlength, hd, hkind,
        location_of_find? hd, hrest]

/-- A plain path leads nowhere if one of its names but the last is missing. -/
theorem follow_missing (hplain : Plain (names ++ [n])) (hcwd : tree.Open v.cwd)
    (hclear : tree.ClearAlong v.cwd names) (hnone : tree.find? (v.cwd ++ names) = none) :
    tree.follow v.root v.cwd (joinSegments (names ++ [n])) = .error .notFound := by
  have hnames := hplain.isEntry
  rw [follow, if_neg (joinSegments_ne_nil hnames (by simp)), if_neg (Nat.not_lt.mpr hplain.short),
    startOf_joinSegments hnames, stepsOf_joinSegments hnames]
  exact followSteps_missing (fun m hm => ⟨(hnames m hm).isName, hplain.named m hm⟩) hcwd hclear
    hnone _ _

/-! ## Files -/

section Absent

variable (hplain : Plain (names ++ [n])) (hformed : tree.WellFormed) (hcwd : tree.Open v.cwd)
  (hclear : tree.ClearAlong v.cwd names) (hfind : tree.find? (v.cwd ++ names ++ [n]) = none)
include hplain hformed hcwd hclear hfind

/-- A file that is not there cannot be read. -/
theorem readFile_absent :
    tree.readFile v ⟨joinSegments (names ++ [n])⟩ = .error .notFound := by
  cases hdir : tree.find? (v.cwd ++ names) with
  | none =>
    rw [readFile, statAt, lookup, resolve, follow_missing hplain hcwd hclear hdir]
    rfl
  | some d =>
    have hopen := hclear.openAlong hformed (by simp [hdir])
    rw [readFile, statAt, lookup_plain hplain hopen (not_link_of_none hfind), hfind]
    rfl

/-- A file that is not there cannot be removed. -/
theorem unlink_absent : tree.unlink v ⟨joinSegments (names ++ [n])⟩ = .error .notFound := by
  cases hdir : tree.find? (v.cwd ++ names) with
  | none =>
    rw [unlink, follow_missing hplain hcwd hclear hdir]
    rfl
  | some d =>
    have hopen := hclear.openAlong hformed (by simp [hdir])
    rw [unlink, follow_plain hplain hopen]
    simp only [bind, Except.bind, hfind]
    rfl

end Absent

section Present

variable (hplain : Plain (names ++ [n])) (hopen : tree.OpenAlong v.cwd names)
include hplain hopen

/-- A regular file at a plain path is read. -/
theorem readFile_plain {f : File} {content : Bytes}
    (hfind : tree.find? (v.cwd ++ names ++ [n]) = some f) (hkind : f.kind = .regular content)
    (hread : f.permits .read = true) :
    tree.readFile v ⟨joinSegments (names ++ [n])⟩ = .ok content := by
  rw [readFile, statAt, lookup_plain hplain hopen (not_link_of_some hfind (by simp [hkind])), hfind]
  simp [bind, Except.bind, File.require, hread, contentOf, hkind]

/-- A regular file at a plain path is removed. -/
theorem unlink_plain {f : File} {content : Bytes}
    (hfind : tree.find? (v.cwd ++ names ++ [n]) = some f) (hkind : f.kind = .regular content) :
    tree.unlink v ⟨joinSegments (names ++ [n])⟩ = .ok (tree.remove (v.cwd ++ names ++ [n])) := by
  have hisDir : f.isDir = false := by simp [File.isDir, hkind]
  rw [unlink, follow_plain hplain hopen]
  simp only [bind, Except.bind, hfind, (hopen names List.prefix_rfl).require, hisDir,
    location_of_find? hfind]
  rfl

/-- A file is made where there is none. -/
theorem openForWriting_new (hfind : tree.find? (v.cwd ++ names ++ [n]) = none) (empty : Bool) :
    tree.openForWriting v ⟨joinSegments (names ++ [n])⟩ empty =
      .ok (tree.add (v.cwd ++ names ++ [n]) (newFileMode v.mask) (.regular []),
        tree.nextInode) := by
  rw [openForWriting, resolve_plain hplain hopen (not_link_of_none hfind), hfind]
  simp [bind, Except.bind, pure, Except.pure, List.dropLast_append_of_ne_nil,
    (hopen names List.prefix_rfl).require]

/-- A regular file is opened, and its content goes. -/
theorem openForWriting_old {f : File} {old : Bytes}
    (hfind : tree.find? (v.cwd ++ names ++ [n]) = some f) (hkind : f.kind = .regular old)
    (hwrite : f.permits .write = true) :
    tree.openForWriting v ⟨joinSegments (names ++ [n])⟩ true =
      .ok (tree.update f.inode fun f => { f with kind := .regular [] }, f.inode) := by
  have hisDir : f.isDir = false := by simp [File.isDir, hkind]
  rw [openForWriting, resolve_plain hplain hopen (not_link_of_some hfind (by simp [hkind])), hfind]
  simp [bind, Except.bind, pure, Except.pure, hisDir, File.require, hwrite, hkind]

/-- A directory is made where there is nothing. -/
theorem makeDir_plain :
    tree.makeDir v ⟨joinSegments (names ++ [n])⟩ =
      match tree.find? (v.cwd ++ names ++ [n]) with
      | some _ => .error .alreadyExists
      | none => .ok (tree.add (v.cwd ++ names ++ [n]) (newDirMode v.mask) .directory) := by
  obtain ⟨d, hd, -, -⟩ := hopen names List.prefix_rfl
  have hrequire := (hopen names List.prefix_rfl).require .write
  rw [makeDir, make, freeLocation, follow_plain hplain hopen]
  simp only [bind, Except.bind]
  cases hfind : tree.find? (v.cwd ++ names ++ [n]) with
  | none =>
    simp only [hd, hrequire]
    rfl
  | some f => rfl

end Present

/-- A directory is not made where it would lie in none. -/
theorem makeDir_missing (hplain : Plain (names ++ [n])) (hcwd : tree.Open v.cwd)
    (hclear : tree.ClearAlong v.cwd names) (hnone : tree.find? (v.cwd ++ names) = none) :
    tree.makeDir v ⟨joinSegments (names ++ [n])⟩ = .error .notFound := by
  rw [makeDir, make, freeLocation, follow_missing hplain hcwd hclear hnone]
  rfl

end FileTree
end Container
