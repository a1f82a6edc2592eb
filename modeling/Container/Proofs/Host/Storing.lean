import Container.Proofs.Host.Tending
import Container.Proofs.Host.Upkeep
import Container.Proofs.Path.Components

set_option autoImplicit false

/-!
# Calls that store files

To say what becomes of files that are kept below a directory, it is enough to know how they are
written, read and removed there, and how the directories are made in which they lie. This module
says what is asked of a system, and that a host in memory does it where nothing is refused.

## Main definitions

* `Shelf` — what is at the places below a directory.
* `StoresFiles` — how a system makes, reads and removes files below a directory.
* `Host.Unhindered` — a host on which no file below a directory is refused.

## Main results

* `Host.storesFiles` — such a host stores files.
-/

namespace Container

open Path FileTree

/-! ## Below a directory -/

/-- What is at a place. -/
inductive Stored where
  | directory
  | file (content : Bytes)
  | other
  deriving DecidableEq

/-- What is at the places below a directory, by the names that lead there. -/
abbrev Shelf := List Bytes → Option Stored

namespace Shelf

/-- As far as there is anything on the way to a place and at it, it is a directory. -/
def Clear (shelf : Shelf) (dir : List Bytes) : Prop :=
  ∀ place, place <+: dir → shelf place = none ∨ shelf place = some .directory

/-- What is there once a directory has been made, and all it lies in. -/
def withDirs (dir : List Bytes) (shelf : Shelf) : Shelf := fun place =>
  if place <+: dir then some .directory else shelf place

end Shelf

variable {σ : Type}

/-- A name in a directory at which no call fails but for what is there. -/
structure Reachable (shelf : σ → Shelf) (calm : σ → Prop) (takes : List Bytes → Prop) (s : σ)
    (dir : List Bytes) (n : Bytes) : Prop where
  calm : calm s
  proper : ∀ m ∈ dir ++ [n], IsEntry m ∧ 0 ∉ m
  taken : takes (dir ++ [n])
  clear : (shelf s).Clear dir

/-- How a system stores files below a directory in a calm world, in which no call on a place that it
takes is refused: a call fails only for what is where. -/
structure StoresFiles (sys : System σ) (root : Path) (shelf : σ → Shelf) (calm : σ → Prop)
    (takes : List Bytes → Prop) : Prop where
  log : ∀ event s, calm s → Gives shelf calm (sys.log event) s () (shelf s)
  /-- The directory in which a file is to lie is made. -/
  makesDirs : ∀ s dir n parent, Reachable shelf calm takes s dir n →
    (root.down (dir ++ [n])).parent? = some parent →
      Gives shelf calm (sys.makeDirs parent) s (.ok ()) ((shelf s).withDirs dir)
  /-- A file is written in a directory, in place of the one that is there. -/
  writes : ∀ s dir n content, Reachable shelf calm takes s dir n →
    shelf s dir = some .directory →
      (∀ stored, shelf s (dir ++ [n]) = some stored → ∃ old, stored = .file old) →
        Gives shelf calm (sys.writeFile (root.down (dir ++ [n])) content) s (.ok ())
          (Function.update (shelf s) (dir ++ [n]) (some (.file content)))
  /-- A file is read. -/
  reads : ∀ s dir n content, Reachable shelf calm takes s dir n →
    shelf s (dir ++ [n]) = some (.file content) →
      Gives shelf calm (sys.readFile (root.down (dir ++ [n]))) s (.ok content) (shelf s)
  /-- What is not there is not read. -/
  readsNothing : ∀ s dir n, Reachable shelf calm takes s dir n → shelf s (dir ++ [n]) = none →
    ∃ fault, Gives shelf calm (sys.readFile (root.down (dir ++ [n]))) s (.error fault) (shelf s)
  /-- A file is removed. -/
  removes : ∀ s dir n content, Reachable shelf calm takes s dir n →
    shelf s (dir ++ [n]) = some (.file content) →
      Gives shelf calm (sys.removeFile (root.down (dir ++ [n]))) s (.ok ())
        (Function.update (shelf s) (dir ++ [n]) none)
  /-- What is not there is not removed. -/
  removesNothing : ∀ s dir n, Reachable shelf calm takes s dir n → shelf s (dir ++ [n]) = none →
    ∃ fault, Gives shelf calm (sys.removeFile (root.down (dir ++ [n]))) s (.error fault) (shelf s)

/-! ## Paths below a directory -/

/-- The components of a path with names joined to it. -/
theorem Path.components_down (p : Path) {names : List Bytes} (hnames : ∀ n ∈ names, IsEntry n) :
    (p.down names).components = p.components ++ names.map .name := by
  induction names using List.reverseRecOn with
  | nil => simp
  | append_singleton names n ih =>
    have hn : ∀ m ∈ [n], IsEntry m := fun m hm => hnames m (List.mem_append_right _ hm)
    have hone : components ⟨n⟩ = [.name n] := components_joinSegments hn (by simp)
    have hrelative : isAbsolute ⟨n⟩ = false := isAbsolute_joinSegments hn
    rw [down_concat, components_join _ hrelative (by simp [hone]), hone,
      ih fun m hm => hnames m (by simp [hm])]
    simp

/-- The path above one with names joined to it. -/
theorem Path.parent?_down (p : Path) {names : List Bytes} {n : Bytes}
    (hnames : ∀ m ∈ names ++ [n], IsEntry m) :
    (p.down (names ++ [n])).parent? = some (ofComponents (p.components ++ names.map .name)) := by
  refine parent?_of_components (n := n) ?_
  rw [components_down p hnames, List.map_append, List.map_singleton, List.append_assoc]

/-! ## A host that stores files -/

namespace Host

/-- What a file counts as. -/
def stored : FileKind → Stored
  | .directory => .directory
  | .regular content => .file content
  | _ => .other

/-- What is at the places below a directory of a host. -/
def shelf (v : Viewpoint) (base : List Bytes) (host : Host) : Shelf := fun names =>
  (host.tree.find? (v.cwd ++ base ++ names)).map fun f => stored f.kind

/-- A host on which no file is refused below a directory, which may still be missing: the files are
sound, and nothing but directories is on the way. -/
structure Unhindered (v : Viewpoint) (base : List Bytes) (host : Host) : Prop where
  view : host.view = v
  sound : host.tree.Sound
  cwd : host.tree.Open v.cwd
  clear : host.tree.ClearAlong v.cwd base

variable {v : Viewpoint} {base : List Bytes} {host : Host} {dir : List Bytes} {n : Bytes}
  {content : Bytes}

/-- What making directories on a host comes to. -/
theorem run_makeDirs {p : Path} (hnul : p.hasNul = false) (host : Host) :
    (Host.system .whole).makeDirs p host =
      (asFault (host.tree.makeDirs host.view p).2,
        { host with tree := (host.tree.makeDirs host.view p).1 }) :=
  run_withPath hnul _ host

/-- What reading a file on a host comes to. -/
theorem run_readFile {p : Path} (hnul : p.hasNul = false) (host : Host) :
    (Host.system .whole).readFile p host = (asFault (host.tree.readFile host.view p), host) :=
  run_withPath hnul _ host

/-- What removing a file on a host comes to. -/
theorem run_removeFile {p : Path} (hnul : p.hasNul = false) (host : Host) :
    (Host.system .whole).removeFile p host =
      match host.tree.unlink host.view p with
      | .ok tree => (.ok (), { host with tree })
      | .error e => (.error (.os e), host) := by
  refine (run_withPath hnul _ host).trans ?_
  rw [run_changeSeen]
  cases host.tree.unlink host.view p <;> rfl

/-- Writing nothing to a file leaves it as it is. -/
theorem append_nil (tree : FileTree) (inode : Nat) : tree.append inode [] = tree := by
  have hfiles : (tree.append inode []).files = tree.files := by
    refine (List.map_congr_left fun f _ => ?_).trans (List.map_id _)
    obtain ⟨location, number, mode, kind⟩ := f
    cases kind <;> simp
  show (⟨(tree.append inode []).files, tree.nextInode⟩ : FileTree) = tree
  rw [hfiles]

/-- What writing a file on a host comes to, once it was opened. -/
theorem run_writeFile {p : Path} (hnul : p.hasNul = false) {tree : FileTree} {inode : Nat}
    (hopen : host.tree.openForWriting host.view p true = .ok (tree, inode)) (content : Bytes) :
    (Host.system .whole).writeFile p content host =
      (.ok (), { host with tree := tree.append inode content }) := by
  have hopened : openOutput host.view p true host = (.ok (.file inode), { host with tree }) := by
    rw [openOutput, hopen]
  have hrun : writeFile p content host =
      (.ok (), (write (.file inode) content { host with tree }).2) := by
    unfold Host.writeFile
    simp only [bind, StateT.bind, get, getThe, MonadStateOf.get, StateT.get, pure, hopened]
    rfl
  refine (run_withPath hnul _ host).trans ?_
  rw [hrun]
  cases content with
  | nil =>
    rw [append_nil]
    rfl
  | cons b bs => rfl

variable {names : List Bytes}

theorem shelf_eq_none :
    host.shelf v base names = none ↔ host.tree.find? (v.cwd ++ base ++ names) = none := by
  simp [shelf]

theorem shelf_eq_directory :
    host.shelf v base names = some .directory ↔ host.tree.IsDirAt (v.cwd ++ base ++ names) := by
  unfold shelf IsDirAt
  rw [Option.map_eq_some_iff]
  refine exists_congr fun f => and_congr_right fun _ => ?_
  cases f.kind <;> simp [stored]

theorem shelf_eq_file : host.shelf v base names = some (.file content) ↔
    ∃ f, host.tree.find? (v.cwd ++ base ++ names) = some f ∧ f.kind = .regular content := by
  unfold shelf
  rw [Option.map_eq_some_iff]
  refine exists_congr fun f => and_congr_right fun _ => ?_
  cases f.kind <;> simp [stored]

namespace Unhindered

variable (h : host.Unhindered v base)
include h

/-- Nothing but directories is on the way to a place, as far as there is anything. -/
theorem clearAlong (hclear : (host.shelf v base).Clear dir) :
    host.tree.ClearAlong v.cwd (base ++ dir) := by
  intro earlier hearlier
  rcases List.prefix_or_prefix_of_prefix hearlier (List.prefix_append base dir) with hbase | hbelow
  · exact h.clear earlier hbase
  · obtain ⟨later, rfl⟩ := hbelow
    have hlater := (List.prefix_append_right_inj base).mp hearlier
    rw [← List.append_assoc]
    exact (hclear later hlater).imp shelf_eq_none.mp fun hdirectory =>
      h.sound.open_of_isDirAt (shelf_eq_directory.mp hdirectory)

/-- What changes at a place below the directory is all that changes. -/
theorem change {tree' : FileTree} (hsound : tree'.Sound) {found : Option File}
    (hfind : ∀ other, tree'.find? other =
      if other = v.cwd ++ (base ++ dir) ++ [n] then found else host.tree.find? other) :
    Unhindered v base { host with tree := tree' } ∧
      shelf v base { host with tree := tree' } =
        Function.update (host.shelf v base) (dir ++ [n]) (found.map fun f => stored f.kind) := by
  have hplace : v.cwd ++ (base ++ dir) ++ [n] = v.cwd ++ base ++ (dir ++ [n]) := by simp
  rw [hplace] at hfind
  have hsame : ∀ place, place <+: v.cwd ++ base → tree'.find? place = host.tree.find? place := by
    intro place hprefix
    have hother : place ≠ v.cwd ++ base ++ (dir ++ [n]) := by
      rintro rfl
      have hlength := hprefix.length_le
      simp only [List.length_append, List.length_singleton] at hlength
      omega
    rw [hfind, if_neg hother]
  refine ⟨⟨h.view, hsound, ?_, ?_⟩, ?_⟩
  · obtain ⟨d, hd, hopen⟩ := h.cwd
    exact ⟨d, by rw [hsame _ (List.prefix_append _ _), hd], hopen⟩
  · intro earlier hearlier
    have hkept := hsame _ ((List.prefix_append_right_inj v.cwd).mpr hearlier)
    rcases h.clear earlier hearlier with hnone | ⟨d, hd, hopen⟩
    · exact .inl (hkept.trans hnone)
    · exact .inr ⟨d, hkept.trans hd, hopen⟩
  · funext place
    unfold shelf
    rw [hfind, Function.update_apply]
    simp only [List.append_cancel_left_eq]
    split <;> rfl

/-- Directories that are made on the way to a place below the directory are all that changes. -/
theorem make {tree' : FileTree} (hmade : host.tree.Made v.cwd (base ++ dir) tree') :
    Unhindered v base { host with tree := tree' } ∧
      shelf v base { host with tree := tree' } = (host.shelf v base).withDirs dir := by
  refine ⟨⟨h.view, hmade.sound, ?_, ?_⟩, ?_⟩
  · simpa using hmade.along [] List.nil_prefix
  · exact fun earlier hearlier =>
      .inr (hmade.along earlier (hearlier.trans (List.prefix_append _ _)))
  · funext place
    unfold Shelf.withDirs
    split
    · rename_i hplace
      obtain ⟨d, hd, hkind, -⟩ := hmade.along (base ++ place)
        ((List.prefix_append_right_inj base).mpr hplace)
      rw [← List.append_assoc] at hd
      exact shelf_eq_directory.mpr ⟨d, hd, hkind⟩
    · rename_i hplace
      unfold shelf
      rw [hmade.others]
      intro earlier hearlier hsame
      rw [List.append_assoc] at hsame
      rw [← List.append_cancel_left hsame] at hearlier
      exact hplace ((List.prefix_append_right_inj base).mp hearlier)

end Unhindered

/-- What a place that can be reached is on a host: a plain path, the way to which is clear. -/
theorem way_of_reachable (h : Reachable (shelf v base) (Unhindered v base)
      (fun names => Plain (base ++ names)) host dir n) :
    (⟨joinSegments base⟩ : Path).down (dir ++ [n]) = ⟨joinSegments (base ++ dir ++ [n])⟩ ∧
      Plain (base ++ dir ++ [n]) ∧ host.tree.ClearAlong v.cwd (base ++ dir) ∧
      v.cwd ++ base ++ (dir ++ [n]) = v.cwd ++ (base ++ dir) ++ [n] := by
  have hplain : Plain (base ++ dir ++ [n]) := by simpa using h.taken
  refine ⟨?_, hplain, h.calm.clearAlong h.clear, by simp⟩
  rw [down_joinSegments (by simpa using hplain.isEntry), ← List.append_assoc]

/-- **A host stores files** below a directory, as long as nothing is refused there. -/
theorem storesFiles (v : Viewpoint) (hmask : v.mask = usualMask) (base : List Bytes) :
    StoresFiles (Host.system .whole) ⟨joinSegments base⟩ (shelf v base) (Unhindered v base)
      fun names => Plain (base ++ names) where
  log event host h := ⟨_, rfl, ⟨h.view, h.sound, h.cwd, h.clear⟩, rfl⟩
  makesDirs host dir n parent hreach hparent := by
    obtain ⟨hpath, hplain, hclear, -⟩ := way_of_reachable hreach
    have h := hreach.calm
    rw [hpath, parent?_joinSegments hplain.isEntry] at hparent
    obtain rfl := Option.some.inj hparent
    obtain ⟨tree', hrun, hmade⟩ := makeDirs_plain hmask h.sound h.cwd hplain.before hclear
    obtain ⟨hcalm, hshelf⟩ := h.make hmade
    refine ⟨_, ?_, hcalm, hshelf⟩
    rw [run_makeDirs hplain.before.hasNul, h.view, hrun]
    rfl
  writes host dir n content hreach hdirectory hold := by
    obtain ⟨hpath, hplain, hclear, hplace⟩ := way_of_reachable hreach
    have h := hreach.calm
    have hdir := shelf_eq_directory.mp hdirectory
    rw [List.append_assoc] at hdir
    have hopen : host.tree.OpenAlong v.cwd (base ++ dir) := by
      obtain ⟨d, hd, -⟩ := hdir
      exact hclear.openAlong h.sound.formed (by simp [hd])
    rw [hpath]
    cases hshelf : host.shelf v base (dir ++ [n]) with
    | none =>
      have hfree := shelf_eq_none.mp hshelf
      rw [hplace] at hfree
      have hopened := openForWriting_new hplain hopen hfree true
      rw [← h.view] at hopened
      have hsound := h.sound.add (newFileMode usualMask) (.regular content)
        (hplain.isEntry n (by simp)) hdir hfree nofun fun _ _ => ⟨rfl, rfl⟩
      obtain ⟨hcalm, hafter⟩ := h.change hsound (find?_add hfree _ _)
      refine ⟨_, ?_, hcalm, hafter⟩
      rw [run_writeFile hplain.hasNul hopened, h.view, hmask, h.sound.append_add]
    | some stored =>
      obtain ⟨old, rfl⟩ := hold stored hshelf
      obtain ⟨f, hf, hkind⟩ := shelf_eq_file.mp hshelf
      rw [hplace] at hf
      have hwrite := (h.sound.regular f (List.mem_of_find?_eq_some hf) old hkind).2
      have hopened := openForWriting_old hplain hopen hf hkind hwrite
      rw [← h.view] at hopened
      obtain ⟨hcalm, hafter⟩ := h.change (h.sound.rewrite hf hkind content)
        (h.sound.find?_rewrite hf content)
      refine ⟨_, ?_, hcalm, hafter⟩
      rw [run_writeFile hplain.hasNul hopened]
      exact congrArg (fun tree => (Except.ok (), { host with tree }))
        (append_update host.tree f.inode content)
  reads host dir n content hreach hfile := by
    obtain ⟨hpath, hplain, hclear, hplace⟩ := way_of_reachable hreach
    have h := hreach.calm
    obtain ⟨f, hf, hkind⟩ := shelf_eq_file.mp hfile
    rw [hplace] at hf
    obtain ⟨d, hd, -⟩ := h.sound.formed.isDirAt (by simp) hf
    have hread := (h.sound.regular f (List.mem_of_find?_eq_some hf) content hkind).1
    refine ⟨host, ?_, h, rfl⟩
    rw [hpath, run_readFile hplain.hasNul, h.view,
      readFile_plain hplain (hclear.openAlong h.sound.formed (by simp [hd])) hf hkind hread]
    rfl
  readsNothing host dir n hreach hnone := by
    obtain ⟨hpath, hplain, hclear, hplace⟩ := way_of_reachable hreach
    have h := hreach.calm
    have hfree := shelf_eq_none.mp hnone
    rw [hplace] at hfree
    refine ⟨.os .notFound, host, ?_, h, rfl⟩
    rw [hpath, run_readFile hplain.hasNul, h.view,
      readFile_absent hplain h.sound.formed h.cwd hclear hfree]
    rfl
  removes host dir n content hreach hfile := by
    obtain ⟨hpath, hplain, hclear, hplace⟩ := way_of_reachable hreach
    have h := hreach.calm
    obtain ⟨f, hf, hkind⟩ := shelf_eq_file.mp hfile
    rw [hplace] at hf
    obtain ⟨d, hd, -⟩ := h.sound.formed.isDirAt (by simp) hf
    obtain ⟨hcalm, hafter⟩ := h.change (h.sound.remove hf hkind) (find?_remove host.tree _)
    refine ⟨_, ?_, hcalm, hafter⟩
    rw [hpath, run_removeFile hplain.hasNul, h.view,
      unlink_plain hplain (hclear.openAlong h.sound.formed (by simp [hd])) hf hkind]
  removesNothing host dir n hreach hnone := by
    obtain ⟨hpath, hplain, hclear, hplace⟩ := way_of_reachable hreach
    have h := hreach.calm
    have hfree := shelf_eq_none.mp hnone
    rw [hplace] at hfree
    refine ⟨.os .notFound, host, ?_, h, rfl⟩
    rw [hpath, run_removeFile hplain.hasNul, h.view,
      unlink_absent hplain h.sound.formed h.cwd hclear hfree]

end Host
end Container
