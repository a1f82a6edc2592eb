import Container.Host.Files
import Container.Proofs.Path.Names

set_option autoImplicit false

/-!
# Where steps lead

A path leads somewhere by its steps, taken one after the other, with every link on the way and at
the end followed. Here this is a relation, in which nothing is said of how many links may be
followed, how long a path may be and who may go through a directory: a host that minds such things
finds less, but it finds nothing else.

## Main definitions

* `FileTree.wholeSteps` — the steps of a path, the slash at its end included.
* `FileTree.Leads` — where steps lead.
* `FileTree.Reaches` — where a path leads.
* `FileTree.WellFormed` — a tree whose files lie in directories.

## Main results

* `FileTree.Leads.eq` — steps lead to one place at most.
* `FileTree.Leads.split`, `FileTree.Leads.append` — steps that come after other steps.
* `FileTree.reaches_of_statAt` — a host finds what is where a path leads.
-/

namespace Container.FileTree

open Container.Path

/-- The step for a slash at the end of a path. It leads nowhere else, but only a directory can be
left by it. -/
def slashStep (slash : Bool) : List Bytes := if slash then [[dot]] else []

/-- The steps of a path, the slash at its end included. -/
def wholeSteps (bs : Bytes) : List Bytes := stepsOf bs ++ slashStep (endsInSlash bs)

/-- What taking a step in a directory comes to, if it does not end the path: the directory from
which to go on, and the steps to be taken before the others. -/
inductive Step (tree : FileTree) (root dir : Location) : Bytes → Location → List Bytes → Prop where
  | current : Step tree root dir [dot] dir []
  | parent : Step tree root dir [dot, dot] (above root dir) []
  | enter {n : Bytes} {f : File} (hn : IsName n) (hfind : tree.find? (dir ++ [n]) = some f)
      (hkind : f.kind = .directory) : Step tree root dir n (dir ++ [n]) []
  | link {n target : Bytes} {f : File} (hn : IsName n) (hfind : tree.find? (dir ++ [n]) = some f)
      (hkind : f.kind = .link target) (htarget : target ≠ []) :
      Step tree root dir n (startOf root dir target) (wholeSteps target)

/-- Where steps lead from a directory, every link followed. -/
inductive Leads (tree : FileTree) (root : Location) : Location → List Bytes → Location → Prop where
  | here (dir : Location) : Leads tree root dir [] dir
  | step {dir next loc : Location} {n : Bytes} {more steps : List Bytes}
      (first : tree.Step root dir n next more) (rest : Leads tree root next (more ++ steps) loc) :
      Leads tree root dir (n :: steps) loc
  /-- A file that is neither a directory nor a link ends a path. -/
  | file {dir : Location} {n : Bytes} {f : File} (hn : IsName n)
      (hfind : tree.find? (dir ++ [n]) = some f) (hdir : f.kind ≠ .directory)
      (hlink : ∀ target, f.kind ≠ .link target) : Leads tree root dir [n] (dir ++ [n])

/-- Where a path leads, as a process sees the tree. -/
def Reaches (tree : FileTree) (v : Viewpoint) (p : Path) (loc : Location) : Prop :=
  p.bytes ≠ [] ∧ tree.Leads v.root (startOf v.root v.cwd p.bytes) (wholeSteps p.bytes) loc

/-- Each file but the top has a name that a path can hold, and lies in a directory. -/
def WellFormed (tree : FileTree) : Prop :=
  ∀ f ∈ tree.files, f.location ≠ [] →
    IsEntry f.name ∧ (tree.find? f.location.dropLast).any File.isDir

instance (tree : FileTree) : Decidable tree.WellFormed :=
  inferInstanceAs (Decidable (∀ f ∈ tree.files, _))

variable {tree : FileTree} {root dir mid loc loc' : Location} {xs ys steps : List Bytes}

/-- A file that is found at a location is there. -/
theorem location_of_find? {f : File} (h : tree.find? loc = some f) : f.location = loc := by
  simpa using List.find?_some h

/-- In a tree whose files lie in directories, there is a directory for each file. -/
theorem WellFormed.parent (h : tree.WellFormed) {n : Bytes} {f : File}
    (hfind : tree.find? (dir ++ [n]) = some f) :
    IsEntry n ∧ ∃ parent, tree.find? dir = some parent ∧ parent.kind = .directory := by
  have hlocation := location_of_find? hfind
  obtain ⟨hname, hparent⟩ := h f (List.mem_of_find?_eq_some hfind) (by simp [hlocation])
  rw [File.name, hlocation, List.getLast?_concat, Option.getD_some] at hname
  rw [hlocation, List.dropLast_concat] at hparent
  cases hfound : tree.find? dir with
  | none => simp [hfound] at hparent
  | some parent =>
    rw [hfound] at hparent
    exact ⟨hname, parent, rfl, by simpa [File.isDir] using hparent⟩

/-! ## Steps one after the other -/

/-- A step comes to one thing only. -/
theorem Step.eq {n : Bytes} {next next' : Location} {more more' : List Bytes}
    (h : tree.Step root dir n next more) (h' : tree.Step root dir n next' more') :
    next = next' ∧ more = more' := by
  cases h with
  | current =>
    cases h' with
    | current => exact ⟨rfl, rfl⟩
    | enter hn' | link hn' => exact absurd rfl hn'.1
  | parent =>
    cases h' with
    | parent => exact ⟨rfl, rfl⟩
    | enter hn' | link hn' => exact absurd rfl hn'.2
  | enter hn hfind hkind =>
    cases h' with
    | current => exact absurd rfl hn.1
    | parent => exact absurd rfl hn.2
    | enter hn' hfind' hkind' => exact ⟨rfl, rfl⟩
    | link hn' hfind' hkind' htarget' =>
      obtain rfl := Option.some.inj (hfind.symm.trans hfind')
      rw [hkind] at hkind'
      cases hkind'
  | link hn hfind hkind htarget =>
    cases h' with
    | current => exact absurd rfl hn.1
    | parent => exact absurd rfl hn.2
    | enter hn' hfind' hkind' =>
      obtain rfl := Option.some.inj (hfind.symm.trans hfind')
      rw [hkind] at hkind'
      cases hkind'
    | link hn' hfind' hkind' htarget' =>
      obtain rfl := Option.some.inj (hfind.symm.trans hfind')
      rw [hkind] at hkind'
      cases hkind'
      exact ⟨rfl, rfl⟩

/-- A step to a name is one to a directory or a link. -/
theorem Step.kind {n : Bytes} {next : Location} {more : List Bytes} {f : File}
    (h : tree.Step root dir n next more) (hn : IsName n)
    (hfind : tree.find? (dir ++ [n]) = some f) :
    f.kind = .directory ∨ ∃ target, f.kind = .link target := by
  cases h with
  | current => exact absurd rfl hn.1
  | parent => exact absurd rfl hn.2
  | enter hn' hfind' hkind =>
    obtain rfl := Option.some.inj (hfind.symm.trans hfind')
    exact .inl hkind
  | link hn' hfind' hkind htarget =>
    obtain rfl := Option.some.inj (hfind.symm.trans hfind')
    exact .inr ⟨_, hkind⟩

/-- **Steps lead to one place** at most. -/
theorem Leads.eq (h : tree.Leads root dir steps loc) (h' : tree.Leads root dir steps loc') :
    loc = loc' := by
  induction h with
  | here dir =>
    cases h'
    rfl
  | step first rest ih =>
    cases h' with
    | step first' rest' =>
      obtain ⟨rfl, rfl⟩ := first.eq first'
      exact ih rest'
    | file hn hfind hdir hlink =>
      rcases first.kind hn hfind with hkind | ⟨target, hkind⟩
      · exact absurd hkind hdir
      · exact absurd hkind (hlink target)
  | file hn hfind hdir hlink =>
    cases h' with
    | step first' rest' =>
      rcases first'.kind hn hfind with hkind | ⟨target, hkind⟩
      · exact absurd hkind hdir
      · exact absurd hkind (hlink target)
    | file hn' hfind' hdir' hlink' => rfl

/-- Steps that come after other steps go on from where these lead. -/
theorem Leads.split (h : tree.Leads root dir (xs ++ ys) loc) :
    ∃ mid, tree.Leads root dir xs mid ∧ tree.Leads root mid ys loc := by
  generalize hsteps : xs ++ ys = steps at h
  induction h generalizing xs with
  | here dir =>
    obtain ⟨rfl, rfl⟩ := List.append_eq_nil_iff.mp hsteps
    exact ⟨dir, .here dir, .here dir⟩
  | @step dir next loc n more steps first rest ih =>
    cases xs with
    | nil =>
      obtain rfl : ys = _ := hsteps
      exact ⟨dir, .here dir, .step first rest⟩
    | cons x xs =>
      obtain ⟨rfl, rfl⟩ := List.cons.inj hsteps
      -- The steps of a link come first, so it is the first part that grows by them.
      obtain ⟨mid, hmid, hrest⟩ := ih (List.append_assoc more xs ys)
      exact ⟨mid, .step first hmid, hrest⟩
  | @file dir n f hn hfind hdir hlink =>
    cases xs with
    | nil =>
      obtain rfl : ys = _ := hsteps
      exact ⟨dir, .here dir, .file hn hfind hdir hlink⟩
    | cons x xs =>
      -- Nothing can follow the file.
      obtain ⟨rfl, hxs⟩ := List.cons.inj hsteps
      obtain ⟨rfl, rfl⟩ := List.append_eq_nil_iff.mp hxs
      exact ⟨_, .file hn hfind hdir hlink, .here _⟩

/-- From a directory that steps lead to, further steps can be taken. -/
theorem Leads.append (h : tree.Leads root dir xs mid)
    (hmid : ∀ f, tree.find? mid = some f → f.kind = .directory)
    (h' : tree.Leads root mid ys loc) : tree.Leads root dir (xs ++ ys) loc := by
  induction h with
  | here dir => exact h'
  | step first rest ih =>
    have hrest := ih hmid h'
    rw [List.append_assoc] at hrest
    exact .step first hrest
  | file hn hfind hdir hlink => exact absurd (hmid _ hfind) hdir

/-- A step to this directory makes no difference where other steps follow. -/
theorem Leads.insert_current (h : tree.Leads root dir (xs ++ ys) loc) (hys : ys ≠ []) :
    tree.Leads root dir (xs ++ [dot] :: ys) loc := by
  generalize hsteps : xs ++ ys = steps at h
  induction h generalizing xs with
  | here dir =>
    obtain ⟨rfl, rfl⟩ := List.append_eq_nil_iff.mp hsteps
    contradiction
  | @step dir next loc n more steps first rest ih =>
    cases xs with
    | nil =>
      obtain rfl : ys = _ := hsteps
      exact .step .current (.step first rest)
    | cons x xs =>
      obtain ⟨rfl, rfl⟩ := List.cons.inj hsteps
      have hrest := ih (List.append_assoc more xs ys)
      rw [List.append_assoc] at hrest
      exact .step first hrest
  | file hn hfind hdir hlink =>
    cases xs with
    | nil =>
      obtain rfl : ys = _ := hsteps
      exact .step .current (.file hn hfind hdir hlink)
    | cons x xs =>
      obtain ⟨rfl, hxs⟩ := List.cons.inj hsteps
      exact absurd (List.append_eq_nil_iff.mp hxs).2 hys

/-- A slash at the end of a path makes no difference where other steps follow. -/
theorem Leads.whole {bs : Bytes} (h : tree.Leads root dir (stepsOf bs ++ ys) loc) (hys : ys ≠ []) :
    tree.Leads root dir (wholeSteps bs ++ ys) loc := by
  unfold wholeSteps slashStep
  split
  · rw [List.append_assoc]
    exact h.insert_current hys
  · rw [List.append_nil]
    exact h

/-- Of two slashes at the end of a path one makes no difference. -/
theorem Leads.whole_slash {bs : Bytes} {slash : Bool}
    (h : tree.Leads root dir (stepsOf bs ++ slashStep (slash || endsInSlash bs)) loc) :
    tree.Leads root dir (wholeSteps bs ++ slashStep slash) loc := by
  cases slash with
  | false =>
    rw [Bool.false_or] at h
    simpa [wholeSteps, slashStep] using h
  | true => exact h.whole (by simp [slashStep])

/-! ## What a host finds -/

/-- The last step of a path as a list of steps. -/
def lastSteps : LastStep → List Bytes
  | .name n => [n]
  | .current => [[dot]]
  | .parent => [[dot, dot]]
  | .root => []

/-- What is known of where all but the last of some steps lead. -/
structure IsFollowed (tree : FileTree) (root dir : Location) (slash : Bool) (steps : List Bytes)
    (followed : Followed) : Prop where
  slash_eq : followed.slash = slash
  isName : ∀ n, followed.last = .name n → IsName n
  /-- With the last step and more, they get to where all the steps lead. -/
  leads : ∀ tail loc, tree.Leads root followed.directory (lastSteps followed.last ++ tail) loc →
    tree.Leads root dir (steps ++ tail) loc

/-- What following the first of several steps comes to: it stays, goes up, enters a directory or
follows a link. -/
theorem followSteps_cases {links : Nat} {slash : Bool} {followed : Followed} {n next : Bytes}
    (h : tree.followSteps root links dir slash (n :: next :: steps) = .ok followed) :
    (n = [dot] ∧ tree.followSteps root links dir slash (next :: steps) = .ok followed) ∨
    (n = [dot, dot] ∧
      tree.followSteps root links (above root dir) slash (next :: steps) = .ok followed) ∨
    (∃ f, IsName n ∧ tree.find? (dir ++ [n]) = some f ∧ f.kind = .directory ∧
      tree.followSteps root links f.location slash (next :: steps) = .ok followed) ∨
    ∃ f target fewer, IsName n ∧ tree.find? (dir ++ [n]) = some f ∧ f.kind = .link target ∧
      target ≠ [] ∧ links = fewer + 1 ∧
      tree.followSteps root fewer (startOf root dir target) slash
        (stepsOf target ++ next :: steps) = .ok followed := by
  unfold followSteps at h
  cases hrequire : tree.require dir .run with
  | error e => simp [hrequire, bind, Except.bind] at h
  | ok =>
    simp only [hrequire, bind, Except.bind] at h
    by_cases hcurrent : n = [dot]
    · rw [if_pos hcurrent] at h
      exact .inl ⟨hcurrent, h⟩
    · rw [if_neg hcurrent] at h
      by_cases hparent : n = [dot, dot]
      · rw [if_pos hparent] at h
        exact .inr (.inl ⟨hparent, h⟩)
      · rw [if_neg hparent] at h
        have hn : IsName n := ⟨hcurrent, hparent⟩
        split at h
        · cases h
        · cases hfind : tree.find? (dir ++ [n]) with
          | none => simp [hfind] at h
          | some f =>
            simp only [hfind] at h
            cases hkind : f.kind with
            | directory =>
              simp only [hkind] at h
              exact .inr (.inr (.inl ⟨f, hn, rfl, hkind, h⟩))
            | link target =>
              simp only [hkind] at h
              cases links with
              | zero => cases h
              | succ fewer =>
                simp only at h
                split at h
                · cases h
                · rename_i htarget
                  exact .inr (.inr (.inr ⟨f, target, fewer, hn, rfl, hkind, htarget, rfl, h⟩))
            | _ => simp [hkind] at h

/-- What following the last step comes to: the step is noted. -/
theorem followSteps_last {links : Nat} {slash : Bool} {followed : Followed} {n : Bytes}
    (h : tree.followSteps root links dir slash [n] = .ok followed) :
    ∃ last, followed = ⟨dir, last, slash⟩ ∧ lastSteps last = [n] ∧
      ∀ m, last = .name m → IsName m := by
  unfold followSteps at h
  cases hrequire : tree.require dir .run with
  | error e => simp [hrequire, bind, Except.bind] at h
  | ok =>
    simp only [hrequire, bind, Except.bind] at h
    by_cases hcurrent : n = [dot]
    · rw [if_pos hcurrent] at h
      cases h
      exact ⟨.current, rfl, by rw [hcurrent, lastSteps], nofun⟩
    · rw [if_neg hcurrent] at h
      by_cases hparent : n = [dot, dot]
      · rw [if_pos hparent] at h
        cases h
        exact ⟨.parent, rfl, by rw [hparent, lastSteps], nofun⟩
      · rw [if_neg hparent] at h
        split at h
        · cases h
        · cases h
          refine ⟨.name n, rfl, rfl, ?_⟩
          intro m hm
          cases hm
          exact ⟨hcurrent, hparent⟩

/-- **Following all but the last step** gets to where the steps lead.

**Proof sketch.** By induction on how the steps are followed. The steps of a link are followed
without the slash that may end it, which makes no difference since other steps follow. -/
theorem isFollowed_of_followSteps {links : Nat} {slash : Bool} {followed : Followed}
    (h : tree.followSteps root links dir slash steps = .ok followed) :
    IsFollowed tree root dir slash steps followed := by
  induction links, dir, steps using followSteps.induct root with
  | case1 links dir =>
    unfold followSteps at h
    cases h
    exact ⟨rfl, nofun, fun tail loc hrest => hrest⟩
  | case2 links dir n =>
    obtain ⟨last, rfl, hlast, hname⟩ := followSteps_last h
    refine ⟨rfl, hname, fun tail loc hrest => ?_⟩
    rw [hlast] at hrest
    exact hrest
  | case3 links dir n next steps ihCurrent ihParent ihEnter ihLink =>
    rcases followSteps_cases h with ⟨rfl, hnext⟩ | ⟨rfl, hnext⟩ | ⟨f, hn, hfind, hkind, hnext⟩ |
      ⟨f, target, fewer, hn, hfind, hkind, htarget, rfl, hnext⟩
    · obtain ⟨hslash, hname, hleads⟩ := ihCurrent hnext
      exact ⟨hslash, hname, fun tail loc hrest => .step .current (hleads tail loc hrest)⟩
    · obtain ⟨hslash, hname, hleads⟩ := ihParent hnext
      exact ⟨hslash, hname, fun tail loc hrest => .step .parent (hleads tail loc hrest)⟩
    · obtain ⟨hslash, hname, hleads⟩ := ihEnter f hnext
      rw [location_of_find? hfind] at hleads
      exact ⟨hslash, hname, fun tail loc hrest =>
        .step (.enter hn hfind hkind) (hleads tail loc hrest)⟩
    · obtain ⟨hslash, hname, hleads⟩ := ihLink target hnext
      refine ⟨hslash, hname, fun tail loc hrest => .step (.link hn hfind hkind htarget) ?_⟩
      have hrest' := hleads tail loc hrest
      rw [List.append_assoc] at hrest'
      exact hrest'.whole (by simp)

/-- The file at a location is where no further step leads. -/
theorem leads_of_fileAt {f : File} (h : tree.fileAt loc = .ok (.file f)) (slash : Bool) :
    tree.Leads root loc (slashStep slash) f.location := by
  unfold fileAt at h
  cases hfind : tree.find? loc with
  | none => simp [hfind] at h
  | some found =>
    simp only [hfind, Except.ok.injEq, Resolved.file.injEq] at h
    subst h
    rw [location_of_find? hfind]
    cases slash with
    | true => exact .step .current (.here loc)
    | false => exact .here loc

/-- What is found by the last step of a path is where the path leads. -/
theorem leads_of_lastStep {links : Nat} {followed : Followed} {f : File}
    (hname : ∀ n, followed.last = .name n → IsName n)
    (h : tree.lastStep root true links followed = .ok (.file f)) :
    tree.Leads root followed.directory (lastSteps followed.last ++ slashStep followed.slash)
      f.location := by
  fun_induction lastStep tree root true links followed with
  | case1 links dir slash => exact leads_of_fileAt h slash
  | case2 links dir slash => exact .step .current (leads_of_fileAt h slash)
  | case3 links dir slash => exact .step .parent (leads_of_fileAt h slash)
  | case6 links dir slash n found hfind hkind =>
    cases h
    refine .step (.enter (hname n rfl) hfind hkind) ?_
    rw [location_of_find? hfind]
    cases slash with
    | true => exact .step .current (.here _)
    | false => exact .here _
  | case9 dir slash n found hfind target hkind hthrough links htarget ih =>
    cases hfollow : tree.followSteps root links (startOf root dir target)
        (slash || endsInSlash target) (stepsOf target) with
    | error e => simp [hfollow, bind, Except.bind] at h
    | ok followed =>
      simp only [hfollow, bind, Except.bind] at h
      obtain ⟨hslash, hname', hleads⟩ := isFollowed_of_followSteps hfollow
      have hrest := hleads _ _ (ih followed hname' h)
      rw [hslash] at hrest
      exact .step (.link (hname n rfl) hfind hkind htarget) hrest.whole_slash
  | case10 links dir slash n found hfind target hkind hthrough => simp at hthrough
  | case12 links dir slash n found hfind hslash hdir hlink =>
    cases h
    obtain rfl : slash = false := by simpa using hslash
    rw [location_of_find? hfind]
    exact .file (hname n rfl) hfind hdir hlink
  | _ => cases h

/-- **A host finds what is where a path leads.** -/
theorem reaches_of_statAt {v : Viewpoint} {p : Path} {f : File} (h : tree.statAt v p = .ok f) :
    tree.Reaches v p f.location := by
  unfold statAt lookup resolve follow at h
  by_cases hempty : p.bytes = []
  · simp [hempty, bind, Except.bind] at h
  · rw [if_neg hempty] at h
    by_cases hlong : pathLimit < p.bytes.length
    · simp [hlong, bind, Except.bind] at h
    · rw [if_neg hlong] at h
      cases hfollow : tree.followSteps v.root linkLimit (startOf v.root v.cwd p.bytes)
          (endsInSlash p.bytes) (stepsOf p.bytes) with
      | error e => simp [hfollow, bind, Except.bind] at h
      | ok followed =>
        simp only [hfollow, bind, Except.bind] at h
        obtain ⟨hslash, hname, hleads⟩ := isFollowed_of_followSteps hfollow
        cases hlast : tree.lastStep v.root true linkLimit followed with
        | error e => simp [hlast] at h
        | ok resolved =>
          simp only [hlast] at h
          cases resolved with
          | free location slash => cases h
          | file found =>
            cases h
            have hrest := hleads _ _ (leads_of_lastStep hname hlast)
            rw [hslash] at hrest
            exact ⟨hempty, hrest⟩

end Container.FileTree
