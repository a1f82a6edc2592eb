import Container.Host.Calls
import Container.Proofs.Host.Gone
import Container.Proofs.Series

set_option autoImplicit false

/-!
# Calls on a disk

A host answers a call on a path from its tree of files as it sees it. What a call does to the rest
of a state that holds the host is nothing, so what is known of trees is known of such states.

## Main definitions

* `Host.SameDisk`, `Host.LeavesDisk` — the disk of a host is as it was.
* `Host.Lost` — the disk of a host has only lost files, where that is allowed.
* `Host.Takes` — what a call comes to that removes one file.

## Main results

* `Host.takes_removeFile`, `Host.takes_removeDir` — two such calls.
* `Host.Takes.lost`, `Host.Takes.lacks` — what is lost by one, and what is left at its path.
* `Host.lost_removeTree`, `Host.lacks_removeTree` — the same of a call that removes a tree.
-/

namespace Container.Host

open FileTree

variable {σ α β : Type} {place : Slot σ Host} {before : Host} {allowed : Location → Prop} {p : Path}
  {isDir : Bool} {s s' s'' : σ}

/-! ## Disks -/

/-- The disk of a host is the same in two states: its files, and how it sees them. -/
structure SameDisk (place : Slot σ Host) (s s' : σ) : Prop where
  tree : (place.get s').tree = (place.get s).tree
  view : (place.get s').view = (place.get s).view

theorem SameDisk.refl (place : Slot σ Host) (s : σ) : SameDisk place s s := ⟨rfl, rfl⟩

theorem SameDisk.trans (h : SameDisk place s s') (h' : SameDisk place s' s'') :
    SameDisk place s s'' :=
  ⟨h'.tree.trans h.tree, h'.view.trans h.view⟩

/-- What a computation does, it does not do to the disk. -/
def LeavesDisk (place : Slot σ Host) (act : Act σ α) : Prop := ∀ s, SameDisk place s (act s).2

/-- The disk is seen as before, and has lost files at places where that is allowed. -/
structure Lost (place : Slot σ Host) (before : Host) (allowed : Location → Prop) (s : σ) :
    Prop where
  view : (place.get s).view = before.view
  loses : Loses allowed before.tree (place.get s).tree

theorem Lost.start (place : Slot σ Host) (allowed : Location → Prop) (s : σ) :
    Lost place (place.get s) allowed s :=
  ⟨rfl, .refl _ _⟩

theorem Lost.of_sameDisk (h : Lost place before allowed s) (hsame : SameDisk place s s') :
    Lost place before allowed s' :=
  ⟨hsame.view.trans h.view, hsame.tree ▸ h.loses⟩

/-- What leaves the disk alone loses nothing. -/
theorem LeavesDisk.preserves {act : Act σ α} (h : LeavesDisk place act) :
    Act.Preserves (Lost place before allowed) act := fun s hs => hs.of_sameDisk (h s)

/-- A report leaves the disk alone. -/
theorem sameDisk_report (place : Slot σ Host) (level : Level) (source : LogSource)
    (message : String) (values : List (String × LogValue)) (s : σ) :
    SameDisk place s ((Host.system place).report level source message values s).2 := by
  have hget : place.get ((Host.system place).report level source message values s).2 =
      { place.get s with
        output := (place.get s).output.push (.event ⟨level, source, message, values⟩) } :=
    place.get_set _ _
  exact ⟨by rw [hget], by rw [hget]⟩

/-! ## Questions -/

/-- What asking something about a path comes to. The state stays as it is. -/
theorem run_ask (p : Path) (question : FileTree → Viewpoint → Except Errno α) (s : σ) :
    place.run (withPath p (ask question)) s =
      (if p.hasNul then .error .nulInFileName
        else asFault (question (place.get s).tree (place.get s).view), s) := by
  rw [Slot.run_eq]
  unfold withPath
  by_cases hnul : p.hasNul
  · simp only [if_pos hnul, Act.pure_apply, place.set_get]
  · simp only [if_neg hnul]
    exact Prod.ext rfl (place.set_get s)

/-- What listing a directory comes to. -/
theorem listDir_eq (p : Path) (s : σ) :
    (Host.system place).listDir p s =
      (if p.hasNul then .error .nulInFileName
        else asFault ((·.map fun f => .ok ⟨f.name, f.isDir⟩) <$>
          (place.get s).tree.list (place.get s).view p), s) :=
  run_ask p _ s

/-- What looking at what a path leads to comes to. -/
theorem stat_eq (p : Path) (s : σ) :
    (Host.system place).stat p s =
      (if p.hasNul then .error .nulInFileName
        else asFault (infoOf <$> (place.get s).tree.statAt (place.get s).view p), s) :=
  run_ask p _ s

/-- What looking at a path comes to, a link counting as itself. -/
theorem linkStat_eq (p : Path) (s : σ) :
    (Host.system place).linkStat p s =
      (if p.hasNul then .error .nulInFileName
        else asFault (infoOf <$> (place.get s).tree.linkStatAt (place.get s).view p), s) :=
  run_ask p _ s

/-- What is not found could be asked for. -/
theorem eq_notFound_of_ask {question : Except Errno α} {answer : α → β} {fault : IoFault}
    (h : (if p.hasNul then .error .nulInFileName else asFault (answer <$> question)) =
      .error fault) (hfault : fault.isNotFound) :
    p.hasNul = false ∧ question = .error .notFound := by
  obtain rfl : fault = .os .notFound := by simpa [IoFault.isNotFound] using hfault
  split at h
  · cases h
  · rename_i hnul
    refine ⟨by simpa using hnul, ?_⟩
    cases question with
    | ok a => cases h
    | error e =>
      cases h
      rfl

/-- What is answered was found. -/
theorem exists_of_ask {question : Except Errno α} {answer : α → β} {b : β}
    (h : (if p.hasNul then .error .nulInFileName else asFault (answer <$> question)) = .ok b) :
    p.hasNul = false ∧ ∃ a, question = .ok a ∧ b = answer a := by
  split at h
  · cases h
  · rename_i hnul
    refine ⟨by simpa using hnul, ?_⟩
    cases question with
    | ok a =>
      cases h
      exact ⟨a, rfl, rfl⟩
    | error e => cases h

/-! ## Removing a file -/

/-- What a call comes to that removes a directory or removes another file, as `isDir` says. Either
it removes what has the name at the end of the path, or it does nothing. -/
inductive Takes (place : Slot σ Host) (p : Path) (isDir : Bool) (s : σ) :
    Except IoFault Unit × σ → Prop where
  | gone {f : File} {tree : FileTree} (hnul : p.hasNul = false) (hkind : f.isDir = isDir)
      (h : (place.get s).tree.Removes (place.get s).view p f tree) :
      Takes place p isDir s (.ok (), place.set { place.get s with tree } s)
  | refused {fault : IoFault} (h : fault.isNotFound →
      p.hasNul = false ∧ (place.get s).tree.Lacks (place.get s).view p) :
      Takes place p isDir s (.error fault, s)

/-- What a call comes to that changes the tree or does not. -/
theorem run_change (p : Path) (call : FileTree → Viewpoint → Except Errno FileTree) (s : σ) :
    place.run (withPath p (changeSeen call)) s =
      if p.hasNul then (.error .nulInFileName, s)
      else match call (place.get s).tree (place.get s).view with
        | .ok tree => (.ok (), place.set { place.get s with tree } s)
        | .error e => (.error (.os e), s) := by
  rw [Slot.run_eq]
  unfold withPath
  by_cases hnul : p.hasNul
  · simp only [if_pos hnul, Act.pure_apply, place.set_get]
  · cases hcall : call (place.get s).tree (place.get s).view with
    | ok tree =>
      have hrun : changeSeen call (place.get s) = (.ok (), { place.get s with tree }) := by
        rw [run_changeSeen, hcall]
      simp only [if_neg hnul, bind, StateT.bind, hrun]
      rfl
    | error e =>
      have hrun : changeSeen call (place.get s) = (.error e, place.get s) := by
        rw [run_changeSeen, hcall]
      simp only [if_neg hnul, bind, StateT.bind, hrun]
      exact Prod.ext rfl (place.set_get s)

/-- A call that changes the tree removes a file if what it makes of a tree is so. -/
theorem takes_changeSeen {call : FileTree → Viewpoint → Except Errno FileTree}
    (hok : ∀ tree, call (place.get s).tree (place.get s).view = .ok tree →
      ∃ f : File, f.isDir = isDir ∧ (place.get s).tree.Removes (place.get s).view p f tree)
    (hmissing : call (place.get s).tree (place.get s).view = .error .notFound →
      (place.get s).tree.Lacks (place.get s).view p) :
    Takes place p isDir s (place.run (withPath p (changeSeen call)) s) := by
  rw [run_change]
  split
  · exact .refused fun hfault => by cases hfault
  · rename_i hnul
    have hnul : p.hasNul = false := by simpa using hnul
    cases hcall : call (place.get s).tree (place.get s).view with
    | ok tree =>
      obtain ⟨f, hkind, hremoves⟩ := hok tree hcall
      exact .gone hnul hkind hremoves
    | error e =>
      refine .refused fun hfault => ⟨hnul, hmissing ?_⟩
      obtain rfl : e = .notFound := by simpa [IoFault.isNotFound] using hfault
      exact hcall

/-- A file that is no directory is removed. -/
theorem takes_removeFile (place : Slot σ Host) (p : Path) (s : σ) :
    Takes place p false s ((Host.system place).removeFile p s) := by
  refine takes_changeSeen (fun tree htree => ?_) lacks_of_unlink
  obtain ⟨f, hkind, hremoves⟩ := removes_of_unlink htree
  exact ⟨f, by simpa [File.isDir] using hkind, hremoves⟩

/-- An empty directory is removed. -/
theorem takes_removeDir (place : Slot σ Host) (p : Path) (s : σ) :
    Takes place p true s ((Host.system place).removeDir p s) := by
  refine takes_changeSeen (fun tree htree => ?_) lacks_of_removeDir
  obtain ⟨f, hkind, hremoves⟩ := removes_of_removeDir htree
  exact ⟨f, by simpa [File.isDir] using hkind, hremoves⟩

namespace Takes

variable {result : Except IoFault Unit × σ}

/-- **What is lost** is what the path named before. -/
theorem lost (h : Takes place p isDir s result) (hs : Lost place before allowed s)
    (hformed : before.tree.WellFormed)
    (hallowed : ∀ f : File, before.tree.Names before.view p f.location →
      before.tree.find? f.location = some f → f.isDir = isDir → allowed f.location) :
    Lost place before allowed result.2 := by
  cases h with
  | refused => exact hs
  | gone hnul hkind hremoves =>
    rw [hs.view] at hremoves
    obtain ⟨hnames, hfind, rfl⟩ := hremoves.names hformed hs.loses
    refine ⟨by rw [place.get_set]; exact hs.view, ?_⟩
    rw [place.get_set]
    exact hs.loses.trans (.remove _ (hallowed _ hnames hfind hkind))

/-- **What is left at the path** is nothing, if the call succeeds or finds nothing there. -/
theorem lacks (h : Takes place p isDir s result)
    (hresult : ∀ fault, result.1 = .error fault → fault.isNotFound) :
    p.hasNul = false ∧ (place.get result.2).tree.Lacks (place.get result.2).view p := by
  cases h with
  | refused hmissing => exact hmissing (hresult _ rfl)
  | gone hnul hkind hremoves =>
    rw [place.get_set]
    exact ⟨hnul, hremoves.lacks⟩

end Takes

/-! ## Removing a tree -/

/-- What removing a tree comes to. -/
theorem run_removeTree (hnul : p.hasNul = false) (s : σ) :
    (Host.system place).removeTree p s =
      (asFault ((place.get s).tree.removeTree (place.get s).view p).2,
        place.set { place.get s with
          tree := ((place.get s).tree.removeTree (place.get s).view p).1 } s) := by
  show place.run (withPath p _) s = _
  rw [Slot.run_eq, run_withPath hnul]
  rfl

/-- **What is lost** by removing a tree is what has the name at the end of the path, and what is in
it if that is a directory. -/
theorem lost_removeTree (hs : Lost place before allowed s) (hformed : before.tree.WellFormed)
    (hends : NameEnds p) (hnul : p.hasNul = false)
    (hallowed : ∀ loc, before.tree.OfEntry before.view p loc → allowed loc) :
    Lost place before allowed ((Host.system place).removeTree p s).2 := by
  rw [run_removeTree hnul]
  refine ⟨by rw [place.get_set]; exact hs.view, ?_⟩
  rw [place.get_set]
  have hremoved := removeTree_loses (v := (place.get s).view) hformed hs.loses hends
  rw [hs.view] at hremoved ⊢
  exact hs.loses.trans (hremoved.mono hallowed)

/-- **What is left at the path** is nothing, if a tree is removed there or nothing is found. -/
theorem lacks_removeTree (hends : NameEnds p) (hnul : p.hasNul = false) (s : σ)
    (hresult : ∀ fault, ((Host.system place).removeTree p s).1 = .error fault → fault.isNotFound) :
    (place.get ((Host.system place).removeTree p s).2).tree.Lacks
      (place.get ((Host.system place).removeTree p s).2).view p := by
  rw [run_removeTree hnul] at hresult ⊢
  rw [place.get_set]
  refine lacks_of_removeTree hends ?_
  cases hremoved : ((place.get s).tree.removeTree (place.get s).view p).2 with
  | ok => exact .inl rfl
  | error e =>
    rw [hremoved] at hresult
    have hfault := hresult _ rfl
    obtain rfl : e = .notFound := by simpa [IoFault.isNotFound] using hfault
    exact .inr rfl

end Container.Host
