import Container.Proofs.Cleanup.Sections
import Container.Proofs.Mount.Release
import Container.Proofs.Series

set_option autoImplicit false

/-!
# Releasing an encrypted device more than once

A device is closed only after two paths were detached, and detaching fails where nothing is mounted.
So every attempt that comes to close the device takes away a mount from each of the two paths, and
it comes there no more often than there were mounts at the beginning. A device that could not be
closed after both paths were detached is not closed by trying again.

## Main definitions

* `Errno.IsAbsent` — the errors by which a path is said to be no mount point.
* `KeepsMounts` — how a system keeps mounts.
* `Cleanup.Came` — how far the work on a device comes.
* `Cleanup.Attempts` — attempts to release devices, one after the other.
* `RetryLaw` — what is known of such attempts.

## Main results

* `Cleanup.attempt_preserves` — what every call leaves intact is left intact by an attempt.
* `CryptTeardown.retry_law` — the law, and for a device that stays open
  `CryptTeardown.retry_law_leaked`.
-/

namespace Container

variable {σ α : Type}

/-- A path is no mount point, or there is nothing at it. -/
def Errno.IsAbsent (errno : Errno) : Prop := errno = .invalidArgument ∨ errno = .notFound

/-- A computation mounts nothing. -/
def MountsNothing (mounts : σ → Path → Nat) (m : StateM σ α) : Prop :=
  ∀ s path, mounts (m s).2 path ≤ mounts s path

/-- The same helpers, but mounts are detached by the system. -/
def Teardown.detaching (teardown : Teardown σ) (sys : System σ) : Teardown σ :=
  { teardown with crypt := ⟨CryptTeardown.detach sys, teardown.crypt.closeDevice⟩ }

/-- How a system and helpers treat mounts, of which so many lie on one another at each path. -/
structure KeepsMounts (sys : System σ) (teardown : Teardown σ) (mounts : σ → Path → Nat) :
    Prop where
  /-- Privilege is granted. -/
  granted : ∀ s, (teardown.elevation.raise s).1 = .ok ()
  /-- Giving it up does not break down. -/
  returned : ∀ s, (teardown.elevation.restore s).1 ≠ .error .panicked
  /-- What is detached at a path is the uppermost mount there. -/
  taken : ∀ s path, (sys.detach path s).1 = .ok () →
    mounts (sys.detach path s).2 path < mounts s path
  /-- Where nothing is mounted, the error says so. -/
  absent : ∀ s path errno, mounts s path = 0 → (sys.detach path s).1 = .error errno → errno.IsAbsent
  detach : ∀ path, MountsNothing mounts (sys.detach path)
  close : ∀ name, MountsNothing mounts (teardown.crypt.closeDevice name)
  raise : MountsNothing mounts teardown.elevation.raise
  restore : MountsNothing mounts teardown.elevation.restore
  log : ∀ event, MountsNothing mounts (sys.log event)

namespace Cleanup

/-! ## How far an attempt comes -/

/-- The work on a device, by how far it comes. -/
inductive Came (layout : Layout) (device : Path) : List Entry → Except Stop Unit → Prop
  /-- The overlay is not detached. -/
  | toOverlay (stop : Stop) :
      Came layout device [⟨.detach layout.overlayMount, .error stop⟩] (.error stop)
  /-- The overlay is detached, but the root is not. -/
  | toRootfs (stop : Stop) :
      Came layout device [⟨.detach layout.overlayMount, .ok ()⟩,
        ⟨.detach layout.rootfsMount, .error stop⟩] (.error stop)
  /-- Both are detached, but the device has no name. -/
  | toName {fault : CryptFault} (hname : CryptTeardown.deviceName device = .error fault) :
      Came layout device [⟨.detach layout.overlayMount, .ok ()⟩,
        ⟨.detach layout.rootfsMount, .ok ()⟩] (.error (.failed (.crypt fault)))
  /-- Both are detached, and the device is to be closed. -/
  | toClose {name : String} (hname : CryptTeardown.deviceName device = .ok name)
      (answer : Except Stop Unit) :
      Came layout device [⟨.detach layout.overlayMount, .ok ()⟩,
        ⟨.detach layout.rootfsMount, .ok ()⟩, ⟨.closeDevice name, answer⟩] answer

/-- Attempts to release devices, one after the other, each in a section of its own. -/
inductive Attempts (layout : Layout) :
    List Path → List Entry → List (Except Failure Unit) → Prop
  | nil : Attempts layout [] [] []
  | cons {device : Path} {devices : List Path} {entries later : List Entry}
      {result : Except Stop Unit} {outcome : Except Failure Unit}
      {outcomes : List (Except Failure Unit)}
      (first : InSection (Came layout device) entries result)
      (houtcome : handedOver result = .ok outcome)
      (rest : Attempts layout devices later outcomes) :
      Attempts layout (device :: devices) (entries ++ later) (outcome :: outcomes)

/-- How often something was detached at a path. -/
def takings (path : Path) (entries : List Entry) : Nat :=
  entries.countP fun entry => entry.deed = .detach path ∧ entry.answer.isOk

/-- How often a device was to be closed. -/
def closings (entries : List Entry) : Nat :=
  entries.countP fun entry => entry.deed matches .closeDevice _

@[simp] theorem takings_append (path : Path) (entries later : List Entry) :
    takings path (entries ++ later) = takings path entries + takings path later :=
  List.countP_append

@[simp] theorem closings_append (entries later : List Entry) :
    closings (entries ++ later) = closings entries + closings later :=
  List.countP_append

/-- What was detached counts. -/
theorem takings_ne_zero {path : Path} {entries : List Entry}
    (h : ⟨.detach path, .ok ()⟩ ∈ entries) : takings path entries ≠ 0 :=
  Nat.ne_of_gt (List.countP_pos_iff.mpr ⟨_, h, by simp [Except.isOk, Except.toBool]⟩)

/-- An attempt to release a device, with what is done written into a diary. -/
def attempt (base : System (Diary σ)) (sys : System σ) (teardown : Teardown σ) (layout : Layout)
    (device : Path) : Act (Diary σ) Unit :=
  CryptTeardown.release (Diary.system base sys) (Diary.teardown teardown).elevation
    (Diary.teardown teardown).crypt layout device

section Shape

variable {sys : System σ} {base : System (Diary σ)} {teardown : Teardown σ}

/-- One deed, and what comes after it if it goes well. -/
theorem Writes.deed {deed : Deed} {act next : Act (Diary σ) Unit}
    {P : List Entry → Except Stop Unit → Prop}
    (h : Writes act fun entries result => entries = [⟨deed, result⟩])
    (hstop : ∀ stop, P [⟨deed, .error stop⟩] (.error stop))
    (hnext : Writes next fun later result => P (⟨deed, .ok ()⟩ :: later) result) :
    Writes (act >>= fun _ => next) P := by
  refine h.bind ?_ fun _ => hnext.mono ?_
  · rintro _ stop rfl
    exact hstop stop
  · rintro later result hlater _ rfl
    exact hlater

/-- How far the work on a device comes, as it is written into the diary. -/
theorem cryptSteps_came (layout : Layout) (device : Path) :
    Writes (CryptTeardown.steps (Diary.system base sys) (Diary.teardown teardown).crypt layout
      device) (Came layout device) := by
  unfold CryptTeardown.steps
  refine .deed ((Writes.noteUnit (.detach layout.overlayMount) _).onFailure _ _ _ _) .toOverlay ?_
  refine .deed ((Writes.noteUnit (.detach layout.rootfsMount) _).onFailure _ _ _ _) .toRootfs ?_
  cases hname : CryptTeardown.deviceName device with
  | error fault => exact .fail _ (.toName hname)
  | ok name =>
    refine .deed ((Writes.noteUnit (.closeDevice name) _).onFailure _ _ _ _)
      (fun stop => .toClose hname (.error stop)) ?_
    exact .report_last _ _ _ _ (.toClose hname (.ok ()))

/-- An attempt is a section around the work on its device. -/
theorem attempt_writes (layout : Layout) (device : Path) :
    Writes (attempt base sys teardown layout device) (InSection (Came layout device)) := by
  unfold attempt CryptTeardown.release
  exact bracket_writes (cryptSteps_came layout device)

end Shape

/-! ## What is kept all along -/

section Invariant

variable {sys : System σ} {base : System (Diary σ)} {teardown : Teardown σ}

/-- What every call leaves intact is left intact by an attempt. -/
theorem attempt_preserves {I : Diary σ → Prop}
    (hraise : Act.Preserves I (Diary.note .raise teardown.elevation.raise))
    (hrestore : Act.Preserves I (Diary.note .restore teardown.elevation.restore))
    (hdetach : ∀ path, Act.Preserves I (Diary.note (.detach path) (teardown.crypt.detach path)))
    (hclose : ∀ name,
      Act.Preserves I (Diary.note (.closeDevice name) (teardown.crypt.closeDevice name)))
    (hlog : ∀ event diary, I diary → I ((Diary.system base sys).log event diary).2)
    (layout : Layout) (device : Path) :
    Act.Preserves I (attempt base sys teardown layout device) := by
  have hsteps : Act.Preserves I (CryptTeardown.steps (Diary.system base sys)
      (Diary.teardown teardown).crypt layout device) := by
    refine ((hdetach _).onFailure fun f => hlog _).bind fun _ => ?_
    refine ((hdetach _).onFailure fun f => hlog _).bind fun _ => ?_
    cases CryptTeardown.deviceName device with
    | error fault => exact .fail _
    | ok name => exact ((hclose name).onFailure fun f => hlog _).bind fun _ => hlog _
  have hgiveUp : Act.Preserves I (Elevation.giveUp (Diary.system base sys)
      (Diary.teardown teardown).elevation) := by
    refine hrestore.guarded.bind fun answer => ?_
    cases answer with
    | ok => exact .pure ()
    | error f => exact hlog _
  intro diary h
  have hraised := hraise diary h
  rw [attempt, CryptTeardown.release, run_bracket,
    show (Diary.teardown teardown).elevation.raise = Diary.note .raise _ from rfl]
  rcases hrun : Diary.note .raise teardown.elevation.raise diary with ⟨stop | ⟨⟩, raised⟩
  all_goals rw [hrun] at hraised
  · exact hraised
  · exact hgiveUp _ (hsteps _ (hlog _ _ hraised))

/-- An entry is as a system that keeps mounts makes it, where so many were there at first. -/
def Entry.Fair (start : Path → Nat) (entry : Entry) : Prop :=
  match entry.deed with
  | .raise => entry.answer = .ok ()
  | .restore => entry.answer ≠ .error .panicked
  | .detach path => ∀ stop, entry.answer = .error stop →
      ∃ errno, stop = .failed (.mount (.notDetached path errno)) ∧ (start path = 0 → errno.IsAbsent)
  | _ => True

/-- The entries of a diary are fair, and what was detached at a path is no longer there. -/
structure Kept (mounts : σ → Path → Nat) (start : Path → Nat) (diary : Diary σ) : Prop where
  fair : ∀ entry ∈ diary.entries, entry.Fair start
  spent : ∀ path, takings path diary.entries + mounts diary.world path ≤ start path

variable {mounts : σ → Path → Nat} {start : Path → Nat}

/-- A deed that is fair and takes away what it is said to take leaves the account in order. -/
theorem kept_note {deed : Deed} {act : Act σ Unit}
    (hfair : ∀ s, (∀ path, mounts s path ≤ start path) → Entry.Fair start ⟨deed, (act s).1⟩)
    (hspent : ∀ s path,
      takings path [⟨deed, (act s).1⟩] + mounts (act s).2 path ≤ mounts s path) :
    Act.Preserves (Kept mounts start) (Diary.note deed act) := by
  intro diary h
  have hanswer : (act diary.world).1.map (fun _ => ()) = (act diary.world).1 := by
    cases (act diary.world).1 <;> rfl
  have hnoted : (Diary.note deed act diary).2 =
      ⟨(act diary.world).2, diary.entries ++ [⟨deed, (act diary.world).1⟩]⟩ := by
    rw [← hanswer]
    rfl
  rw [hnoted]
  refine ⟨?_, ?_⟩
  · intro entry hentry
    rcases List.mem_append.mp hentry with hentry | hentry
    · exact h.fair entry hentry
    · obtain rfl := List.mem_singleton.mp hentry
      exact hfair _ fun path => Nat.le_trans (Nat.le_add_left _ _) (h.spent path)
  · intro path
    have hbefore := h.spent path
    have hnow := hspent diary.world path
    simp only [takings_append]
    omega

/-- The same for a deed that detaches nothing. -/
theorem kept_note_other {deed : Deed} {act : Act σ Unit} (hdeed : ∀ path, deed ≠ .detach path)
    (hfair : ∀ s, Entry.Fair start ⟨deed, (act s).1⟩) (hmounts : MountsNothing mounts act) :
    Act.Preserves (Kept mounts start) (Diary.note deed act) := by
  refine kept_note (fun s _ => hfair s) fun s path => ?_
  have hnone : takings path [⟨deed, (act s).1⟩] = 0 := by simp [takings, hdeed path]
  rw [hnone, Nat.zero_add]
  exact hmounts s path

/-- Detaching keeps the account in order. -/
theorem kept_detach (hkeeps : KeepsMounts sys teardown mounts) (path : Path) :
    Act.Preserves (Kept mounts start)
      (Diary.note (.detach path) (CryptTeardown.detach sys path)) := by
  refine kept_note ?_ ?_
  · intro s hs stop hstop
    rw [CryptTeardown.detach, Act.run_call] at hstop
    rcases hanswer : (sys.detach path s).1 with errno | ⟨⟩
    · rw [hanswer] at hstop
      cases hstop
      refine ⟨errno, rfl, fun hstart => hkeeps.absent s path errno ?_ hanswer⟩
      exact Nat.le_zero.mp (hstart ▸ hs path)
    · rw [hanswer] at hstop
      cases hstop
  · intro s other
    rw [CryptTeardown.detach, Act.run_call]
    have hless := hkeeps.detach path s other
    rcases hanswer : (sys.detach path s).1 with errno | ⟨⟩
    · simpa [takings, Except.isOk, Except.toBool] using hless
    · by_cases hsame : path = other
      · subst hsame
        have htaken := hkeeps.taken s path hanswer
        have hone : takings path [⟨.detach path, .ok ()⟩] = 1 := by
          simp [takings, Except.isOk, Except.toBool]
        rw [mapError_ok, hone, Nat.add_comm]
        exact htaken
      · simpa [takings, hsame] using hless

/-- An attempt keeps the account in order. -/
theorem attempt_kept (base : System (Diary σ)) (hkeeps : KeepsMounts sys teardown mounts)
    (layout : Layout) (device : Path) :
    Act.Preserves (Kept mounts start)
      (attempt base sys (teardown.detaching sys) layout device) := by
  refine attempt_preserves ?_ ?_ (kept_detach hkeeps) ?_ ?_ layout device
  · exact kept_note_other (by simp) hkeeps.granted hkeeps.raise
  · exact kept_note_other (by simp) hkeeps.returned hkeeps.restore
  · exact fun name => kept_note_other (by simp) (fun _ => trivial) (hkeeps.close name)
  · intro event diary h
    exact ⟨h.fair, fun path =>
      Nat.le_trans (Nat.add_le_add_left (hkeeps.log event diary.world path) _) (h.spent path)⟩

end Invariant

/-! ## Attempts that are fair -/

section Attempts

variable {layout : Layout} {device : Path} {devices : List Path} {entries : List Entry}
  {result : Except Stop Unit} {outcome : Except Failure Unit}
  {outcomes : List (Except Failure Unit)} {start : Path → Nat}

/-- Where privilege is granted and can be given up, a section is begun and ended around its work,
and comes to what that came to unless it broke down. -/
theorem InSection.of_fair {work : List Entry → Except Stop Unit → Prop}
    (h : InSection work entries result) (hfair : ∀ entry ∈ entries, entry.Fair start) :
    ∃ inner ended restored, work inner ended ∧
      entries = ⟨.raise, .ok ()⟩ :: (inner ++ [⟨.restore, restored⟩]) ∧
      (ended ≠ .error .panicked → result = ended) := by
  cases h with
  | refused | unraised =>
    have hraised : (.error _ : Except Stop Unit) = .ok () := hfair _ (List.mem_singleton_self _)
    cases hraised
  | held hwork => exact ⟨_, _, _, hwork, rfl, fun _ => rfl⟩
  | brokeDown hwork => exact ⟨_, _, _, hwork, rfl, fun h => absurd rfl h⟩
  | lost => exact absurd rfl (hfair ⟨.restore, .error .panicked⟩ (by simp))

/-- An attempt closes no device without taking a mount from each of the two paths. -/
theorem Came.closings_le (h : Came layout device entries result) :
    closings entries ≤ takings layout.overlayMount entries ∧
      closings entries ≤ takings layout.rootfsMount entries := by
  cases h <;> simp [closings, takings, Except.isOk, Except.toBool]

/-- An attempt that takes no mount from one of the two paths fails because something cannot be
detached, at the latest at that path. -/
theorem Came.refused (h : Came layout device entries result)
    (hfair : ∀ entry ∈ entries, entry.Fair start)
    (hnone : takings layout.overlayMount entries = 0 ∨ takings layout.rootfsMount entries = 0) :
    ∃ path errno, result = .error (.failed (.mount (.notDetached path errno))) ∧
      (path = layout.overlayMount ∨
        path = layout.rootfsMount ∧ takings layout.overlayMount entries ≠ 0) ∧
      (start path = 0 → errno.IsAbsent) := by
  cases h with
  | toOverlay stop =>
    obtain ⟨errno, rfl, habsent⟩ :=
      hfair ⟨.detach layout.overlayMount, .error stop⟩ (by simp) stop rfl
    exact ⟨_, errno, rfl, .inl rfl, habsent⟩
  | toRootfs stop =>
    obtain ⟨errno, rfl, habsent⟩ :=
      hfair ⟨.detach layout.rootfsMount, .error stop⟩ (by simp) stop rfl
    exact ⟨_, errno, rfl, .inr ⟨rfl, takings_ne_zero (by simp)⟩, habsent⟩
  | toName | toClose =>
    -- Both paths were detached.
    rcases hnone with hnone | hnone
    · exact absurd hnone (takings_ne_zero (by simp))
    · exact absurd hnone (takings_ne_zero (by simp))

/-- The same of a whole section, which closes no more devices than the work in it. -/
theorem InSection.closings_le (h : InSection (Came layout device) entries result) :
    closings entries ≤ takings layout.overlayMount entries ∧
      closings entries ≤ takings layout.rootfsMount entries := by
  cases h with
  | refused | unraised => simp [closings]
  | held hwork | brokeDown hwork | lost hwork =>
    obtain ⟨hoverlay, hrootfs⟩ := hwork.closings_le
    simp only [closings, takings] at hoverlay hrootfs ⊢
    simpa using And.intro hoverlay hrootfs

/-- **No device is closed without taking a mount** from each of the two paths. -/
theorem Attempts.closings_le (h : Attempts layout devices entries outcomes) :
    closings entries ≤ takings layout.overlayMount entries ∧
      closings entries ≤ takings layout.rootfsMount entries := by
  induction h with
  | nil => simp [closings]
  | cons first _ _ ih =>
    obtain ⟨hoverlay, hrootfs⟩ := first.closings_le
    simp only [closings_append, takings_append]
    omega

/-- Attempts that take no mount from one of the two paths all fail because something cannot be
detached. -/
theorem Attempts.refused (h : Attempts layout devices entries outcomes)
    (hfair : ∀ entry ∈ entries, entry.Fair start)
    (hnone : takings layout.overlayMount entries = 0 ∨ takings layout.rootfsMount entries = 0) :
    ∀ outcome ∈ outcomes, ∃ path errno, outcome = .error (.mount (.notDetached path errno)) ∧
      (path = layout.overlayMount ∨
        path = layout.rootfsMount ∧ takings layout.overlayMount entries ≠ 0) ∧
      (start path = 0 → errno.IsAbsent) := by
  induction h with
  | nil => simp
  | cons first houtcome _ ih =>
    simp only [takings_append, Nat.add_eq_zero_iff] at hnone
    simp only [List.mem_append, or_imp, forall_and] at hfair
    simp only [List.mem_cons, forall_eq_or_imp, takings_append]
    refine ⟨?_, ?_⟩
    · obtain ⟨inner, ended, restored, hwork, rfl, hresult⟩ := first.of_fair hfair.1
      have hinner : ∀ path, takings path
          (⟨.raise, .ok ()⟩ :: (inner ++ [⟨.restore, restored⟩])) = takings path inner := by
        simp [takings]
      simp only [hinner] at hnone ⊢
      obtain ⟨path, errno, rfl, hplace, habsent⟩ := hwork.refused
        (fun entry hentry => hfair.1 entry (by simp [hentry])) (hnone.imp And.left And.left)
      rw [hresult (by simp)] at houtcome
      cases houtcome
      exact ⟨path, errno, rfl, hplace.imp_right fun h => ⟨h.1, by omega⟩, habsent⟩
    · intro outcome houtcome
      obtain ⟨path, errno, rfl, hplace, habsent⟩ :=
        ih hfair.2 (hnone.imp And.right And.right) outcome houtcome
      exact ⟨path, errno, rfl, hplace.imp_right fun h => ⟨h.1, by omega⟩, habsent⟩

end Attempts

/-! ## Attempts as they are made -/

section Run

/-- What a section comes to can be handed over, as it does not break down. -/
theorem InSection.handedOver {work : List Entry → Except Stop Unit → Prop} {entries : List Entry}
    {result : Except Stop Unit} (h : InSection work entries result) :
    ∃ outcome, handedOver result = .ok outcome := by
  rcases result with (f | _) | ⟨⟩
  · exact ⟨.error f, rfl⟩
  · exact absurd rfl h.ne_panicked
  · exact ⟨.ok (), rfl⟩

/-- **All attempts are made**, whatever becomes of those before.

**Proof sketch.** By induction on the devices. An attempt is a section around its work, and as a
section does not break down, the other attempts follow. -/
theorem each_attempts (base : System (Diary σ)) (sys : System σ) (teardown : Teardown σ)
    (layout : Layout) (devices : List Path) (diary : Diary σ) :
    ∃ outcomes later, (Act.each (attempt base sys teardown layout) devices diary).1 = .ok outcomes ∧
      (Act.each (attempt base sys teardown layout) devices diary).2.entries =
        diary.entries ++ later ∧
      Attempts layout devices later outcomes := by
  induction devices generalizing diary with
  | nil => exact ⟨[], [], rfl, by simp, .nil⟩
  | cons device devices ih =>
    obtain ⟨entries, hentries, ended, hsection, hended⟩ :=
      (attempt_writes layout device).guarded diary
    obtain ⟨outcome, houtcome⟩ := hsection.handedOver
    obtain ⟨outcomes, later, hok, hlater, hattempts⟩ :=
      ih ((attempt base sys teardown layout device).guarded diary).2
    have hfirst : (attempt base sys teardown layout device).guarded diary = (.ok outcome, _) :=
      Prod.ext (hended.trans houtcome) rfl
    rw [Act.each_cons hfirst]
    refine ⟨outcome :: outcomes, entries ++ later, ?_, ?_, .cons hsection houtcome hattempts⟩
    · rw [hok]
      rfl
    · rw [hlater, hentries, List.append_assoc]

end Run
end Cleanup

open Cleanup

/-- What is known of attempts to release devices, where so many mounts were at each path before the
first. -/
structure RetryLaw (layout : Layout) (start : Path → Nat) (devices : List Path)
    (entries : List Entry) (outcomes : List (Except Failure Unit)) : Prop where
  /-- Each attempt detaches the overlay, then the root, then closes the device, and ends with the
  first of these that fails. -/
  attempts : Attempts layout devices entries outcomes
  /-- No more attempts come to close the device than there were mounts at either of the paths. -/
  closings_le : closings entries ≤ start layout.overlayMount ∧
    closings entries ≤ start layout.rootfsMount
  /-- Where no overlay was mounted, all attempts fail for that reason. -/
  overlay_absent : start layout.overlayMount = 0 → ∀ outcome ∈ outcomes, ∃ errno,
    errno.IsAbsent ∧ outcome = .error (.mount (.notDetached layout.overlayMount errno))
  /-- Where no root was mounted, they fail for that reason, unless the overlay cannot be
  detached. -/
  rootfs_absent : start layout.rootfsMount = 0 → ∀ outcome ∈ outcomes, ∃ errno,
    outcome = .error (.mount (.notDetached layout.overlayMount errno)) ∨
      errno.IsAbsent ∧ outcome = .error (.mount (.notDetached layout.rootfsMount errno))

namespace CryptTeardown

/-- **A device is not closed by trying again**: whatever becomes of each attempt to release a
device, no more attempts come to close it than there were mounts at the path of the overlay, or at
that of the root. Where nothing is mounted at one of the two, none does, and every attempt fails
because something cannot be detached.

**Proof sketch.** Every call keeps the number of mounts at a path, together with how often something
was detached there, below what it was at first; so an attempt does (`attempt_kept`), and all
attempts do (`Act.Preserves.each`). What the attempts write down is one after the other what each
writes (`each_attempts`), and one that comes to close the device detached both paths before, which
bounds how often that happens (`Attempts.closings_le`). If there was nothing at one of the paths,
nothing was ever detached there, so no attempt came further, and the system said why
(`Attempts.refused`). -/
theorem retry_law (base : System (Diary σ)) (sys : System σ) (teardown : Teardown σ)
    (mounts : σ → Path → Nat) (hkeeps : KeepsMounts sys teardown mounts) (layout : Layout)
    (devices : List Path) (world : σ) :
    let made := Act.each (attempt base sys (teardown.detaching sys) layout) devices ⟨world, []⟩
    ∃ outcomes, made.1 = .ok outcomes ∧
      RetryLaw layout (mounts world) devices made.2.entries outcomes := by
  intro made
  obtain ⟨outcomes, entries, hok, hentries, hattempts⟩ :=
    each_attempts base sys (teardown.detaching sys) layout devices ⟨world, []⟩
  have hbegun : Kept mounts (mounts world) ⟨world, []⟩ := ⟨by simp, by simp [takings]⟩
  have hkept : Kept mounts (mounts world) made.2 :=
    Act.Preserves.each (attempt_kept base hkeeps layout) devices _ hbegun
  rw [← hentries.trans (List.nil_append _)] at hattempts
  have htaken : ∀ path, takings path made.2.entries ≤ mounts world path := fun path =>
    Nat.le_trans (Nat.le_add_right _ _) (hkept.spent path)
  have hnone : ∀ path, mounts world path = 0 → takings path made.2.entries = 0 := fun path h =>
    Nat.le_zero.mp (h ▸ htaken path)
  refine ⟨outcomes, hok, hattempts, ?_, ?_, ?_⟩
  · obtain ⟨hoverlay, hrootfs⟩ := hattempts.closings_le
    exact ⟨Nat.le_trans hoverlay (htaken _), Nat.le_trans hrootfs (htaken _)⟩
  · intro habsent outcome houtcome
    obtain ⟨path, errno, hfailed, rfl | ⟨-, hsome⟩, herrno⟩ :=
      hattempts.refused hkept.fair (.inl (hnone _ habsent)) outcome houtcome
    · exact ⟨errno, herrno habsent, hfailed⟩
    · exact absurd (hnone _ habsent) hsome
  · intro habsent outcome houtcome
    obtain ⟨path, errno, hfailed, rfl | ⟨rfl, -⟩, herrno⟩ :=
      hattempts.refused hkept.fair (.inr (hnone _ habsent)) outcome houtcome
    · exact ⟨errno, .inl hfailed⟩
    · exact ⟨errno, .inr ⟨herrno habsent, hfailed⟩⟩

/-- A system whose whole world is a table of mounts. -/
def tableSystem : System (List Path) :=
  { (default : System (List Path)) with
    detach := fun path table =>
      if path ∈ table then (.ok (), table.erase path) else (.error .invalidArgument, table)
    log := fun _ table => ((), table) }

/-- Helpers that are granted privilege, and by whom no device can be closed. -/
def failingClose : Teardown (List Path) where
  elevation := ⟨pure (), pure ()⟩
  deleteNetwork _ := pure ()
  removeCgroup _ := pure ()
  findRecord _ _ := pure (pure ())
  crypt := ⟨fun _ => pure (), fun name => Act.fail (.crypt (.notClosed name (.exited 5)))⟩

/-- What is detached in that system, and what is left. -/
theorem tableSystem_detach (path : Path) (table : List Path) :
    tableSystem.detach path table =
      if path ∈ table then (.ok (), table.erase path) else (.error .invalidArgument, table) := rfl

/-- That system keeps mounts. -/
theorem tableSystem_keepsMounts :
    KeepsMounts tableSystem failingClose fun table path => table.count path where
  granted _ := rfl
  returned _ h := by cases h
  taken table path h := by
    rw [tableSystem_detach] at h ⊢
    split at h
    · rename_i hmem
      have hsome : 0 < table.count path := List.count_pos_iff.mpr hmem
      rw [if_pos hmem, List.count_erase_self]
      omega
    · cases h
  absent table path errno hnone h := by
    rw [tableSystem_detach, if_neg (List.count_eq_zero.mp hnone)] at h
    cases h
    exact .inl rfl
  detach path table other := by
    rw [tableSystem_detach]
    split
    · exact (List.erase_sublist).count_le other
    · exact Nat.le_refl _
  close _ _ _ := Nat.le_refl _
  raise _ _ := Nat.le_refl _
  restore _ _ := Nat.le_refl _
  log _ _ _ := Nat.le_refl _

/-- A device that could not be closed after both paths were detached stays open: two more attempts
do not come to close it. -/
theorem retry_law_leaked :
    let layout : Layout := ⟨"/run/session", "/run/final"⟩
    let device : Path := "/dev/mapper/vault"
    let made := Act.each (attempt default tableSystem (failingClose.detaching tableSystem) layout)
      [device, device, device] ⟨[layout.overlayMount, layout.rootfsMount], []⟩
    KeepsMounts tableSystem failingClose (fun table path => table.count path) ∧
      made.1 = .ok [.error (.crypt (.notClosed "vault" (.exited 5))),
        .error (.mount (.notDetached layout.overlayMount .invalidArgument)),
        .error (.mount (.notDetached layout.overlayMount .invalidArgument))] ∧
      closings made.2.entries = 1 := by
  intro layout device made
  obtain ⟨outcomes, hok, hlaw⟩ := retry_law default tableSystem failingClose
    (fun table path => table.count path) tableSystem_keepsMounts layout [device, device, device]
    [layout.overlayMount, layout.rootfsMount]
  have honce : [layout.overlayMount, layout.rootfsMount].count layout.overlayMount = 1 := by
    decide +kernel
  have hle : closings made.2.entries ≤ 1 := honce ▸ hlaw.closings_le.1
  have hreached : 0 < closings made.2.entries := by decide +kernel
  exact ⟨tableSystem_keepsMounts, rfl, by omega⟩

end CryptTeardown
end Container
