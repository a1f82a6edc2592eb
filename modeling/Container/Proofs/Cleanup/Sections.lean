import Container.Proofs.Cleanup.Diary
import Container.Proofs.Cleanup.Order

set_option autoImplicit false

/-!
# Raised privilege in a cleanup

A cleanup holds raised privilege only in sections. A section begins when privilege was raised and
ends when it is given up, in whatever way the work in it ends, and all that is done in it is the
work of the one step that the section belongs to. The other steps do their work outside.

## Main definitions

* `Cleanup.InSection` — what is done in a section, and what comes of it.
* `Cleanup.Done` — what is done for a step, and what comes of it.
* `Cleanup.Took` — what is done for several steps, one after the other.
* `Cleanup.holding`, `Cleanup.Placed` — whether privilege is held, and that whatever is done is done
  with it where it has to be and without it where not.
* `SectionedCleanup` — what is known of a cleanup.

## Main results

* `Cleanup.bracket_writes` — a section is begun and ended around its work.
* `Cleanup.runSteps_writes` — what a list of steps writes into the diary.
* `Cleanup.Took.placed` — what is done for several steps is in its place.
* `Engine.cleanup_sections` — what a whole cleanup writes into the diary.
-/

namespace Container

namespace Cleanup

/-! ## Work and sections -/

/-- The step that something is done for. Raising privilege and giving it up belong to no step of
their own. -/
def Deed.step? : Deed → Option CleanupStep
  | .examine _ | .removeTree _ | .removeFile _ => some .image
  | .deleteNetwork _ => some .network
  | .removeCgroup _ => some .cgroup
  | .findRecord _ _ | .deleteRecord => some .record
  | .detach _ | .closeDevice _ => some .crypt
  | .raise | .restore => none

/-- What entries come to: the first answer that is no success, or else what comes last. -/
def firstStop (last : Except Stop Unit) : List Entry → Except Stop Unit
  | [] => last
  | entry :: entries =>
    match entry.answer with
    | .ok () => firstStop last entries
    | .error stop => .error stop

/-- The entries are work for a step, and the result is what they come to. -/
def Work (step : CleanupStep) (last : Except Stop Unit) (entries : List Entry)
    (result : Except Stop Unit) : Prop :=
  (∀ entry ∈ entries, entry.deed.step? = some step) ∧ result = firstStop last entries

/-- The entries are those of a section of raised privilege around some work, with its result. -/
inductive InSection (work : List Entry → Except Stop Unit → Prop) :
    List Entry → Except Stop Unit → Prop
  /-- Privilege cannot be raised. The work is not begun, there is nothing to give up, and the
  section fails for that reason. -/
  | refused (f : Failure) :
      InSection work [⟨.raise, .error (.failed f)⟩] (.error (.failed f))
  /-- Raising privilege breaks down. Nothing follows then either, and the section fails. -/
  | unraised :
      InSection work [⟨.raise, .error .panicked⟩] (.error (.failed (.privilege .sectionPanicked)))
  /-- Privilege is raised, the work comes to an end, and privilege is given up once. The result is
  that of the work, whether or not privilege could be given up. -/
  | held {entries : List Entry} {result restored : Except Stop Unit} (hwork : work entries result)
      (hresult : result ≠ .error .panicked) (hrestored : restored ≠ .error .panicked) :
      InSection work (⟨.raise, .ok ()⟩ :: (entries ++ [⟨.restore, restored⟩])) result
  /-- The work breaks down. Privilege is given up once all the same, and the section fails. -/
  | brokeDown {entries : List Entry} {restored : Except Stop Unit}
      (hwork : work entries (.error .panicked)) (hrestored : restored ≠ .error .panicked) :
      InSection work (⟨.raise, .ok ()⟩ :: (entries ++ [⟨.restore, restored⟩]))
        (.error (.failed (.privilege .sectionPanicked)))
  /-- Giving privilege up breaks down, and the section fails, whatever the work came to. -/
  | lost {entries : List Entry} {result : Except Stop Unit} (hwork : work entries result) :
      InSection work (⟨.raise, .ok ()⟩ :: (entries ++ [⟨.restore, .error .panicked⟩]))
        (.error (.failed (.privilege .sectionPanicked)))

/-- A section never breaks down. -/
theorem InSection.ne_panicked {work : List Entry → Except Stop Unit → Prop} {entries : List Entry}
    {result : Except Stop Unit} (h : InSection work entries result) :
    result ≠ .error .panicked := by
  cases h with
  | refused | unraised | brokeDown | lost => simp
  | held _ hresult _ => exact hresult

/-- Why an encrypted device is not given back although all that is done for it goes well. -/
def nameless (device : Path) : Except Stop Unit :=
  match CryptTeardown.deviceName device with
  | .ok _ => .ok ()
  | .error fault => .error (.failed (.crypt fault))

/-- The entries are what is done for a step, with what it comes to. The network is given back in a
section of raised privilege if the container runs with the root user faked, and an encrypted device
always is. -/
def Done (engine : Engine) (step : CleanupStep) (entries : List Entry)
    (result : Except Stop Unit) : Prop :=
  match step with
  | .image =>
    (∀ entry ∈ entries, entry.deed.step? = some .image) ∧
      (result = .ok () ∨ ∃ entry ∈ entries, entry.answer = result)
  | .network =>
    match engine.config.network? with
    | none => entries = [] ∧ result = .ok ()
    | some network =>
      let work := fun (entries : List Entry) result => entries = [⟨.deleteNetwork network, result⟩]
      if engine.config.fakeroot then InSection work entries result else work entries result
  | .cgroup => Work .cgroup (.ok ()) entries result
  | .record => Work .record (.ok ()) entries result
  | .crypt =>
    match engine.config.cryptDevice? with
    | none => entries = [] ∧ result = .ok ()
    | some device => InSection (Work .crypt (nameless device)) entries result

/-! ## What a step writes -/

section Steps

variable {σ : Type} {sys : System σ} {teardown : Teardown σ} {base : System (Diary σ)}

/-- Doing something is all the work there is. -/
theorem Work.single {step : CleanupStep} {deed : Deed} (hdeed : deed.step? = some step)
    (result : Except Stop Unit) : Work step (.ok ()) [⟨deed, result⟩] result := by
  refine ⟨by simp [hdeed], ?_⟩
  cases result <;> rfl

/-- Something is done, and then the rest of the work. -/
theorem Work.cons {step : CleanupStep} {last result : Except Stop Unit} {deed : Deed}
    {entries : List Entry} (hdeed : deed.step? = some step) (h : Work step last entries result) :
    Work step last (⟨deed, .ok ()⟩ :: entries) result := by
  refine ⟨?_, h.2⟩
  intro entry hentry
  rcases List.mem_cons.mp hentry with rfl | hentry
  · exact hdeed
  · exact h.1 entry hentry

/-- Something that does not go well ends the work. -/
theorem Work.stop {step : CleanupStep} {last : Except Stop Unit} {deed : Deed}
    (hdeed : deed.step? = some step) (stop : Stop) :
    Work step last [⟨deed, .error stop⟩] (.error stop) :=
  ⟨by simp [hdeed], rfl⟩

/-- What is done is written down with its result. -/
theorem Writes.noteUnit (deed : Deed) (work : Act σ Unit) :
    Writes (Diary.note deed work) fun entries result => entries = [⟨deed, result⟩] := by
  refine (Writes.note deed work).mono fun entries result h => ?_
  rw [h]
  cases result <;> rfl

/-- One piece of work after another. -/
theorem Writes.attempt {step : CleanupStep} {last : Except Stop Unit} {deed : Deed}
    {act next : Act (Diary σ) Unit} (hdeed : deed.step? = some step)
    (h : Writes act fun entries result => entries = [⟨deed, result⟩])
    (hnext : Writes next (Work step last)) :
    Writes (act >>= fun _ => next) (Work step last) := by
  refine h.bind ?_ fun _ => hnext.mono ?_
  · rintro entries stop rfl
    exact Work.stop hdeed stop
  · rintro later result hlater entries rfl
    exact hlater.cons hdeed

/-- What is made of the answer to the last thing that is done about the image: success, or the
failure that the answer is. -/
theorem settled_writes (sys : System σ) (base : System (Diary σ)) (engine : Engine)
    {deeds : List Entry} {deed : Deed}
    (hdeeds : ∀ entry ∈ deeds, entry.deed.step? = some .image) (hdeed : deed.step? = some .image)
    (answer : Except IoFault Unit) :
    Writes (match answer with
      | .ok () => return
      | .error fault =>
        if fault.isNotFound then
          liftM ((Diary.system base sys).report .debug .cleanup "image already gone"
            [("image", .shown engine.config.image.display)])
        else Act.fail (.io fault) : Act (Diary σ) Unit) fun later result =>
      Done engine .image (deeds ++ ⟨deed, answer.mapError fun fault => .failed (.io fault)⟩ ::
        later) result := by
  have hall : ∀ entry ∈ deeds ++ [⟨deed, answer.mapError fun fault => .failed (.io fault)⟩],
      entry.deed.step? = some .image := by
    intro entry hentry
    rcases List.mem_append.mp hentry with hentry | hentry
    · exact hdeeds entry hentry
    · obtain rfl := List.mem_singleton.mp hentry
      exact hdeed
  cases answer with
  | ok => exact .pure () ⟨hall, .inl rfl⟩
  | error fault =>
    simp only
    split
    · exact .report_last _ _ _ _ ⟨hall, .inl rfl⟩
    · exact .fail _ ⟨hall, .inr ⟨_, List.mem_append_right _ List.mem_cons_self, rfl⟩⟩

/-- What is done when the image is removed. -/
theorem removeImage_writes (engine : Engine) :
    Writes (engine.removeImage (Diary.system base sys)) (Done engine .image) := by
  refine .report _ _ _ _ (.call fun found => ?_)
  cases found with
  | error fault =>
    have hnone : ∀ entry ∈ ([] : List Entry), entry.deed.step? = some .image := by simp
    exact settled_writes sys base engine hnone rfl (.error fault)
  | ok info =>
    have hexamined : ∀ entry ∈ [(⟨.examine engine.config.image, .ok ()⟩ : Entry)],
        entry.deed.step? = some .image := by simp [Deed.step?]
    cases hdir : info.isDir with
    | true =>
      simp only [hdir, if_true]
      refine .call fun answer => ?_
      cases answer with
      | ok => exact settled_writes sys base engine hexamined rfl (.ok ())
      | error fault => exact settled_writes sys base engine hexamined rfl (.error fault)
    | false =>
      simp only [hdir, Bool.false_eq_true, if_false]
      refine .call fun answer => ?_
      cases answer with
      | ok => exact settled_writes sys base engine hexamined rfl (.ok ())
      | error fault => exact settled_writes sys base engine hexamined rfl (.error fault)

/-- What is done in the section for an encrypted device. -/
theorem cryptSteps_writes (layout : Layout) (device : Path) :
    Writes
      (CryptTeardown.steps (Diary.system base sys) (Diary.teardown teardown).crypt layout device)
      (Work .crypt (nameless device)) := by
  unfold CryptTeardown.steps nameless
  refine .attempt rfl ((Writes.noteUnit (.detach layout.overlayMount) _).onFailure _ _ _ _) ?_
  refine .attempt rfl ((Writes.noteUnit (.detach layout.rootfsMount) _).onFailure _ _ _ _) ?_
  cases CryptTeardown.deviceName device with
  | error fault => exact .fail _ ⟨by simp, rfl⟩
  | ok name =>
    refine .attempt rfl ((Writes.noteUnit (.closeDevice name) _).onFailure _ _ _ _) ?_
    exact .report_last _ _ _ _ ⟨by simp, rfl⟩

/-- Privilege is given up once. Only where that breaks down does anything come of it. -/
theorem giveUp_writes :
    Writes (Elevation.giveUp (Diary.system base sys) (Diary.teardown teardown).elevation)
      fun entries result => ∃ restored, entries = [⟨.restore, restored⟩] ∧
        result = match restored with
          | .error .panicked => .error .panicked
          | _ => .ok () := by
  refine (Writes.noteUnit .restore teardown.elevation.restore).guarded.bind ?_ fun answer => ?_
  · rintro entries stop ⟨(f | _) | _, rfl, hstop⟩
    all_goals cases hstop
    exact ⟨_, rfl, rfl⟩
  · cases answer with
    | ok =>
      refine .pure () ?_
      rintro entries ⟨(f | _) | _, rfl, hok⟩
      all_goals cases hok
      exact ⟨_, rfl, rfl⟩
    | error f =>
      refine .report_last _ _ _ _ ?_
      rintro entries ⟨(f | _) | _, rfl, hf⟩
      all_goals cases hf
      exact ⟨_, rfl, rfl⟩

/-- What a section of raised privilege comes to, read off its parts. -/
theorem run_bracket {τ : Type} (sys : System τ) (elevation : Elevation τ) (work : Act τ Unit)
    (s : τ) :
    elevation.bracket sys work s = match elevation.raise s with
      | (.error stop, s) => (Elevation.settle (.error stop), s)
      | (.ok (), s) =>
        let ended := work (sys.report .debug .privilege "privilege escalated" [] s).2
        let left := Elevation.giveUp sys elevation ended.2
        (Elevation.settle (left.1.bind fun _ => ended.1), left.2) := by
  unfold Elevation.bracket
  rcases elevation.raise s with ⟨stop | ⟨⟩, s⟩
  · rfl
  · rcases hreport : sys.report .debug .privilege "privilege escalated" [] s with ⟨⟨⟩, begun⟩
    rcases hwork : work begun with ⟨result, ended⟩
    rcases hleft : Elevation.giveUp sys elevation ended with ⟨stop | ⟨⟩, left⟩
    all_goals
      simp only [hreport, hwork, hleft]
      rfl

/-- A section whose work is done, and after which privilege is given up, comes to what its work
settles to. -/
theorem InSection.of_work {work : List Entry → Except Stop Unit → Prop} {entries : List Entry}
    {result restored : Except Stop Unit} (hwork : work entries result)
    (hrestored : restored ≠ .error .panicked) :
    InSection work (⟨.raise, .ok ()⟩ :: (entries ++ [⟨.restore, restored⟩]))
      (Elevation.settle result) := by
  rcases result with (f | _) | ⟨⟩
  · exact .held hwork (by simp [Elevation.settle]) hrestored
  · exact .brokeDown hwork hrestored
  · exact .held hwork (by simp [Elevation.settle]) hrestored

/-- **A section is begun and ended around its work**, in whatever way the work ends.

**Proof sketch.** If privilege cannot be raised, nothing follows. Otherwise the work is run, and
privilege is given up after it whether the work went well, failed or broke down. That it cannot be
given up is reported, and reports are not part of the diary. -/
theorem bracket_writes {act : Act (Diary σ) Unit} {work : List Entry → Except Stop Unit → Prop}
    (hwork : Writes act work) :
    Writes ((Diary.teardown teardown).elevation.bracket (Diary.system base sys) act)
      (InSection work) := by
  intro diary
  obtain ⟨_, hraised, rfl⟩ := Writes.noteUnit .raise teardown.elevation.raise diary
  rw [run_bracket, show (Diary.teardown teardown).elevation.raise = Diary.note .raise _ from rfl]
  rcases hraise : Diary.note .raise teardown.elevation.raise diary with ⟨(f | _) | ⟨⟩, raised⟩
  all_goals rw [hraise] at hraised
  · exact ⟨_, hraised, .refused f⟩
  · exact ⟨_, hraised, .unraised⟩
  · -- Only a report comes between raising privilege and the work.
    let begun : Diary σ := ((Diary.system base sys).report .debug .privilege
      "privilege escalated" [] raised).2
    have hbegun : begun.entries = diary.entries ++ [⟨.raise, .ok ()⟩] := hraised
    obtain ⟨entries, hentries, hP⟩ := hwork begun
    have hgiveUp : Writes (Elevation.giveUp (Diary.system base sys)
        (Diary.teardown teardown).elevation) _ := giveUp_writes
    obtain ⟨_, hlast, restored, rfl, hresult⟩ := hgiveUp (act begun).2
    refine ⟨⟨.raise, .ok ()⟩ :: (entries ++ [⟨.restore, restored⟩]), ?_, ?_⟩
    · show (Elevation.giveUp _ _ (act begun).2).2.entries = _
      rw [hlast, hentries, hbegun]
      simp
    · show InSection work _ (Elevation.settle
        ((Elevation.giveUp _ _ (act begun).2).1.bind fun _ => (act begun).1))
      rw [hresult]
      rcases restored with (f | _) | ⟨⟩
      · exact .of_work hP (by simp)
      · exact .lost hP
      · exact .of_work hP (by simp)

/-- **What a step writes into the diary.** -/
theorem runStep_writes (engine : Engine) (step : CleanupStep) :
    Writes (engine.runStep (Diary.system base sys) (Diary.teardown teardown) step)
      (Done engine step) := by
  cases step with
  | image => exact removeImage_writes engine
  | network =>
    unfold Engine.runStep Done
    cases engine.config.network? with
    | none => exact .pure () ⟨rfl, rfl⟩
    | some network =>
      have hwork : Writes ((Diary.teardown teardown).deleteNetwork network) fun entries result =>
          entries = [⟨.deleteNetwork network, result⟩] :=
        Writes.noteUnit _ _
      cases engine.config.fakeroot with
      | true => exact bracket_writes hwork
      | false => exact hwork
  | cgroup =>
    unfold Engine.runStep Done
    cases engine.config.cgroup? with
    | none => exact .pure () ⟨by simp, rfl⟩
    | some cgroup =>
      refine (Writes.noteUnit (.removeCgroup cgroup) _).mono ?_
      rintro entries result rfl
      exact Work.single rfl result
  | record =>
    unfold Engine.runStep Done
    simp only [Diary.teardown, bind_assoc, pure_bind]
    refine (Writes.note _ _).bind ?_ fun delete => (Writes.noteUnit .deleteRecord delete).mono ?_
    · rintro entries stop rfl
      exact Work.stop rfl stop
    · rintro later result rfl entries rfl
      exact (Work.single rfl result).cons rfl
  | crypt =>
    unfold Engine.runStep Done
    cases engine.config.cryptDevice? with
    | none => exact .pure () ⟨rfl, rfl⟩
    | some device => exact bracket_writes (cryptSteps_writes engine.config.layout device)

end Steps

/-! ## Steps one after the other -/

/-- Steps were taken one after the other, each with entries of its own, and what they came to. -/
inductive Took (engine : Engine) :
    List CleanupStep → List (List Entry) → Except Stop (List StepOutcome) → Prop
  | finished : Took engine [] [] (.ok [])
  /-- A step goes well, and the next one is taken. -/
  | went {step : CleanupStep} {steps : List CleanupStep} {entries : List Entry}
      {sections : List (List Entry)} {outcomes : Except Stop (List StepOutcome)}
      (hdone : Done engine step entries (.ok ())) (hlater : Took engine steps sections outcomes) :
      Took engine (step :: steps) (entries :: sections) (outcomes.map (⟨step, none⟩ :: ·))
  /-- A step fails. The failure is noted, and the next one is taken. -/
  | failed {step : CleanupStep} {steps : List CleanupStep} {entries : List Entry} {f : Failure}
      {sections : List (List Entry)} {outcomes : Except Stop (List StepOutcome)}
      (hdone : Done engine step entries (.error (.failed f))) (hgoesOn : step ≠ .record)
      (hlater : Took engine steps sections outcomes) :
      Took engine (step :: steps) (entries :: sections) (outcomes.map (⟨step, some f⟩ :: ·))
  /-- The record cannot be removed, and no further step is taken. -/
  | aborted {steps : List CleanupStep} {entries : List Entry} {f : Failure}
      (hdone : Done engine .record entries (.error (.failed f))) :
      Took engine (.record :: steps) [entries] (.error (.failed (.cleanup "instance" f)))
  /-- A step breaks down outside of any section. -/
  | brokeDown {step : CleanupStep} {steps : List CleanupStep} {entries : List Entry}
      (hdone : Done engine step entries (.error .panicked)) :
      Took engine (step :: steps) [entries] (.error .panicked)

/-- What was done for each of some steps, one step after the other. -/
def TookAll (engine : Engine) (steps : List CleanupStep) (entries : List Entry)
    (outcomes : Except Stop (List StepOutcome)) : Prop :=
  ∃ sections, entries = sections.flatten ∧ Took engine steps sections outcomes

/-- **What a list of steps writes into the diary.**

**Proof sketch.** By induction on the list. What is known of the first step says what it writes, and
the way in which it ends says whether the others follow. -/
theorem runSteps_writes {σ : Type} {sys : System σ} {teardown : Teardown σ}
    {base : System (Diary σ)} (engine : Engine) (steps : List CleanupStep) :
    Writes (engine.runSteps (Diary.system base sys) (Diary.teardown teardown) steps)
      (TookAll engine steps) := by
  induction steps with
  | nil => exact .pure [] ⟨[], rfl, .finished⟩
  | cons step steps ih =>
    unfold Engine.runSteps
    refine (runStep_writes engine step).guarded.bind ?_ fun answer => ?_
    · rintro entries stop ⟨(f | _) | _, hdone, hstop⟩
      all_goals cases hstop
      exact ⟨[entries], by simp, .brokeDown hdone⟩
    · cases answer with
      | ok =>
        refine (ih.map _).mono ?_
        rintro later _ ⟨outcomes, ⟨sections, rfl, hlater⟩, rfl⟩ entries ⟨(f | _) | _, hdone, hok⟩
        all_goals cases hok
        exact ⟨entries :: sections, rfl, .went hdone hlater⟩
      | error f =>
        simp only
        split
        case isTrue hends =>
          refine .fail _ ?_
          rintro entries ⟨(f | _) | _, hdone, hf⟩
          all_goals cases hf
          obtain rfl := CleanupStep.isAbortive_iff.mp hends
          exact ⟨[entries], by simp, .aborted hdone⟩
        case isFalse hgoesOn =>
          refine .report _ _ _ _ ((ih.map _).mono ?_)
          rintro later _ ⟨outcomes, ⟨sections, rfl, hlater⟩, rfl⟩ entries ⟨(f | _) | _, hdone, hf⟩
          all_goals cases hf
          exact ⟨entries :: sections, rfl,
            .failed hdone (mt CleanupStep.isAbortive_iff.mpr hgoesOn) hlater⟩

/-! ## Whether privilege is held -/

/-- Whether privilege is held after something was done, if it was held before or not. -/
def Entry.after (held : Bool) (entry : Entry) : Bool :=
  match entry.deed, entry.answer with
  | .raise, .ok () => true
  | .restore, _ => false
  | _, _ => held

/-- Whether privilege is held after some entries. -/
def holding (held : Bool) (entries : List Entry) : Bool := entries.foldl Entry.after held

/-- Whether something is done with raised privilege. Only where the container runs with the root
user faked does its network take any. -/
def Deed.isPrivileged (engine : Engine) : Deed → Bool
  | .detach _ | .closeDevice _ | .restore => true
  | .deleteNetwork _ => engine.config.fakeroot
  | .examine _ | .removeTree _ | .removeFile _ | .removeCgroup _ | .findRecord _ _
  | .deleteRecord | .raise => false

/-- Whatever is done is done with raised privilege where it has to be, and without it where not. -/
def Placed (engine : Engine) : Bool → List Entry → Prop
  | _, [] => True
  | held, entry :: entries =>
    entry.deed.isPrivileged engine = held ∧ Placed engine (entry.after held) entries

section Placing

variable {engine : Engine} {held : Bool}

/-- What is placed is placed in each part, with what was held when the part began. -/
theorem placed_append {before later : List Entry} :
    Placed engine held (before ++ later) ↔
      Placed engine held before ∧ Placed engine (holding held before) later := by
  induction before generalizing held with
  | nil => simp [Placed, holding]
  | cons entry before ih =>
    rw [List.cons_append, Placed, ih, Placed, and_assoc]
    rfl

/-- What is held after two parts is held after the second. -/
theorem holding_append (before later : List Entry) :
    holding held (before ++ later) = holding (holding held before) later :=
  List.foldl_append

/-- Whether a step does its work with raised privilege. -/
def stepIsPrivileged (engine : Engine) : CleanupStep → Bool
  | .network => engine.config.fakeroot
  | .crypt => true
  | .image | .cgroup | .record => false

/-- Work leaves what is held as it is, and is in its place where that is what its step takes. -/
theorem placed_of_step? {step : CleanupStep} {entries : List Entry}
    (h : ∀ entry ∈ entries, entry.deed.step? = some step)
    (hheld : stepIsPrivileged engine step = held) :
    Placed engine held entries ∧ holding held entries = held := by
  induction entries with
  | nil => exact ⟨trivial, rfl⟩
  | cons entry entries ih =>
    have hentry : entry.deed.isPrivileged engine = held ∧ entry.after held = held := by
      have hstep := h entry (by simp)
      obtain ⟨deed, answer⟩ := entry
      rw [← hheld]
      cases deed <;> cases hstep <;> exact ⟨rfl, rfl⟩
    obtain ⟨hplaced, hafter⟩ := ih fun entry hmem => h entry (by simp [hmem])
    rw [Placed, holding, List.foldl_cons, hentry.2]
    exact ⟨⟨hentry.1, hplaced⟩, hafter⟩

/-- A section is in its place where no privilege is held, and leaves none. -/
theorem InSection.placed {step : CleanupStep} {work : List Entry → Except Stop Unit → Prop}
    (hstep : ∀ entries result, work entries result →
      ∀ entry ∈ entries, entry.deed.step? = some step)
    (hprivileged : stepIsPrivileged engine step = true) {entries : List Entry}
    {result : Except Stop Unit} (h : InSection work entries result) :
    Placed engine false entries ∧ holding false entries = false := by
  have haround : ∀ {entries result restored}, work entries result →
      Placed engine false (⟨.raise, .ok ()⟩ :: (entries ++ [⟨.restore, restored⟩])) ∧
        holding false (⟨.raise, .ok ()⟩ :: (entries ++ [⟨.restore, restored⟩])) = false := by
    intro entries result restored hwork
    obtain ⟨hplaced, hafter⟩ := placed_of_step? (hstep _ _ hwork) hprivileged
    refine ⟨⟨rfl, placed_append.mpr ⟨hplaced, ?_⟩⟩, ?_⟩
    · show Placed engine (holding true entries) _
      rw [hafter]
      exact ⟨rfl, trivial⟩
    · show holding true (entries ++ _) = false
      rw [holding_append]
      rfl
  cases h with
  | refused | unraised => exact ⟨⟨rfl, trivial⟩, rfl⟩
  | held hwork | brokeDown hwork | lost hwork => exact haround hwork

/-- What is done for a step is in its place where no privilege is held, and leaves none. -/
theorem Done.placed {step : CleanupStep} {entries : List Entry} {result : Except Stop Unit}
    (h : Done engine step entries result) :
    Placed engine false entries ∧ holding false entries = false := by
  cases step with
  | image => exact placed_of_step? h.1 rfl
  | network =>
    unfold Done at h
    cases hnetwork : engine.config.network? with
    | none =>
      simp only [hnetwork] at h
      rw [h.1]
      exact ⟨trivial, rfl⟩
    | some network =>
      have hstep : ∀ (entries : List Entry) (result : Except Stop Unit),
          entries = [⟨.deleteNetwork network, result⟩] →
          ∀ entry ∈ entries, entry.deed.step? = some .network := by
        rintro _ result rfl
        simp [Deed.step?]
      cases hfakeroot : engine.config.fakeroot with
      | true =>
        simp only [hnetwork, hfakeroot, if_true] at h
        exact h.placed hstep hfakeroot
      | false =>
        simp only [hnetwork, hfakeroot, Bool.false_eq_true, if_false] at h
        exact placed_of_step? (hstep _ _ h) hfakeroot
  | cgroup => exact placed_of_step? h.1 rfl
  | record => exact placed_of_step? h.1 rfl
  | crypt =>
    unfold Done at h
    cases hdevice : engine.config.cryptDevice? with
    | none =>
      simp only [hdevice] at h
      rw [h.1]
      exact ⟨trivial, rfl⟩
    | some device =>
      simp only [hdevice] at h
      exact h.placed (fun _ _ hwork => hwork.1) rfl

/-- What is done for several steps is in its place, and no step is begun while privilege is held. -/
theorem Took.placed {steps : List CleanupStep} {sections : List (List Entry)}
    {outcomes : Except Stop (List StepOutcome)} (h : Took engine steps sections outcomes) :
    Placed engine false sections.flatten ∧ holding false sections.flatten = false := by
  have hcons : ∀ {entries : List Entry} {later : List (List Entry)},
      Placed engine false entries ∧ holding false entries = false →
      Placed engine false later.flatten ∧ holding false later.flatten = false →
      Placed engine false (entries :: later).flatten ∧
        holding false (entries :: later).flatten = false := by
    intro entries later hfirst hlater
    rw [List.flatten_cons, placed_append, holding_append, hfirst.2]
    exact ⟨⟨hfirst.1, hlater.1⟩, hlater.2⟩
  have hnil : Placed engine false [] ∧ holding false [] = false := ⟨trivial, rfl⟩
  induction h with
  | finished => exact hnil
  | went hdone _ ih => exact hcons hdone.placed ih
  | failed hdone _ _ ih => exact hcons hdone.placed ih
  | aborted hdone => exact hcons hdone.placed hnil
  | brokeDown hdone => exact hcons hdone.placed hnil

end Placing

/-! ## What breaks down -/

section BreakingDown

variable {engine : Engine} {entries : List Entry}

/-- Where some things done one after the other break down, one of them did. -/
theorem exists_panicked_of_firstStop {last : Except Stop Unit} (hlast : last ≠ .error .panicked)
    (h : firstStop last entries = .error .panicked) :
    ∃ entry ∈ entries, entry.answer = .error .panicked := by
  induction entries with
  | nil => exact absurd h hlast
  | cons entry entries ih =>
    obtain ⟨deed, stop | ⟨⟩⟩ := entry
    · exact ⟨_, List.mem_cons_self, h⟩
    · obtain ⟨later, hmem, hpanicked⟩ := ih h
      exact ⟨later, List.mem_cons_of_mem _ hmem, hpanicked⟩

/-- Work that breaks down has something in it that did. -/
theorem Work.exists_panicked {step : CleanupStep}
    (h : Work step (.ok ()) entries (.error .panicked)) :
    ∃ entry ∈ entries, entry.answer = .error .panicked ∧ entry.deed.step? = some step := by
  obtain ⟨entry, hmem, hpanicked⟩ := exists_panicked_of_firstStop (by simp) h.2.symm
  exact ⟨entry, hmem, hpanicked, h.1 entry hmem⟩

/-- A step that breaks down takes no privilege, and something that was done for it broke down. -/
theorem Done.exists_panicked {step : CleanupStep}
    (h : Done engine step entries (.error .panicked)) :
    ∃ entry ∈ entries, entry.answer = .error .panicked ∧ entry.deed.step? = some step ∧
      stepIsPrivileged engine step = false := by
  cases step with
  | image =>
    obtain ⟨hsteps, hok | ⟨entry, hmem, hpanicked⟩⟩ := h
    · cases hok
    · exact ⟨entry, hmem, hpanicked, hsteps entry hmem, rfl⟩
  | network =>
    unfold Done at h
    cases hnetwork : engine.config.network? with
    | none =>
      simp only [hnetwork] at h
      cases h.2
    | some network =>
      cases hfakeroot : engine.config.fakeroot with
      | true =>
        simp only [hnetwork, hfakeroot, if_true] at h
        exact absurd rfl h.ne_panicked
      | false =>
        simp only [hnetwork, hfakeroot, Bool.false_eq_true, if_false] at h
        subst h
        exact ⟨_, List.mem_cons_self, rfl, rfl, hfakeroot⟩
  | cgroup | record =>
    obtain ⟨entry, hmem, hpanicked, hstep⟩ := Work.exists_panicked h
    exact ⟨entry, hmem, hpanicked, hstep, rfl⟩
  | crypt =>
    unfold Done at h
    cases hdevice : engine.config.cryptDevice? with
    | none =>
      simp only [hdevice] at h
      cases h.2
    | some device =>
      simp only [hdevice] at h
      exact absurd rfl h.ne_panicked

/-- Several steps break down only if something did that was done without privilege. -/
theorem Took.exists_panicked {steps : List CleanupStep} {sections : List (List Entry)}
    {outcomes : Except Stop (List StepOutcome)} (h : Took engine steps sections outcomes)
    (hpanicked : outcomes = .error .panicked) :
    ∃ entry ∈ sections.flatten, entry.answer = .error .panicked ∧
      ∃ step, entry.deed.step? = some step ∧ stepIsPrivileged engine step = false := by
  -- A step that was got over hands the breakdown of those after it on.
  have hlater : ∀ {entries : List Entry} {later : List (List Entry)} {P : Entry → Prop},
      (∃ entry ∈ later.flatten, P entry) → ∃ entry ∈ (entries :: later).flatten, P entry := by
    rintro entries later P ⟨entry, hmem, hP⟩
    exact ⟨entry, by rw [List.flatten_cons]; exact List.mem_append_right _ hmem, hP⟩
  have hmap : ∀ {outcome : StepOutcome} {outcomes : Except Stop (List StepOutcome)},
      outcomes.map (outcome :: ·) = .error .panicked → outcomes = .error .panicked := by
    rintro outcome (stop | _) hmap <;> cases hmap
    rfl
  induction h with
  | finished => cases hpanicked
  | went _ _ ih => exact hlater (ih (hmap hpanicked))
  | failed _ _ _ ih => exact hlater (ih (hmap hpanicked))
  | aborted => cases hpanicked
  | brokeDown hdone =>
    obtain ⟨entry, hmem, hentry, hstep, hflat⟩ := hdone.exists_panicked
    exact ⟨entry, by simpa using hmem, hentry, _, hstep, hflat⟩

end BreakingDown
end Cleanup

open Cleanup

/-- What is known of a cleanup, by what it wrote into the diary and how it ended. -/
structure SectionedCleanup (engine : Engine) (status : ExitStatus) (entries : List Entry)
    (result : Except Stop CleanupReport) : Prop where
  /-- The steps that the container needs are taken one after the other, with their sections. -/
  took : ∃ outcomes, TookAll engine (configured engine) entries outcomes ∧
    result = outcomes.map (⟨status, ·⟩)
  /-- Whatever is done is done with privilege where it has to be, and without it where not. -/
  placed : ∀ before entry later, entries = before ++ entry :: later →
    entry.deed.isPrivileged engine = holding false before
  /-- No privilege is held in the end. -/
  left : holding false entries = false
  /-- A cleanup breaks down only with something that is done outside of all sections. -/
  contained : result = .error .panicked → ∃ entry ∈ entries, entry.answer = .error .panicked ∧
    ∃ step, entry.deed.step? = some step ∧ stepIsPrivileged engine step = false

/-- **Raised privilege in a cleanup**: whatever the calls of a cleanup come to, each step that
takes privilege raises it, does its work and gives it up again before the next step begins, and
nothing else is done while privilege is held.

**Proof sketch.** A section writes down what its work writes, between the raising and the giving up
of privilege, and comes to what the work comes to unless something breaks down in it, which is then
a failure of the section (`bracket_writes`). A step writes such a section into the diary, or its
work alone where it takes no privilege (`runStep_writes`), and a cleanup writes that of its steps
one after the other (`runSteps_writes`). So each step begins and ends with no privilege held, and by
induction on the steps all that a cleanup does is in its place (`Took.placed`). Since no section
breaks down (`InSection.ne_panicked`), a cleanup that does has something in it that broke down
outside of all sections (`Took.exists_panicked`). -/
theorem Engine.cleanup_sections {σ : Type} (sys : System σ) (teardown : Teardown σ)
    (base : System (Diary σ)) (engine : Engine) (fatal? : Option Failure) (status : ExitStatus)
    (world : σ) :
    let ended := engine.cleanup (Diary.system base sys) (Diary.teardown teardown) fatal? status
      ⟨world, []⟩
    SectionedCleanup engine status ended.2.entries ended.1 := by
  have hwrites : Writes
      (engine.cleanup (Diary.system base sys) (Diary.teardown teardown) fatal? status)
      fun entries result => ∃ outcomes, TookAll engine (configured engine) entries outcomes ∧
        result = outcomes.map (⟨status, ·⟩) := by
    unfold Engine.cleanup
    rw [filter_applies]
    cases fatal? with
    | none => exact .report _ _ _ _ ((runSteps_writes engine _).map _)
    | some f => exact .report _ _ _ _ (.report _ _ _ _ ((runSteps_writes engine _).map _))
  intro ended
  obtain ⟨entries, hentries, outcomes, htook, hresult⟩ := hwrites ⟨world, []⟩
  rw [show ended.2.entries = entries from hentries]
  obtain ⟨sections, hsections, hsteps⟩ := htook
  have hplaced := hsteps.placed
  have hpanicked := hsteps.exists_panicked
  rw [← hsections] at hplaced hpanicked
  refine ⟨⟨outcomes, ⟨sections, hsections, hsteps⟩, hresult⟩, ?_, hplaced.2, ?_⟩
  · intro before entry later hsplit
    have hsplits := hplaced.1
    rw [hsplit, placed_append] at hsplits
    exact hsplits.2.1
  · intro hdown
    refine hpanicked ?_
    rw [hdown] at hresult
    rcases outcomes with stop | _ <;> cases hresult
    rfl

end Container
