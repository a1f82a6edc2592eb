import Mathlib
import Container.Proofs.Creation.RunLaw

set_option autoImplicit false

/-!
# The hooks of a phase

The scripts of a phase are run one after the other, up to the first that does not exit with code
zero, and that one is reported under its label. As no two scripts of a phase have the same label, it
is known from the report which of them is to blame, even where the same script stands in a phase
twice.

## Main definitions

* `Hook.started` — the call that runs a script.
* `Hook.Blames` — what is wrong with an answer to such a call.
* `Hook.PhaseRun` — the calls by which a phase is run, and what they come to.
* `Hook.LabelLaw`, `Hook.PhaseLaw` — what is known of labels, and of a phase that was run.

## Main results

* `Hook.labelLaw` — the labels of a phase.
* `Hook.phase_law` — what is known of every phase.
-/

namespace Container.Hook

variable {σ : Type}

/-! ## Labels -/

/-- What is known of the labels of so many scripts. -/
structure LabelLaw (phase : String) (count : Nat) : Prop where
  /-- There are as many as there are scripts. -/
  length : (labels phase count).length = count
  /-- No two of them are the same. -/
  nodup : (labels phase count).Nodup
  /-- A script alone runs under the name of its phase. -/
  alone : count = 1 → labels phase count = [phase]
  /-- One of several runs under that name and its number. -/
  numbered : count ≠ 1 → ∀ i < count, (labels phase count)[i]? = some (phase ++ "-" ++ toString i)

/-- No two numbers make the same label. -/
theorem numbered_injective (phase : String) :
    Function.Injective fun i : Nat => phase ++ "-" ++ toString i := by
  intro i j h
  exact Nat.repr_injective ((String.append_right_inj (phase ++ "-")).mp h)

/-- The labels of several scripts. -/
theorem labels_of_ne_one (phase : String) {count : Nat} (h : count ≠ 1) :
    labels phase count = (List.range count).map fun i => phase ++ "-" ++ toString i := by
  unfold labels
  rw [if_neg h]
  rfl

/-- **The labels of a phase**: as many as there are scripts, and no two the same. -/
theorem labelLaw (phase : String) (count : Nat) : LabelLaw phase count where
  length := length_labels phase count
  nodup := by
    by_cases hcount : count = 1
    · subst hcount
      exact List.nodup_singleton phase
    · rw [labels_of_ne_one phase hcount]
      exact List.nodup_range.map (numbered_injective phase)
  alone := by
    rintro rfl
    rfl
  numbered hcount i hi := by
    rw [labels_of_ne_one phase hcount, List.getElem?_map, List.getElem?_range hi, Option.map_some]

example : labels "setup" 3 = ["setup-0", "setup-1", "setup-2"] := by decide

/-! ## Scripts -/

/-- The call that runs a script: the shell is given the script as its command. -/
def started (shell : Path) (script : String) (answer : Except IoFault ExitStatus) : Ledger.Entry :=
  .run ⟨shell, ["-c", script], .inherited⟩ answer

/-- What is wrong with an answer: the shell was not started, or did not exit with code zero. -/
inductive Blames : Except IoFault ExitStatus → HookFault → Prop
  | notStarted (fault : IoFault) : Blames (.error fault) (.notStarted fault)
  | ended {status : ExitStatus} (hstatus : status ≠ .exited 0) : Blames (.ok status) (.ended status)

variable {shell : Path} {phase label script : String} {scripts : List String}
  {entry : Ledger.Entry} {entries : List Ledger.Entry} {result : Except Stop Unit}

/-- A script that is passed exited with code zero. -/
theorem eq_started_of_answered
    (h : (CreationStep.hook label script).Answered shell entry (.ok ())) :
    entry = started shell script (.ok (.exited 0)) := by
  obtain ⟨status, rfl, hstatus⟩ := h.of_hook
  rw [← ExitStatus.isSuccess_iff.mp hstatus]
  rfl

/-- A script that ends a phase is reported under its label. -/
theorem blames_of_answered {stop : Stop}
    (h : (CreationStep.hook label script).Answered shell entry (.error stop)) :
    ∃ answer fault, entry = started shell script answer ∧ Blames answer fault ∧
      stop = .failed (.hook label fault) := by
  generalize houtcome : (Except.error stop : Except Stop Unit) = outcome at h
  cases h with
  | hook _ _ answer =>
    cases answer with
    | error fault =>
      cases houtcome
      exact ⟨_, _, rfl, .notStarted fault, rfl⟩
    | ok status =>
      cases hstatus : status.isSuccess with
      | true => simp [hookOutcome, hstatus] at houtcome
      | false =>
        simp only [hookOutcome, hstatus, Bool.false_eq_true, if_false, Except.error.injEq]
          at houtcome
        refine ⟨_, _, rfl, .ended fun hzero => ?_, houtcome⟩
        rw [ExitStatus.isSuccess_iff.mpr hzero] at hstatus
        cases hstatus

/-! ## Phases -/

/-- The calls by which a phase is run, and what they come to. -/
inductive PhaseRun (shell : Path) (phase : String) (scripts : List String) :
    List Ledger.Entry → Except Stop Unit → Prop
  /-- All scripts are run and exit with code zero. -/
  | finished : PhaseRun shell phase scripts
      (scripts.map fun script => started shell script (.ok (.exited 0))) (.ok ())
  /-- A script does not exit with code zero. It is the last that is run, and is reported under its
  label. -/
  | stopped {before after : List String} {script label : String}
      {answer : Except IoFault ExitStatus} {fault : HookFault}
      (hscripts : scripts = before ++ script :: after)
      (hlabel : (labels phase scripts.length)[before.length]? = some label)
      (hblames : Blames answer fault) :
      PhaseRun shell phase scripts
        ((before.map fun script => started shell script (.ok (.exited 0))) ++
          [started shell script answer])
        (.error (.failed (.hook label fault)))

/-- What is known of a phase that was run, by the calls that were made and what they came to. -/
structure PhaseLaw (shell : Path) (phase : String) (scripts : List String)
    (entries : List Ledger.Entry) (result : Except Stop Unit) : Prop where
  /-- The scripts are run in order, each once, up to the first that does not exit with code zero. -/
  run : PhaseRun shell phase scripts entries result
  /-- The phase succeeds exactly if all of them were run and exited with code zero. -/
  ok_iff : result = .ok () ↔
    entries = scripts.map fun script => started shell script (.ok (.exited 0))
  /-- Otherwise a label is reported, which is that of the last script that was run and of no other
  script of the phase. -/
  blamed : ∀ stop, result = .error stop → ∃ label fault, stop = .failed (.hook label fault) ∧
    ∀ place, (labels phase scripts.length)[place]? = some label ↔ place + 1 = entries.length

/-- The scripts that were passed, read off their calls. -/
theorem eq_map_started {named : List (String × String)}
    (h : List.Forall₂ (fun named entry =>
      (CreationStep.hook named.1 named.2).Answered shell entry (.ok ())) named entries) :
    entries = (named.map Prod.snd).map fun script => started shell script (.ok (.exited 0)) := by
  induction h with
  | nil => rfl
  | cons hfirst _ ih => rw [List.map_cons, List.map_cons, ← ih, eq_started_of_answered hfirst]

/-- A run of the steps of a phase runs the phase. -/
theorem phaseRun_of_ran
    (h : Ran shell (((labels phase scripts.length).zip scripts).map fun (label, script) =>
      CreationStep.hook label script) entries result) :
    PhaseRun shell phase scripts entries result := by
  have hlength := length_labels phase scripts.length
  have hscripts : ((labels phase scripts.length).zip scripts).map Prod.snd = scripts :=
    List.map_snd_zip hlength.ge
  have hlabels : ((labels phase scripts.length).zip scripts).map Prod.fst =
      labels phase scripts.length := List.map_fst_zip hlength.le
  generalize (labels phase scripts.length).zip scripts = named at h hscripts hlabels
  rcases h.finished_or_stopped with
    ⟨rfl, hentries⟩ |
    ⟨before, ⟨label, script⟩, after, early, entry, stop, rfl, rfl, hearly, hlast, rfl⟩
  · rw [eq_map_started hentries, hscripts]
    exact .finished
  · obtain ⟨answer, fault, rfl, hblames, rfl⟩ := blames_of_answered hlast
    have hsplit : scripts = before.map Prod.snd ++ script :: after.map Prod.snd := by
      rw [← hscripts]
      simp
    rw [eq_map_started hearly]
    refine .stopped hsplit ?_ hblames
    rw [← hlabels]
    simp

/-- A phase that is run succeeds exactly if all of its scripts did. -/
theorem PhaseRun.ok_iff (h : PhaseRun shell phase scripts entries result) : result = .ok () ↔
    entries = scripts.map fun script => started shell script (.ok (.exited 0)) := by
  cases h with
  | finished => exact iff_of_true rfl rfl
  | @stopped before after script label answer fault hscripts hlabel hblames =>
    refine iff_of_false nofun fun hall => ?_
    rw [hscripts, List.map_append, List.map_cons] at hall
    obtain ⟨hlast, -⟩ := List.cons.inj (List.append_cancel_left hall)
    have hanswer : answer = .ok (.exited 0) := by simpa [started] using hlast
    subst hanswer
    cases hblames with
    | ended hstatus => exact hstatus rfl

/-- The label that is reported is that of the last script that was run. -/
theorem PhaseRun.blamed (h : PhaseRun shell phase scripts entries result) {stop : Stop}
    (hstop : result = .error stop) : ∃ label fault, stop = .failed (.hook label fault) ∧
      ∀ place, (labels phase scripts.length)[place]? = some label ↔ place + 1 = entries.length := by
  cases h with
  | finished => cases hstop
  | @stopped before after script label answer fault hscripts hlabel hblames =>
    cases hstop
    refine ⟨label, fault, rfl, fun place => ?_⟩
    have hplace : (labels phase scripts.length)[place]? = some label ↔ place = before.length := by
      refine ⟨fun hother => ?_, fun heq => heq ▸ hlabel⟩
      have hbound := (List.getElem?_eq_some_iff.mp hother).1
      exact (List.getElem?_inj hbound (labelLaw phase scripts.length).nodup).mp
        (hother.trans hlabel.symm)
    simpa using hplace

/-- **Running the hooks of a phase**: the scripts are run in order up to the first that does not
exit with code zero, and the label that is reported then tells which one it was.

**Proof sketch.** Each script is a step of a creation, and a list of steps is a run that ends with
its last step or with the first that fails (`CreationStep.forM_ran`). There are as many labels as
scripts, so no script is left out when the two are put together, and the run of the steps is a run
of the phase (`phaseRun_of_ran`). Such a run succeeds exactly if every script exits with code zero,
and otherwise its last call is the one that did not, whose label is reported (`PhaseRun.ok_iff`,
`PhaseRun.blamed`). The labels are those that are said in advance, one for each number, and no two
of them are the same (`labelLaw`). -/
theorem phase_law (sys : System σ) (shell : Path) (phase : String) (scripts : List String)
    (world : σ) :
    let ended := runPhase (Ledger.system .whole sys) shell phase scripts (.start world)
    PhaseLaw shell phase scripts ended.2.entries ended.1 ∧ ∀ count, LabelLaw phase count := by
  intro ended
  -- No hook makes use of privileged operations.
  let ops : Privileged σ := ⟨fun _ => pure 0, fun _ => pure 0, pure ()⟩
  obtain ⟨result, l, entries, hrun, hentries, hran⟩ := CreationStep.forM_ran sys ops shell
    (((labels phase scripts.length).zip scripts).map fun (label, script) =>
      CreationStep.hook label script) (.start world)
  have hended : ended = (result, l) := by
    rw [← hrun, ← Engine.runPhase_eq]
  have hphase := phaseRun_of_ran hran
  rw [hended, show l.entries = entries from hentries]
  exact ⟨⟨hphase, hphase.ok_iff, fun _ => hphase.blamed⟩, labelLaw phase⟩

end Container.Hook
