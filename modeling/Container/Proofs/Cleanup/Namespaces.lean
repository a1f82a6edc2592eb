import Container.Proofs.Ledger
import Container.Teardown.Network

set_option autoImplicit false

/-!
# Giving all network namespaces back

A namespace that cannot be deleted does not keep the others: the program is run for each of them,
in the order in which they are named, and what is reported in the end are those for which it did
not exit with code zero. A namespace that is named twice is tried twice, and each try counts for
itself.

## Main definitions

* `NetworkTeardown.attempted` — the call that deletes a namespace.
* `NetworkTeardown.complaint?`, `NetworkTeardown.complaints` — what is said of a namespace after
  that, and of all of them.
* `NetworkTeardown.DeletionLaw` — what is known of deleting all of them.

## Main results

* `NetworkTeardown.remaining_run` — the calls that are made, and what is collected from them.
* `NetworkTeardown.deletion_law` — what is known of deleting the namespaces of any network.
-/

namespace Container.NetworkTeardown

variable {σ : Type}

/-- The call that deletes a namespace, with what was answered. -/
def attempted (program : Path) (name : String) (answer : Except IoFault ExitStatus) :
    Ledger.Entry :=
  .run ⟨program, ["netns", "delete", name], .discarded⟩ answer

/-- What is said of a namespace after the program was run for it: nothing if that exited with code
zero, and otherwise its name and either how the program ended or why it was not started. -/
def complaint? (name : String) : Except IoFault ExitStatus → Option String
  | .ok status => if status = .exited 0 then none else some (name ++ ": " ++ status.message)
  | .error fault => some (name ++ ": " ++ fault.message)

example : complaint? "blue" (.ok (.exited 1)) = some "blue: exit status: 1" := by decide

/-- What is said of namespaces, by what was answered for each of them. -/
def complaints (names : List String) (answers : List (Except IoFault ExitStatus)) : List String :=
  (names.zip answers).filterMap fun (name, answer) => complaint? name answer

/-- What is known of deleting namespaces, by what was answered for each of them. -/
structure DeletionLaw (program : Path) (names : List String)
    (answers : List (Except IoFault ExitStatus)) (entries : List Ledger.Entry)
    (result : Except Stop Unit) : Prop where
  /-- There is an answer for each namespace. -/
  length : answers.length = names.length
  /-- The program is run once for each of them, in order, and nothing else is done. -/
  run : entries = List.zipWith (attempted program) names answers
  /-- All goes well exactly if the program exited with code zero every time. -/
  ok_iff : result = .ok () ↔ ∀ answer ∈ answers, answer = .ok (.exited 0)
  /-- Otherwise all those are reported for which it did not, in order, and no others. -/
  reported : ∀ stop, result = .error stop → ∃ fault, stop = .failed (.network fault) ∧
    fault.message = "failed to delete network namespaces: " ++
      ", ".intercalate (complaints names answers)

/-! ## One namespace -/

/-- What is collected for a namespace. -/
def collected? (name : String) : Except IoFault ExitStatus → Option (String × NamespaceFault)
  | .ok status => if status.isSuccess then none else some (name, .ended status)
  | .error fault => some (name, .notStarted fault)

/-- What is collected is what there is to complain about. -/
theorem map_collected? (name : String) (answer : Except IoFault ExitStatus) :
    (collected? name answer).map (fun (name, fault) => s!"{name}: {fault.message}") =
      complaint? name answer := by
  cases answer with
  | error fault => rfl
  | ok status =>
    by_cases h : status = .exited 0
    · subst h
      rfl
    · have hfailed : ¬ status.isSuccess = true := fun hsuccess =>
        h (ExitStatus.isSuccess_iff.mp hsuccess)
      simp only [collected?, complaint?, if_neg hfailed, if_neg h]
      rfl

/-- Nothing is collected where the program exited with code zero, and only there. -/
theorem collected?_eq_none_iff {name : String} {answer : Except IoFault ExitStatus} :
    collected? name answer = none ↔ answer = .ok (.exited 0) := by
  cases answer with
  | error fault => simp [collected?]
  | ok status => simp [collected?, ExitStatus.isSuccess_iff]

/-- The program is run for a namespace, and the answer is looked at. -/
theorem delete_run {sys : System σ} {program : Path} {name : String} {l : Ledger σ}
    {answer : Except IoFault ExitStatus} {world : σ}
    (h : sys.run (command program name) l.world = (answer, world)) :
    ∃ fault?, delete (Ledger.system .whole sys) program name l =
        (fault?, ⟨world, l.entries ++ [attempted program name answer]⟩) ∧
      fault?.map (fun fault => (name, fault)) = collected? name answer := by
  have hrun : (Ledger.system .whole sys).run (command program name) l =
      (answer, ⟨world, l.entries ++ [attempted program name answer]⟩) := by
    simp only [Ledger.system, Slot.run_eq, Slot.whole, Ledger.note, h]
    rfl
  have hreport := (Ledger.system_isSilent .whole sys).report
  simp only [delete, hreport, Act.bind_apply, Act.pure_apply, hrun]
  cases answer with
  | error fault => exact ⟨_, rfl, rfl⟩
  | ok status =>
    refine ⟨_, rfl, ?_⟩
    simp only [collected?]
    split <;> rfl

/-! ## All of them -/

/-- What is collected for namespaces. -/
def collected (names : List String) (answers : List (Except IoFault ExitStatus)) :
    List (String × NamespaceFault) :=
  (names.zip answers).filterMap fun (name, answer) => collected? name answer

/-- What is collected is what is said. -/
theorem map_collected (names : List String) (answers : List (Except IoFault ExitStatus)) :
    (collected names answers).map (fun (name, fault) => s!"{name}: {fault.message}") =
      complaints names answers := by
  rw [collected, complaints, List.map_filterMap]
  congr 1
  funext (name, answer)
  exact map_collected? name answer

/-- Nothing is collected exactly if every answer was a success. -/
theorem collected_eq_nil_iff {names : List String} {answers : List (Except IoFault ExitStatus)}
    (h : answers.length = names.length) :
    collected names answers = [] ↔ ∀ answer ∈ answers, answer = .ok (.exited 0) := by
  have hanswers : (names.zip answers).map Prod.snd = answers := List.map_snd_zip (by omega)
  rw [collected, List.filterMap_eq_nil_iff]
  constructor
  · intro hnone answer hanswer
    rw [← hanswers] at hanswer
    obtain ⟨⟨name, answer⟩, htried, rfl⟩ := List.mem_map.mp hanswer
    exact collected?_eq_none_iff.mp (hnone _ htried)
  · rintro hall ⟨name, answer⟩ htried
    have hmem : answer ∈ answers := (List.of_mem_zip htried).2
    exact collected?_eq_none_iff.mpr (hall answer hmem)

/-- The program is run for one namespace after the other, whatever comes of each. -/
theorem remaining_run {sys : System σ} {program : Path} {names : List String} {l : Ledger σ}
    {answers : List (Except IoFault ExitStatus)} {world : σ}
    (h : (names.mapM fun name => sys.run (command program name)) l.world = (answers, world)) :
    answers.length = names.length ∧
      remaining (Ledger.system .whole sys) program names l =
        (collected names answers,
          ⟨world, l.entries ++ List.zipWith (attempted program) names answers⟩) := by
  induction names generalizing l answers world with
  | nil =>
    obtain ⟨rfl, rfl⟩ := Prod.mk.inj h
    exact ⟨rfl, by simp [remaining, collected]⟩
  | cons name names ih =>
    rcases hrun : sys.run (command program name) l.world with ⟨answer, world₁⟩
    rcases hrest : (names.mapM fun name => sys.run (command program name)) world₁ with
      ⟨rest, world₂⟩
    simp only [List.mapM_cons, Act.bind_apply, Act.pure_apply, hrun, hrest] at h
    obtain ⟨rfl, rfl⟩ := Prod.mk.inj h
    obtain ⟨fault?, hdelete, hfault⟩ := delete_run hrun
    obtain ⟨hlength, hremaining⟩ :=
      @ih ⟨world₁, l.entries ++ [attempted program name answer]⟩ _ _ hrest
    refine ⟨by simp [hlength], ?_⟩
    -- The rest goes on from the world and the ledger that the first call left.
    simp only [remaining, Act.bind_apply, Act.pure_apply, hdelete, hremaining, collected,
      List.zip_cons_cons, List.filterMap_cons, ← hfault, List.zipWith_cons_cons, List.append_assoc,
      List.singleton_append]
    cases fault? <;> rfl

/-- What becomes of a network, by the namespaces that were collected. -/
def outcome : List (String × NamespaceFault) → Except Stop Unit
  | [] => .ok ()
  | faults => .error (.failed (.network (.remaining faults)))

/-- All namespaces are tried before anything is said of those that remain. -/
theorem deleteAll_run (sys : System σ) (program : Path) (network : Network) (s : σ) :
    deleteAll sys program network s =
      (outcome (remaining sys program network.namespaces s).1,
        (remaining sys program network.namespaces s).2) := by
  rw [deleteAll, Act.run_bind, Act.run_lift]
  rcases remaining sys program network.namespaces s with ⟨_ | ⟨fault, faults⟩, s'⟩ <;> rfl

/-- What is collected from the answers is all that is known of the deletion. -/
theorem deletionLaw_outcome (program : Path) {names : List String}
    {answers : List (Except IoFault ExitStatus)} (h : answers.length = names.length) :
    DeletionLaw program names answers (List.zipWith (attempted program) names answers)
      (outcome (collected names answers)) := by
  have hnone := collected_eq_nil_iff h
  have hsaid := map_collected names answers
  generalize collected names answers = faults at hnone hsaid
  cases faults with
  | nil => exact ⟨h, rfl, iff_of_true rfl (hnone.mp rfl), nofun⟩
  | cons fault faults =>
    refine ⟨h, rfl, iff_of_false nofun fun hall => ?_, fun stop hstop => ?_⟩
    · cases hnone.mpr hall
    · cases hstop
      refine ⟨_, rfl, ?_⟩
      rw [← hsaid]
      rfl

/-- **Deleting the namespaces of a network**: the program is run once for each namespace, in the
order in which they are named, whatever it came to before, and those are reported for which it did
not exit with code zero.

**Proof sketch.** Deleting them all is deleting one after the other and collecting what there is to
complain about (`deleteAll_run`). By induction on the namespaces, each adds its own call to the
ledger and, where that failed, its own fault to what is collected, and leaves the world as the call
does (`remaining_run`). A fault is collected for an answer exactly if that is no exit with code
zero, so none are left exactly if every answer was a success, and the faults stand in the order of
the namespaces (`deletionLaw_outcome`). -/
theorem deletion_law (sys : System σ) (program : Path) (network : Network) (world : σ) :
    let asked := (network.namespaces.mapM fun name => sys.run (command program name)) world
    let ended := deleteAll (Ledger.system .whole sys) program network (.start world)
    ended.2.world = asked.2 ∧
      DeletionLaw program network.namespaces asked.1 ended.2.entries ended.1 := by
  intro asked ended
  obtain ⟨hlength, hremaining⟩ :=
    @remaining_run σ sys program network.namespaces (.start world) asked.1 asked.2 rfl
  have hended : ended = (outcome _, _) := deleteAll_run _ program network (Ledger.start world)
  rw [hremaining] at hended
  rw [hended]
  exact ⟨rfl, deletionLaw_outcome program hlength⟩

end Container.NetworkTeardown
