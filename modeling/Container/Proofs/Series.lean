import Mathlib.Data.List.Forall2
import Container.Proofs.Act

set_option autoImplicit false

/-!
# Computations one after the other

Computations are made one after the other, whatever becomes of each. What one of them comes to
depends on those before it. If a machine without a world answers each of them as the computation
does, and goes from state to state along with the world, it answers all of them so.

## Main definitions

* `Act.each` — a computation for each item of a list, whatever becomes of the others.
* `Act.Preserves` — a computation that leaves an invariant intact.
* `Act.byHistory` — the machine whose state is the list of the items so far.

## Main results

* `Act.Preserves.bind`, `Act.Preserves.each`, … — invariants of computations put together.

* `Act.each_agrees`, `Act.each_of_step` — from one step of a machine to all of them.
* `Act.byHistory_split` — what that machine answers at each place.
-/

namespace Container.Act

variable {σ τ ι α β : Type} {act : ι → Act σ α}

/-- Makes a computation for each item, whatever becomes of those before it. -/
def each (act : ι → Act σ α) (items : List ι) : Act σ (List (Except Failure α)) :=
  items.mapM fun item => (act item).guarded

@[simp] theorem each_nil (act : ι → Act σ α) (s : σ) : each act [] s = (.ok [], s) := rfl

/-- A computation that does not break down is followed by the others. -/
theorem each_cons {item : ι} {s s' : σ} {outcome : Except Failure α}
    (h : (act item).guarded s = (.ok outcome, s')) (items : List ι) :
    each act (item :: items) s =
      ((each act items s').1.map (outcome :: ·), (each act items s').2) := by
  unfold each
  rw [List.mapM_cons, run_bind, h]
  simp only [run_bind]
  rcases List.mapM (fun item => (act item).guarded) items s' with ⟨_ | _, _⟩ <;> rfl

/-- **From one step to all of them**: if the answer of a machine to each item agrees with what the
computation comes to, in states that belong together, so do its answers to a whole list.

**Proof sketch.** By induction on the items; the states belong together again after each. -/
theorem each_agrees (machine : ι → StateM τ β) {Agree : β → Except Failure α → Prop}
    {Together : τ → σ → Prop} {items : List ι}
    (hstep : ∀ item ∈ items, ∀ t s, Together t s → ∃ outcome s',
      (act item).guarded s = (.ok outcome, s') ∧ Agree (machine item t).1 outcome ∧
        Together (machine item t).2 s')
    {t : τ} {s : σ} (h : Together t s) :
    ∃ outcomes s', each act items s = (.ok outcomes, s') ∧
      List.Forall₂ Agree (items.mapM machine t).1 outcomes ∧
      Together (items.mapM machine t).2 s' := by
  induction items generalizing t s with
  | nil => exact ⟨[], s, rfl, .nil, h⟩
  | cons item items ih =>
    obtain ⟨outcome, mid, hfirst, hagree, hmid⟩ := hstep item (by simp) t s h
    obtain ⟨outcomes, s', hrest, hagrees, hs'⟩ :=
      ih (fun later hlater => hstep later (by simp [hlater])) hmid
    have hmachine : (item :: items).mapM machine t =
        ((machine item t).1 :: (items.mapM machine (machine item t).2).1,
          (items.mapM machine (machine item t).2).2) := by
      rw [List.mapM_cons]
      rfl
    rw [hmachine]
    exact ⟨outcome :: outcomes, s', by rw [each_cons hfirst, hrest]; rfl, .cons hagree hagrees, hs'⟩

/-- A machine that answers every item just as the computation does answers a whole list so. -/
theorem each_of_step (machine : ι → StateM τ (Except Failure α)) {Together : τ → σ → Prop}
    (hstep : ∀ item t s, Together t s → ∃ s', (act item).guarded s = (.ok (machine item t).1, s') ∧
      Together (machine item t).2 s')
    (items : List ι) {t : τ} {s : σ} (h : Together t s) :
    ∃ s', each act items s = (.ok (items.mapM machine t).1, s') ∧
      Together (items.mapM machine t).2 s' := by
  have hequal : ∀ item ∈ items, ∀ t s, Together t s → ∃ outcome s',
      (act item).guarded s = (.ok outcome, s') ∧ (machine item t).1 = outcome ∧
        Together (machine item t).2 s' := by
    intro item _ t s h
    obtain ⟨s', hrun, hs'⟩ := hstep item t s h
    exact ⟨_, s', hrun, rfl, hs'⟩
  obtain ⟨outcomes, s', hrun, hsame, hs'⟩ := each_agrees machine hequal h
  rw [List.forall₂_eq_eq_eq] at hsame
  exact ⟨s', by rw [hrun, hsame], hs'⟩

/-- A computation followed by another succeeds if both do. -/
theorem exists_of_bind {first : Act σ α} {next : α → Act σ β} {b : β} {s s' : σ}
    (h : (first >>= next) s = (.ok b, s')) :
    ∃ a mid, first s = (.ok a, mid) ∧ next a mid = (.ok b, s') := by
  rw [run_bind] at h
  rcases hfirst : first s with ⟨stop | a, mid⟩
  · rw [hfirst] at h
    cases h
  · rw [hfirst] at h
    exact ⟨a, mid, rfl, h⟩

/-! ## Invariants -/

/-- A computation leaves intact what holds of the world, whether or not it succeeds. -/
def Preserves (I : σ → Prop) (act : Act σ α) : Prop := ∀ s, I s → I (act s).2

namespace Preserves

variable {I : σ → Prop} {act : Act σ α}

/-- What holds after a run. -/
theorem after (h : Preserves I act) {s s' : σ} {result : Except Stop α}
    (hrun : act s = (result, s')) (hs : I s) : I s' := by
  have hend := h s hs
  rwa [hrun] at hend

theorem pure (a : α) : Preserves I (Pure.pure a : Act σ α) := fun _ h => h

theorem fail (f : Failure) : Preserves I (Act.fail f : Act σ α) := fun _ h => h

/-- What only changes the state. -/
theorem lift {m : StateM σ α} (h : ∀ s, I s → I (m s).2) : Preserves I (liftM m : Act σ α) := h

/-- A call, whatever its failure is called. -/
theorem call {ε : Type} {m : StateM σ (Except ε α)} {failure : ε → Failure}
    (h : ∀ s, I s → I (m s).2) : Preserves I (Act.call m failure) := by
  intro s hs
  rw [run_call]
  exact h s hs

/-- One computation after another. -/
theorem bind {next : α → Act σ β} (h : Preserves I act) (hnext : ∀ a, Preserves I (next a)) :
    Preserves I (act >>= next) := by
  intro s hs
  have hmid := h s hs
  rw [run_bind]
  rcases hact : act s with ⟨stop | a, mid⟩
  · rwa [hact] at hmid
  · rw [hact] at hmid
    exact hnext a mid hmid

/-- A computation whose failure is handed over. -/
theorem guarded (h : Preserves I act) : Preserves I act.guarded := by
  intro s hs
  have hend := h s hs
  rw [run_guarded]
  rcases hact : act s with ⟨(f | _) | a, s'⟩
  all_goals rwa [hact] at hend

/-- A computation whose failure is reported. -/
theorem onFailure {report : Failure → StateM σ Unit} (h : Preserves I act)
    (hreport : ∀ f s, I s → I (report f s).2) : Preserves I (act.onFailure report) := by
  intro s hs
  have hend := h s hs
  rw [run_onFailure]
  rcases hact : act s with ⟨(f | _) | a, s'⟩
  all_goals rw [hact] at hend
  · exact hreport f s' hend
  · exact hend
  · exact hend

/-- Computations one after the other, up to the first that does not succeed. -/
theorem forM {act : ι → Act σ PUnit} {items : List ι} (h : ∀ item ∈ items, Preserves I (act item)) :
    Preserves I (items.forM act) := by
  induction items with
  | nil => exact .pure _
  | cons item items ih =>
    rw [List.forM_eq_forM, List.forM_cons]
    exact (h item (by simp)).bind fun _ => ih fun later hlater => h later (by simp [hlater])

/-- **All that is done one after the other** leaves intact what each part of it does. -/
theorem each {act : ι → Act σ α} (h : ∀ item, Preserves I (act item)) (items : List ι) :
    Preserves I (Act.each act items) := by
  induction items with
  | nil => exact fun _ hs => hs
  | cons item items ih =>
    unfold Act.each at ih ⊢
    rw [List.mapM_cons]
    exact (h item).guarded.bind fun _ => ih.bind fun _ => .pure _

end Preserves

/-! ## Items by their history -/

/-- The machine whose state is the list of the items so far. -/
def byHistory (answer : List ι → ι → β) (item : ι) : StateM (List ι) β := fun before =>
  (answer before item, before ++ [item])

variable (answer : List ι → ι → β)

/-- The machine answers each item by those before it, and notes all of them. -/
theorem byHistory_split (before items : List ι) :
    (items.mapM (byHistory answer) before).2 = before ++ items ∧
      (items.mapM (byHistory answer) before).1.length = items.length ∧
      ∀ earlier item later, items = earlier ++ item :: later →
        (items.mapM (byHistory answer) before).1[earlier.length]? =
          some (answer (before ++ earlier) item) := by
  induction items generalizing before with
  | nil => exact ⟨by simp, rfl, by simp⟩
  | cons first items ih =>
    obtain ⟨hnoted, hlength, hanswers⟩ := ih (before ++ [first])
    have hmachine : (first :: items).mapM (byHistory answer) before =
        (answer before first :: (items.mapM (byHistory answer) (before ++ [first])).1,
          (items.mapM (byHistory answer) (before ++ [first])).2) := by
      rw [List.mapM_cons]
      rfl
    rw [hmachine]
    refine ⟨by rw [hnoted]; simp, by simp [hlength], ?_⟩
    intro earlier item later hsplit
    cases earlier with
    | nil =>
      obtain ⟨rfl, -⟩ := List.cons.inj hsplit
      simp
    | cons e earlier =>
      obtain ⟨rfl, hrest⟩ := List.cons.inj hsplit
      simpa using hanswers earlier item later hrest

end Container.Act
