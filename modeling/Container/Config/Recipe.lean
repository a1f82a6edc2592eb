set_option autoImplicit false

/-!
# Hook recipes

A recipe says which scripts run in which phase of a container's life. Its phases are kept in
the order of their names, each of them once, so that two recipes with the same scripts in
every phase are the same recipe, however they came about.

## Main definitions

* `Recipe` — phases with their scripts.
* `Recipe.scripts` — the scripts of a phase.
* `Recipe.push` — adds a script to a phase.

## Main results

* `Recipe.scripts_push` — pushing a script adds it to its own phase and to no other.
-/

namespace Container

/-- The phase whose hooks run before anything is mounted. -/
def Phase.pre : String := "pre"

/-- The phase whose hooks run when everything is mounted, before the root is changed. -/
def Phase.setup : String := "setup"

/-- Phases with their scripts, in the order of the names of the phases. -/
structure Recipe where
  phases : List (String × List String)
  sorted : phases.Pairwise (fun a b => a.1 < b.1) := by simp

namespace Recipe

/-- The recipe without scripts. -/
def empty : Recipe := ⟨[], .nil⟩

/-- The scripts of a phase, in the order in which they run. -/
def scripts (recipe : Recipe) (phase : String) : List String :=
  (recipe.phases.lookup phase).getD []

/-- Changes the scripts of a phase, which is added where it is missing. -/
def alterIn (phase : String) (f : List String → List String) :
    List (String × List String) → List (String × List String)
  | [] => [(phase, f [])]
  | (p, scripts) :: rest =>
    if phase < p then (phase, f []) :: (p, scripts) :: rest
    else if phase = p then (p, f scripts) :: rest
    else (p, scripts) :: alterIn phase f rest

/-- Every phase after a change was there before or is the one changed. -/
theorem mem_alterIn {phase : String} {f : List String → List String}
    {phases : List (String × List String)} {entry : String × List String}
    (h : entry ∈ alterIn phase f phases) : entry ∈ phases ∨ entry.1 = phase := by
  induction phases with
  | nil => simp only [alterIn, List.mem_singleton] at h; exact .inr (by rw [h])
  | cons head rest ih =>
    simp only [alterIn] at h
    split at h
    · rcases List.mem_cons.1 h with rfl | h
      · exact .inr rfl
      · exact .inl h
    · split at h
      · rename_i heq
        rcases List.mem_cons.1 h with rfl | h
        · exact .inr heq.symm
        · exact .inl (List.mem_cons_of_mem _ h)
      · rcases List.mem_cons.1 h with rfl | h
        · exact .inl (List.mem_cons_self ..)
        · rcases ih h with h | h
          · exact .inl (List.mem_cons_of_mem _ h)
          · exact .inr h

/-- Changing a phase keeps the phases in order. -/
theorem sorted_alterIn {phase : String} {f : List String → List String}
    {phases : List (String × List String)} (h : phases.Pairwise (fun a b => a.1 < b.1)) :
    (alterIn phase f phases).Pairwise (fun a b => a.1 < b.1) := by
  induction phases with
  | nil => simp [alterIn]
  | cons head rest ih =>
    obtain ⟨p, scripts⟩ := head
    have hrest := List.pairwise_cons.1 h
    simp only [alterIn]
    split
    · rename_i hlt
      refine List.pairwise_cons.2 ⟨fun entry hmem => ?_, h⟩
      rcases List.mem_cons.1 hmem with rfl | hmem
      · exact hlt
      · exact String.lt_trans hlt (hrest.1 entry hmem)
    · split
      · exact List.pairwise_cons.2 ⟨hrest.1, hrest.2⟩
      · rename_i hnot hne
        refine List.pairwise_cons.2 ⟨fun entry hmem => ?_, ih hrest.2⟩
        rcases mem_alterIn hmem with hmem | heq
        · exact hrest.1 entry hmem
        · rw [heq]
          exact Decidable.byContradiction fun h =>
            hne (String.le_antisymm (String.not_lt.1 h) (String.not_lt.1 hnot))

/-- Changes the scripts of a phase. -/
def alter (recipe : Recipe) (phase : String) (f : List String → List String) : Recipe :=
  ⟨alterIn phase f recipe.phases, sorted_alterIn recipe.sorted⟩

/-- Adds a script to a phase, after those that are there. -/
def push (recipe : Recipe) (phase script : String) : Recipe :=
  recipe.alter phase (· ++ [script])

/-- Gives a phase these scripts, in place of those it had. -/
def set (recipe : Recipe) (phase : String) (scripts : List String) : Recipe :=
  recipe.alter phase fun _ => scripts

/-- A phase that comes before all others has no scripts yet. -/
theorem lookup_eq_none {phase : String} {phases : List (String × List String)}
    (h : ∀ entry ∈ phases, phase < entry.1) : phases.lookup phase = none := by
  induction phases with
  | nil => rfl
  | cons head rest ih =>
    have hne : (phase == head.1) = false := by
      rw [beq_eq_false_iff_ne]
      intro heq
      exact String.lt_irrefl _ (heq ▸ h head (List.mem_cons_self ..))
    rw [List.lookup_cons, hne]
    exact ih fun entry hmem => h entry (List.mem_cons_of_mem _ hmem)

/-- A changed phase has its changed scripts, and every other phase the scripts it had. -/
theorem lookup_alterIn {phase : String} {f : List String → List String}
    {phases : List (String × List String)} (h : phases.Pairwise (fun a b => a.1 < b.1))
    (p : String) :
    (alterIn phase f phases).lookup p =
      if p = phase then some (f ((phases.lookup phase).getD [])) else phases.lookup p := by
  induction phases with
  | nil =>
    by_cases hp : p = phase <;> simp [alterIn, List.lookup_cons, hp, beq_eq_false_iff_ne.2]
  | cons head rest ih =>
    obtain ⟨q, scripts⟩ := head
    have hrest := List.pairwise_cons.1 h
    simp only [alterIn]
    split
    · rename_i hlt
      have hnone : ((q, scripts) :: rest).lookup phase = none :=
        lookup_eq_none fun entry hmem => by
          rcases List.mem_cons.1 hmem with rfl | hmem
          · exact hlt
          · exact String.lt_trans hlt (hrest.1 entry hmem)
      rw [hnone, List.lookup_cons]
      by_cases hp : p = phase <;> simp [hp, beq_eq_false_iff_ne.2]
    · split
      · rename_i heq
        subst heq
        by_cases hp : p = phase <;> simp [List.lookup_cons, hp, beq_eq_false_iff_ne.2]
      · rename_i hne
        rw [List.lookup_cons, ih hrest.2, List.lookup_cons, List.lookup_cons]
        by_cases hp : p = phase
        · subst hp; simp [beq_eq_false_iff_ne.2 hne]
        · simp [hp]

/-- **Pushing a script** adds it to the end of its own phase and to no other. -/
theorem scripts_push (recipe : Recipe) (phase script p : String) :
    (recipe.push phase script).scripts p =
      if p = phase then recipe.scripts p ++ [script] else recipe.scripts p := by
  simp only [scripts, push, alter, lookup_alterIn recipe.sorted]
  by_cases hp : p = phase <;> simp [hp]

end Recipe
end Container
