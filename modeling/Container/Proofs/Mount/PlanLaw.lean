import Container.Proofs.Mount.Plan
import Container.Proofs.Path.Components

set_option autoImplicit false

/-!
# The law of mount plans

There is a plan for every configuration but those with a bound path whose destination steps to a
parent directory. What the plan is can be said in advance: its length, which of its steps may fail,
what each target names, and that no mount hides the processes or the devices that were mounted with
all that is below them. A bound path adds its own step and changes no other.

## Main definitions

* `Bind.Climbs` — a bound path that is refused.
* `Bind.step` — the mount of a bound path that is not.
* `MountPlan.PlanLaw` — what is known of the plan for a configuration.

## Main results

* `MountPlan.mapM_bindStep` — the steps of bound paths, or the first one that is refused.
* `MountPlan.plan_law` — every plan that is made is lawful, and what is refused climbs.
-/

namespace Container

open Container.Path

namespace Bind

/-- The destination of the bound path has a step to a parent directory. -/
def Climbs (bind : Bind) : Prop := .parent ∈ bind.destination.components

instance (bind : Bind) : Decidable bind.Climbs := inferInstanceAs (Decidable (_ ∈ _))

/-- The mount of a bound path, at the names of its destination below the final directory. -/
def step (finalDir : Path) (bind : Bind) : MountStep :=
  .bindTree bind.source.display bind.source (finalDir.below bind.destination.names)

end Bind

namespace MountStep

/-- What is mounted below the source comes with it. -/
def IsRecursive (step : MountStep) : Prop := step.request.flags &&& MountFlags.recursive ≠ 0

theorem isRecursive_bindTree (label : String) (source target : Path) :
    (bindTree label source target).IsRecursive := by
  have hflags : (MountFlags.bind ||| MountFlags.noSetUser ||| MountFlags.recursive) &&&
      MountFlags.recursive ≠ 0 := by decide
  exact hflags

theorem IsRecursive.optional {step : MountStep} (h : step.IsRecursive) :
    step.optional.IsRecursive := h

end MountStep

namespace MountPlan

/-- The mount of the processes, with all that is below them. -/
def processStep (finalDir : Path) : MountStep := .bindTree "proc" "/proc" (finalDir.join "proc")

/-- The mount of the devices, with all that is below them. -/
def deviceStep (finalDir : Path) : MountStep := .bindTree "/dev" "/dev" (finalDir.join "dev")

/-! ## Bound paths -/

/-- The names of a destination inside the root are all its names, unless it steps to a parent
directory. -/
theorem containedNames?_eq (cs : List Component) :
    containedNames? cs =
      if .parent ∈ cs then none else some ((cs.filterMap Component.name?).map .name) := by
  induction cs with
  | nil => rfl
  | cons c cs ih =>
    cases c with
    | name n =>
      rw [containedNames?, ih]
      split <;> simp_all [Component.name?]
    | root | current =>
      rw [containedNames?, ih]
      simp [List.filterMap_cons, Component.name?]
    | parent => simp [containedNames?]

/-- A bound path has a step exactly if its destination does not climb. -/
theorem bindStep_eq (finalDir : Path) (bind : Bind) :
    bindStep finalDir bind =
      if bind.Climbs then .error (.escapes bind.destination) else .ok (bind.step finalDir) := by
  unfold bindStep contained?
  rw [containedNames?_eq]
  by_cases hclimbs : .parent ∈ bind.destination.components
  · have hrefused : bind.Climbs := hclimbs
    simp only [hclimbs, hrefused, if_true, Option.map_eq_map, Option.map_none]
  · have haccepted : ¬ bind.Climbs := hclimbs
    simp only [hclimbs, haccepted, if_false, Option.map_eq_map, Option.map_some,
      ofComponents_names]
    rfl

/-- Bound paths none of which climbs have their steps. -/
theorem mapM_bindStep_of_not_climbs {finalDir : Path} {binds : List Bind}
    (h : ∀ bind ∈ binds, ¬ bind.Climbs) :
    binds.mapM (bindStep finalDir) = .ok (binds.map (Bind.step finalDir)) := by
  induction binds with
  | nil => rfl
  | cons bind binds ih =>
    rw [List.mapM_cons, bindStep_eq, if_neg (h bind (by simp)),
      ih fun bind hmem => h bind (by simp [hmem])]
    rfl

/-- The first bound path that climbs is the one that is refused. -/
theorem mapM_bindStep_of_climbs {finalDir : Path} {before after : List Bind} {bind : Bind}
    (hbefore : ∀ earlier ∈ before, ¬ earlier.Climbs) (hclimbs : bind.Climbs) :
    (before ++ bind :: after).mapM (bindStep finalDir) = .error (.escapes bind.destination) := by
  rw [List.mapM_append, mapM_bindStep_of_not_climbs hbefore, List.mapM_cons, bindStep_eq,
    if_pos hclimbs]
  rfl

/-- Of some bound paths either none climbs, or one is the first that does. -/
theorem climbs_cases (binds : List Bind) :
    (∀ bind ∈ binds, ¬ bind.Climbs) ∨ ∃ before bind after, binds = before ++ bind :: after ∧
      (∀ earlier ∈ before, ¬ earlier.Climbs) ∧ bind.Climbs := by
  induction binds with
  | nil => exact .inl (by simp)
  | cons first binds ih =>
    by_cases hfirst : first.Climbs
    · exact .inr ⟨[], first, binds, rfl, by simp, hfirst⟩
    · rcases ih with hnone | ⟨before, bind, after, rfl, hbefore, hclimbs⟩
      · exact .inl (by simpa using ⟨hfirst, hnone⟩)
      · exact .inr ⟨first :: before, bind, after, rfl, by simpa using ⟨hfirst, hbefore⟩, hclimbs⟩

/-! ## The parts of a plan -/

/-- How many mounts for temporary files a configuration asks for. -/
def tmpCount (config : Config) : Nat := if config.mountTmp then 2 else 0

/-- The steps of the plan for a configuration none of whose bound paths climbs. -/
def lawfulSteps (config : Config) : List MountStep :=
  systemSteps config.rootfs config.layout.finalDir ++ tmpSteps config ++
    config.binds.map (Bind.step config.layout.finalDir) ++ [stagingStep config.layout]

section Parts

variable {config : Config} {step : MountStep} {i : Nat}

theorem length_systemSteps (rootfs finalDir : Path) :
    (systemSteps rootfs finalDir).length = 7 :=
  rfl

theorem length_tmpSteps (config : Config) : (tmpSteps config).length = tmpCount config := by
  unfold tmpSteps tmpSources tmpCount
  split
  · rw [List.length_map]
    split <;> rfl
  · rfl

/-- How many steps come before those of the bound paths. -/
theorem length_before (config : Config) :
    (systemSteps config.rootfs config.layout.finalDir ++ tmpSteps config).length =
      7 + tmpCount config := by
  rw [List.length_append, length_systemSteps, length_tmpSteps]

theorem length_lawfulSteps (config : Config) :
    (lawfulSteps config).length = 8 + tmpCount config + config.binds.length := by
  rw [lawfulSteps, List.length_append, List.length_append, length_before, List.length_map,
    List.length_singleton]
  omega

/-- The step at a place of a plan, by the part in which that place is. -/
theorem lawfulSteps_cases (h : (lawfulSteps config)[i]? = some step) :
    (i < 7 ∧ (systemSteps config.rootfs config.layout.finalDir)[i]? = some step) ∨
    (7 ≤ i ∧ i < 7 + tmpCount config ∧ step ∈ tmpSteps config) ∨
    (7 + tmpCount config ≤ i ∧ ∃ bind ∈ config.binds, step = bind.step config.layout.finalDir) ∨
    (i = 7 + tmpCount config + config.binds.length ∧ step = stagingStep config.layout) := by
  have hsystem := length_systemSteps config.rootfs config.layout.finalDir
  have hbefore := length_before config
  rw [lawfulSteps, List.getElem?_append] at h
  split at h
  case isTrue hinner =>
    rw [List.getElem?_append] at h
    split at h
    case isTrue hearly =>
      rw [List.getElem?_append] at h
      split at h
      case isTrue hfirst => exact .inl ⟨hsystem ▸ hfirst, h⟩
      case isFalse hlater =>
        rw [hbefore] at hearly
        rw [hsystem] at hlater
        exact .inr (.inl ⟨by omega, hearly, List.mem_of_getElem? h⟩)
    case isFalse hlate =>
      rw [hbefore] at hlate
      obtain ⟨bind, hmem, rfl⟩ := List.mem_map.mp (List.mem_of_getElem? h)
      exact .inr (.inr (.inl ⟨by omega, bind, hmem, rfl⟩))
  case isFalse hend =>
    rw [List.length_append, hbefore, List.length_map] at hend h
    obtain ⟨hbound, hstep⟩ := List.getElem?_eq_some_iff.mp h
    rw [List.length_singleton] at hbound
    rw [List.getElem_singleton] at hstep
    exact .inr (.inr (.inr ⟨by omega, hstep.symm⟩))

end Parts

/-! ## The steps of each part -/

section Steps

variable {config : Config} {rootfs finalDir : Path} {step : MountStep} {i : Nat}

/-- The mounts that every container has are required, and made below the final directory. -/
theorem of_mem_systemSteps (h : step ∈ systemSteps rootfs finalDir) :
    step.required = true ∧ finalDir.IsBelow step.request.target := by
  simp only [systemSteps, MountStep.bindTree, List.mem_cons, List.not_mem_nil, or_false] at h
  rcases h with rfl | rfl | rfl | rfl | rfl | rfl | rfl
  · exact ⟨rfl, isBelow_self finalDir⟩
  · exact ⟨rfl, isBelow_below finalDir [Utf8.bytes "proc"] (by decide)⟩
  · exact ⟨rfl, isBelow_below finalDir [Utf8.bytes "sys"] (by decide)⟩
  · exact ⟨rfl, isBelow_below finalDir [Utf8.bytes "home"] (by decide)⟩
  · exact ⟨rfl, isBelow_below finalDir [Utf8.bytes "dev"] (by decide)⟩
  · exact ⟨rfl, isBelow_below finalDir [Utf8.bytes "etc", Utf8.bytes "resolv.conf"]
      (by decide)⟩
  · exact ⟨rfl, isBelow_below finalDir [Utf8.bytes "etc", Utf8.bytes "hosts"]
      (by decide)⟩

/-- The mounts for temporary files are not required, are made below the final directory, and take
along what is below their sources. -/
theorem of_mem_tmpSteps (h : step ∈ tmpSteps config) :
    step.required = false ∧ config.layout.finalDir.IsBelow step.request.target ∧
      step.IsRecursive := by
  obtain ⟨source, target, hmem, rfl⟩ := exists_of_mem_tmpSteps h
  have htarget : target = "tmp" ∨ target = "var/tmp" := by
    unfold tmpSources at hmem
    split at hmem
    all_goals
      simp only [List.mem_cons, Prod.mk.injEq, List.not_mem_nil, or_false] at hmem
      exact hmem.imp And.right And.right
  refine ⟨rfl, ?_, (MountStep.isRecursive_bindTree _ _ _).optional⟩
  rcases htarget with rfl | rfl
  · exact isBelow_below _ [Utf8.bytes "tmp"] (by decide)
  · exact isBelow_below _ [Utf8.bytes "var", Utf8.bytes "tmp"] (by decide)

/-- But for the image, only two of the mounts that every container has leave out what is below
their sources. -/
theorem target_of_not_recursive (h : (systemSteps rootfs finalDir)[i]? = some step) (hi : 0 < i)
    (hflat : ¬ step.IsRecursive) :
    step.request.target = finalDir.below [Utf8.bytes "sys"] ∨
      step.request.target = finalDir.below [Utf8.bytes "home"] := by
  obtain ⟨j, rfl⟩ := Nat.exists_eq_add_of_lt hi
  have hmem : step ∈ (systemSteps rootfs finalDir).tail := by
    rw [Nat.zero_add] at h
    exact List.mem_of_getElem? (i := j) h
  simp only [systemSteps, List.tail_cons, List.mem_cons, List.not_mem_nil, or_false] at hmem
  rcases hmem with rfl | rfl | rfl | rfl | rfl | rfl
  · exact absurd (MountStep.isRecursive_bindTree _ _ _) hflat
  · exact .inl rfl
  · exact .inr rfl
  · exact absurd (MountStep.isRecursive_bindTree _ _ _) hflat
  · exact absurd (MountStep.isRecursive_bindTree _ _ _) hflat
  · exact absurd (MountStep.isRecursive_bindTree _ _ _) hflat

/-- What has one name in a directory is neither the same as, nor above, what has another. -/
theorem not_prefix_of_ne (dir : Path) {n m : Bytes} (hn : IsEntry n) (hm : IsEntry m)
    (hne : n ≠ m) : ¬ (dir.below [n]).components <+: (dir.below [m]).components := by
  rw [components_below dir (by simpa using hn), components_below dir (by simpa using hm),
    List.prefix_append_right_inj]
  simpa using hne

/-- **No mount hides the processes or the devices**: one that is made later and leaves out what is
below its source is made neither on them nor above them. -/
theorem not_hidden {j : Nat} {guarded : MountStep}
    (hguarded : guarded = processStep config.layout.finalDir ∨
      guarded = deviceStep config.layout.finalDir)
    (hj : 0 < j) (h : (lawfulSteps config)[j]? = some step)
    (hflat : ¬ step.IsRecursive) :
    ¬ step.request.target.components <+: guarded.request.target.components := by
  rcases lawfulSteps_cases h with ⟨-, h⟩ | ⟨-, -, h⟩ | ⟨-, bind, -, rfl⟩ | ⟨-, rfl⟩
  · rcases target_of_not_recursive h hj hflat with htarget | htarget
    all_goals
      rw [htarget]
      rcases hguarded with rfl | rfl
    · exact not_prefix_of_ne _ (m := Utf8.bytes "proc") (by decide) (by decide) (by decide)
    · exact not_prefix_of_ne _ (m := Utf8.bytes "dev") (by decide) (by decide) (by decide)
    · exact not_prefix_of_ne _ (m := Utf8.bytes "proc") (by decide) (by decide) (by decide)
    · exact not_prefix_of_ne _ (m := Utf8.bytes "dev") (by decide) (by decide) (by decide)
  · exact absurd (of_mem_tmpSteps h).2.2 hflat
  · exact absurd (MountStep.isRecursive_bindTree _ _ _) hflat
  · have hflags : (MountFlags.bind ||| MountFlags.recursive) &&& MountFlags.recursive ≠ 0 := by
      decide
    exact absurd hflags hflat

end Steps

/-! ## The law -/

/-- What is known of the plan for a configuration. -/
structure PlanLaw (config : Config) (plan : MountPlan) : Prop where
  /-- The mounts that every container has, those for temporary files, one for each bound path in
  order, and the mount of the whole tree. -/
  parts : plan.steps = systemSteps config.rootfs config.layout.finalDir ++ tmpSteps config ++
    config.binds.map (Bind.step config.layout.finalDir) ++ [stagingStep config.layout]
  /-- In the end all that is mounted below the final directory is bound on the session directory. -/
  staged : plan.steps.getLast? = some {
    label := "staging directory"
    request := {
      source := config.layout.finalDir
      target := config.layout.sessionDir
      fstype := ""
      flags := MountFlags.bind ||| MountFlags.recursive
      data := "" }
    required := true }
  length : plan.steps.length = 8 + tmpCount config + config.binds.length
  /-- Those for temporary files, and no others, may fail. -/
  optional : ∀ i step, plan.steps[i]? = some step →
    (step.required = false ↔ 7 ≤ i ∧ i < 7 + tmpCount config)
  /-- Every target but the last is below the final directory. -/
  inside : ∀ i step, plan.steps[i]? = some step → i + 1 < plan.steps.length →
    config.layout.finalDir.IsBelow step.request.target
  /-- The target of a bound path follows all the names of its destination, in order. -/
  bound : ∀ k bind, config.binds[k]? = some bind →
    ∃ step, plan.steps[7 + tmpCount config + k]? = some step ∧
      step.request.source = bind.source ∧
      step.request.target.components =
        config.layout.finalDir.components ++ bind.destination.names.map .name
  /-- The processes and the devices are mounted with what is below them. -/
  guarded : plan.steps[1]? = some (processStep config.layout.finalDir) ∧
    plan.steps[4]? = some (deviceStep config.layout.finalDir)
  /-- No later mount hides them. -/
  unhidden : ∀ (i j : Nat) (guarded step : MountStep), i < j → plan.steps[i]? = some guarded →
    guarded = processStep config.layout.finalDir ∨ guarded = deviceStep config.layout.finalDir →
    plan.steps[j]? = some step → ¬ step.IsRecursive →
    ¬ step.request.target.components <+: guarded.request.target.components
  /-- With other bound paths in their place, if none of them climbs, the plan has their steps in
  the place of the steps of the former, each made from its bound path alone, and no other step
  changes. -/
  rebound : ∀ binds : List Bind, (∀ bind ∈ binds, ¬ bind.Climbs) →
    forContainer { config with binds } =
      .ok ⟨plan.steps.take (7 + tmpCount config) ++
        binds.map (Bind.step config.layout.finalDir) ++ [stagingStep config.layout]⟩

/-- A configuration none of whose bound paths climbs has a plan. -/
theorem forContainer_of_not_climbs (config : Config) (h : ∀ bind ∈ config.binds, ¬ bind.Climbs) :
    forContainer config = .ok ⟨lawfulSteps config⟩ :=
  forContainer_of_mapM (mapM_bindStep_of_not_climbs h)

/-- A plan has the steps that were said in advance. -/
theorem eq_lawfulSteps {config : Config} {plan : MountPlan} (h : forContainer config = .ok plan) :
    plan = ⟨lawfulSteps config⟩ := by
  obtain ⟨steps, hsteps, -⟩ := forContainer_eq_ok h
  rcases climbs_cases config.binds with hnone | ⟨before, bind, after, hbinds, hbefore, hclimbs⟩
  · rw [forContainer_of_not_climbs config hnone] at h
    exact (Except.ok.inj h).symm
  · rw [hbinds, mapM_bindStep_of_climbs hbefore hclimbs] at hsteps
    cases hsteps

/-- The plan with the steps that were said in advance is lawful. -/
theorem planLaw_lawfulSteps (config : Config) : PlanLaw config ⟨lawfulSteps config⟩ where
  parts := rfl
  staged := List.getLast?_concat
  length := length_lawfulSteps config
  optional i step h := by
    rcases lawfulSteps_cases h with ⟨hi, h⟩ | ⟨hlow, hhigh, h⟩ | ⟨hi, bind, -, rfl⟩ | ⟨rfl, rfl⟩
    · simp only [(of_mem_systemSteps (List.mem_of_getElem? h)).1, Bool.true_eq_false, false_iff]
      omega
    · simp only [(of_mem_tmpSteps h).1, hlow, hhigh, and_self]
    · simp only [Bind.step, MountStep.bindTree, Bool.true_eq_false, false_iff]
      omega
    · simp only [stagingStep, Bool.true_eq_false, false_iff]
      omega
  inside i step h hlast := by
    rw [length_lawfulSteps] at hlast
    rcases lawfulSteps_cases h with ⟨-, h⟩ | ⟨-, -, h⟩ | ⟨-, bind, -, rfl⟩ | ⟨rfl, -⟩
    · exact (of_mem_systemSteps (List.mem_of_getElem? h)).2
    · exact (of_mem_tmpSteps h).2.1
    · exact isBelow_below _ _ fun n hn => isEntry_of_mem_names hn
    · omega
  bound k bind hk := by
    refine ⟨bind.step config.layout.finalDir, ?_, rfl,
      components_below _ fun n hn => isEntry_of_mem_names hn⟩
    have hlength := length_before config
    have hbound : k < config.binds.length := (List.getElem?_eq_some_iff.mp hk).1
    show (lawfulSteps config)[_]? = _
    rw [lawfulSteps, List.append_assoc, List.getElem?_append_right (by omega), hlength,
      Nat.add_sub_cancel_left, List.getElem?_append_left (by simpa using hbound),
      List.getElem?_map, hk]
    rfl
  guarded := ⟨rfl, rfl⟩
  unhidden i j guarded step hij _ hguarded hj hflat :=
    not_hidden hguarded (Nat.zero_lt_of_lt hij) hj hflat
  rebound binds h := by
    have hlength := length_before config
    have htake : (lawfulSteps config).take (7 + tmpCount config) =
        systemSteps config.rootfs config.layout.finalDir ++ tmpSteps config := by
      rw [lawfulSteps, List.append_assoc, ← hlength, List.take_left]
    rw [forContainer_of_not_climbs { config with binds } h, htake]
    rfl

/-- **The law of mount plans**: there is a plan exactly if no bound path climbs, and then it is
lawful. Otherwise the first bound path that climbs is named.

**Proof sketch.** A bound path that does not climb has the step that was said in advance
(`bindStep_eq`), so all of them together have theirs (`mapM_bindStep_of_not_climbs`), and the first
that climbs is where going through them ends (`mapM_bindStep_of_climbs`). What holds of the step at
some place of a plan is read off the part in which the place is (`lawfulSteps_cases`,
`planLaw_lawfulSteps`). Nothing is hidden because all steps after the first but two take along what
is below their sources, and those two have other names than the processes and the devices, in the
same directory (`not_hidden`). -/
theorem plan_law (config : Config) :
    match forContainer config with
    | .ok plan => (∀ bind ∈ config.binds, ¬ bind.Climbs) ∧ PlanLaw config plan
    | .error fault =>
      ∃ before bind after, config.binds = before ++ bind :: after ∧
        (∀ earlier ∈ before, ¬ earlier.Climbs) ∧ bind.Climbs ∧
        fault = .escapes bind.destination ∧
        (Failure.config fault).message = "configuration error: bind destination " ++
          bind.destination.display ++ " escapes the container root" := by
  rcases climbs_cases config.binds with hnone | ⟨before, bind, after, hbinds, hbefore, hclimbs⟩
  · rw [forContainer_of_not_climbs _ hnone]
    exact ⟨hnone, planLaw_lawfulSteps config⟩
  · have hrefused : forContainer config = .error (.escapes bind.destination) := by
      unfold forContainer
      rw [hbinds, mapM_bindStep_of_climbs hbefore hclimbs]
      rfl
    rw [hrefused]
    have hmessage : (Failure.config (.escapes bind.destination)).message =
        "configuration error: " ++ ("bind destination " ++ bind.destination.display ++
          " escapes the container root") := rfl
    refine ⟨before, bind, after, hbinds, hbefore, hclimbs, rfl, ?_⟩
    rw [hmessage, ← String.append_assoc, ← String.append_assoc]
    rfl

end MountPlan
end Container
