import Container.Mount.Plan
import Container.Proofs.Path.Text

set_option autoImplicit false

/-!
# What a mount plan is made of

A plan for a configuration has four parts: the mounts of every container, those for temporary
files, one for each bound path, and the mount of the whole tree at the end. What holds of the
steps of each part holds of the steps of the plan.

## Main definitions

* `Config.IsText` — a configuration whose paths are text.

## Main results

* `MountPlan.forContainer_eq_ok` — what the plan for a configuration is.
* `MountPlan.isText_of_mem` — all paths of a plan are text if those of its configuration are.
-/

namespace Container

/-- The paths of a configuration that its root is made from are text. -/
structure Config.IsText (config : Config) : Prop where
  rootfs : config.rootfs.IsText
  sessionDir : config.layout.sessionDir.IsText
  finalDir : config.layout.finalDir.IsText
  sources : ∀ bind ∈ config.binds, bind.source.IsText
  destinations : ∀ bind ∈ config.binds, bind.destination.IsText

namespace MountPlan

variable {config : Config} {plan : MountPlan}

/-- The steps for a list of bound paths are made from these paths one by one. -/
theorem exists_of_mem_mapM {binds : List Bind} {finalDir : Path} {steps : List MountStep}
    (h : binds.mapM (bindStep finalDir) = .ok steps) {step : MountStep} (hstep : step ∈ steps) :
    ∃ bind ∈ binds, bindStep finalDir bind = .ok step := by
  induction binds generalizing steps with
  | nil =>
    cases h
    simp at hstep
  | cons bind binds ih =>
    rw [List.mapM_cons] at h
    cases hfirst : bindStep finalDir bind with
    | error fault => simp [hfirst, Bind.bind, Except.bind] at h
    | ok first =>
      cases hrest : binds.mapM (bindStep finalDir) with
      | error fault => simp [hfirst, hrest, Bind.bind, Except.bind] at h
      | ok rest =>
        simp only [hfirst, hrest, Bind.bind, Except.bind, pure, Except.pure, Except.ok.injEq] at h
        subst h
        rcases List.mem_cons.mp hstep with rfl | hstep
        · exact ⟨bind, by simp, hfirst⟩
        · obtain ⟨bind', hmem, hbind'⟩ := ih hrest hstep
          exact ⟨bind', by simp [hmem], hbind'⟩

/-- The plan for a configuration, if it has one, has four parts. -/
theorem forContainer_eq_ok (h : forContainer config = .ok plan) :
    ∃ binds, config.binds.mapM (bindStep config.layout.finalDir) = .ok binds ∧
      plan.steps = systemSteps config.rootfs config.layout.finalDir ++ tmpSteps config ++ binds ++
        [stagingStep config.layout] := by
  unfold forContainer at h
  cases hbinds : config.binds.mapM (bindStep config.layout.finalDir) with
  | error fault => simp [hbinds, bind, Except.bind] at h
  | ok binds =>
    simp only [hbinds, bind, Except.bind, pure, Except.pure, Except.ok.injEq] at h
    exact ⟨binds, rfl, h ▸ rfl⟩

/-- A configuration whose bound paths all stay inside the root has a plan. -/
theorem forContainer_of_mapM {binds : List MountStep}
    (h : config.binds.mapM (bindStep config.layout.finalDir) = .ok binds) :
    forContainer config = .ok ⟨systemSteps config.rootfs config.layout.finalDir ++
      tmpSteps config ++ binds ++ [stagingStep config.layout]⟩ := by
  unfold forContainer
  rw [h]
  rfl

/-! ## Destinations -/

/-- The names of a destination are its components that are names. -/
theorem mem_of_containedNames? {cs names : List Path.Component}
    (h : containedNames? cs = some names) {c : Path.Component} (hc : c ∈ names) :
    c ∈ cs ∧ ∃ n, c = .name n := by
  induction cs generalizing names with
  | nil =>
    cases h
    simp at hc
  | cons first cs ih =>
    cases first with
    | name n =>
      obtain ⟨rest, hrest, rfl⟩ := Option.map_eq_some_iff.mp h
      rcases List.mem_cons.mp hc with rfl | hc
      · exact ⟨by simp, n, rfl⟩
      · obtain ⟨hmem, hname⟩ := ih hrest hc
        exact ⟨by simp [hmem], hname⟩
    | root =>
      obtain ⟨hmem, hname⟩ := ih h hc
      exact ⟨by simp [hmem], hname⟩
    | current =>
      obtain ⟨hmem, hname⟩ := ih h hc
      exact ⟨by simp [hmem], hname⟩
    | parent => cases h

/-- A bound path is mounted at names below the root that are components of its destination. -/
theorem exists_of_bindStep {finalDir : Path} {bind : Bind} {step : MountStep}
    (h : bindStep finalDir bind = .ok step) :
    ∃ names, containedNames? bind.destination.components = some names ∧
      step = .bindTree bind.source.display bind.source
        (finalDir.join (Path.ofComponents names)) := by
  unfold bindStep contained? at h
  cases hnames : containedNames? bind.destination.components with
  | none => simp [hnames] at h
  | some names =>
    simp only [hnames, Option.map_eq_map, Option.map_some, Except.ok.injEq] at h
    exact ⟨names, rfl, h.symm⟩

/-- The mounts for temporary files are made from the directories for them. -/
theorem exists_of_mem_tmpSteps {step : MountStep} (h : step ∈ tmpSteps config) :
    ∃ source target, (source, target) ∈ tmpSources config ∧
      step = (MountStep.bindTree ("/" ++ target) source
        (config.layout.finalDir.join target)).optional := by
  unfold tmpSteps at h
  split at h
  · obtain ⟨⟨source, target⟩, hmem, rfl⟩ := List.mem_map.mp h
    exact ⟨source, target, hmem, rfl⟩
  · simp at h

/-! ## Paths -/

/-- The directories for temporary files are text. -/
theorem isText_of_mem_tmpSources (hconfig : config.IsText) {source : Path} {target : String}
    (h : (source, target) ∈ tmpSources config) : source.IsText := by
  have hsession : ∀ s : String, (config.layout.sessionDir.join s).IsText := fun s =>
    hconfig.sessionDir.join (Path.isText_ofText s)
  unfold tmpSources at h
  split at h
  · simp only [List.mem_cons, Prod.mk.injEq, List.not_mem_nil, or_false] at h
    rcases h with ⟨rfl, -⟩ | ⟨rfl, -⟩
    · exact hsession _
    · exact hsession _
  · simp only [List.mem_cons, Prod.mk.injEq, List.not_mem_nil, or_false] at h
    rcases h with ⟨rfl, -⟩ | ⟨rfl, -⟩
    · exact Path.isText_ofText _
    · exact Path.isText_ofText _

/-- **All paths of a plan are text** if those of its configuration are. -/
theorem isText_of_mem (hconfig : config.IsText) (h : forContainer config = .ok plan)
    {step : MountStep} (hstep : step ∈ plan.steps) :
    step.request.source.IsText ∧ step.request.target.IsText := by
  obtain ⟨binds, hbinds, hsteps⟩ := forContainer_eq_ok h
  have hfinal := hconfig.finalDir
  have hjoin : ∀ s : String, (config.layout.finalDir.join s).IsText := fun s =>
    hfinal.join (Path.isText_ofText s)
  simp only [hsteps, List.mem_append, List.mem_singleton] at hstep
  rcases hstep with ((hstep | hstep) | hstep) | rfl
  · simp only [systemSteps, MountStep.bindTree, List.mem_cons, List.not_mem_nil, or_false] at hstep
    rcases hstep with rfl | rfl | rfl | rfl | rfl | rfl | rfl
    · exact ⟨hconfig.rootfs, hfinal⟩
    · exact ⟨Path.isText_ofText _, hjoin _⟩
    · exact ⟨Path.isText_ofText _, hjoin _⟩
    · exact ⟨Path.isText_ofText _, hjoin _⟩
    · exact ⟨Path.isText_ofText _, hjoin _⟩
    · exact ⟨Path.isText_ofText _, hjoin _⟩
    · exact ⟨Path.isText_ofText _, hjoin _⟩
  · obtain ⟨source, target, hmem, rfl⟩ := exists_of_mem_tmpSteps hstep
    exact ⟨isText_of_mem_tmpSources hconfig hmem, hjoin _⟩
  · obtain ⟨bind, hbind, hmade⟩ := exists_of_mem_mapM hbinds hstep
    obtain ⟨names, hnames, rfl⟩ := exists_of_bindStep hmade
    have htext : ∀ c ∈ names, c.IsText := fun c hc =>
      Path.isText_of_mem_components (hconfig.destinations bind hbind)
        (mem_of_containedNames? hnames hc).1
    exact ⟨hconfig.sources bind hbind, hfinal.join (Path.isText_ofComponents htext)⟩
  · exact ⟨hfinal, hconfig.sessionDir⟩

end MountPlan
end Container
