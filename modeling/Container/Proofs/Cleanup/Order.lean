import Container.Engine.Cleanup

set_option autoImplicit false

/-!
# The order of a cleanup

A cleanup gives back the image, the network, the control group, the record and the encrypted device,
in this order, and each of them only if the container is described to have it. Removing the record
is the one step whose failure ends the cleanup, and only the device comes after it.

## Main definitions

* `Cleanup.configured` — the steps of a cleanup, one by one.
* `Cleanup.beforeRecord` — those before the record is removed.

## Main results

* `Cleanup.filter_applies` — these are the steps that a cleanup goes through.
* `Cleanup.configured_eq_append` — what comes before the record, and what comes from there on.
-/

namespace Container

/-- Only a record that cannot be removed ends a cleanup. -/
theorem CleanupStep.isAbortive_iff {step : CleanupStep} :
    step.isAbortive = true ↔ step = .record := by
  cases step <;> decide

namespace Cleanup

variable {engine : Engine}

/-- The steps of a cleanup that nothing ends, which are those that the container needs. -/
def configured (engine : Engine) : List CleanupStep :=
  (if engine.config.deleteImage then [.image] else []) ++
  (if engine.config.network?.isSome then [.network] else []) ++
  (if engine.config.cgroup?.isSome then [.cgroup] else []) ++
  (if engine.config.hasRecord then [.record] else []) ++
  (if engine.config.cryptDevice?.isSome then [.crypt] else [])

/-- Those of them that come before the record is removed. -/
def beforeRecord (engine : Engine) : List CleanupStep :=
  (if engine.config.deleteImage then [.image] else []) ++
  (if engine.config.network?.isSome then [.network] else []) ++
  (if engine.config.cgroup?.isSome then [.cgroup] else [])

/-- **These are the steps that a cleanup goes through.** -/
theorem filter_applies (engine : Engine) :
    CleanupStep.order.filter (·.applies engine.config) = configured engine := by
  have hcons : ∀ (keep : CleanupStep → Bool) (step : CleanupStep) (steps : List CleanupStep),
      (step :: steps).filter keep = (if keep step then [step] else []) ++ steps.filter keep := by
    intro keep step steps
    cases hkeep : keep step <;> simp [hkeep]
  simp only [CleanupStep.order, hcons, List.filter_nil, List.append_nil]
  simp only [configured, List.append_assoc]
  rfl

/-- A step is taken if the container needs it. -/
theorem mem_configured {step : CleanupStep} :
    step ∈ configured engine ↔ step.applies engine.config := by
  have horder : step ∈ CleanupStep.order := by cases step <;> decide
  rw [← filter_applies, List.mem_filter, and_iff_right horder]

/-- No step is taken twice. -/
theorem nodup_configured (engine : Engine) : (configured engine).Nodup := by
  have horder : CleanupStep.order.Nodup := by decide
  rw [← filter_applies]
  exact horder.sublist List.filter_sublist

/-- The steps before the record is removed, and those from there on. -/
theorem configured_eq_append (engine : Engine) :
    configured engine = beforeRecord engine ++
      ((if engine.config.hasRecord then [CleanupStep.record] else []) ++
        if engine.config.cryptDevice?.isSome then [CleanupStep.crypt] else []) := by
  simp only [configured, beforeRecord, List.append_assoc]

/-- The steps before the record is removed end nothing, and the device is given back after it. -/
theorem isAbortive_of_mem_beforeRecord {step : CleanupStep} (h : step ∈ beforeRecord engine) :
    step.isAbortive = false ∧ step ≠ .crypt := by
  have hmem : step = .image ∨ step = .network ∨ step = .cgroup := by
    simp only [beforeRecord, List.mem_append, List.mem_ite_nil_right, List.mem_singleton] at h
    rcases h with (⟨-, h⟩ | ⟨-, h⟩) | ⟨-, h⟩
    · exact .inl h
    · exact .inr (.inl h)
    · exact .inr (.inr h)
  rcases hmem with rfl | rfl | rfl <;> exact ⟨rfl, by decide⟩

end Cleanup
end Container
