import Container.System

set_option autoImplicit false

/-!
# Hooks

The scripts of a phase run one after the other through a shell, up to the first that does not
end well.

## Main definitions

* `Hook.labels` — the labels under which the scripts of a phase run.
* `Hook.run` — one script.
* `Hook.runPhase` — all scripts of a phase.

## Main results

* `Hook.length_labels` — every script has a label.
-/

namespace Container.Hook

variable {σ : Type}

/-- The labels under which the scripts of a phase run: the name of the phase if there is one
script, and otherwise its name with a number. -/
def labels (phase : String) (count : Nat) : List String :=
  if count = 1 then [phase] else (List.range count).map fun i => s!"{phase}-{i}"

/-- Every script has a label. -/
@[simp] theorem length_labels (phase : String) (count : Nat) :
    (labels phase count).length = count := by
  unfold labels
  split
  · rename_i h; simp [h]
  · simp

/-- The shell that scripts run through unless another one is named. -/
def defaultShell : Path := "/bin/sh"

/-- The command that runs a script. -/
def command (shell : Path) (script : String) : Command := ⟨shell, ["-c", script], .inherited⟩

/-- Runs one script. -/
def run (sys : System σ) (shell : Path) (label script : String) : Act σ Unit := do
  sys.report .info .hooks s!"running %{label} script" [("script", .text label)]
  let status ← Act.call (sys.run (command shell script)) fun fault =>
    .hook label (.notStarted fault)
  if status.isSuccess then
    sys.report .info .hooks s!"finished running %{label} script, exit status 0"
      [("script", .text label)]
  else Act.fail (.hook label (.ended status))

/-- Runs the scripts of a phase. -/
def runPhase (sys : System σ) (shell : Path) (phase : String) (scripts : List String) :
    Act σ Unit :=
  ((labels phase scripts.length).zip scripts).forM fun (label, script) => run sys shell label script

end Container.Hook
