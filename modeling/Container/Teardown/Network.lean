import Container.System

set_option autoImplicit false

/-!
# Giving network namespaces back

Each namespace is deleted by a program of the system. All of them are tried, and those that
remain are reported together.

## Main definitions

* `NetworkTeardown.delete` — deletes one namespace.
* `NetworkTeardown.deleteAll` — deletes all of them.
-/

namespace Container.NetworkTeardown

variable {σ : Type}

/-- The program that deletes namespaces unless another one is named. -/
def defaultProgram : Path := "ip"

/-- The command that deletes a namespace. -/
def command (program : Path) (namespaceName : String) : Command :=
  ⟨program, ["netns", "delete", namespaceName], .discarded⟩

/-- Deletes a namespace, and says what is wrong if it remains. -/
def delete (sys : System σ) (program : Path) (namespaceName : String) :
    StateM σ (Option NamespaceFault) := do
  sys.report .debug .network "deleting network namespace" [("netns", .shown namespaceName)]
  match ← sys.run (command program namespaceName) with
  | .ok status => return if status.isSuccess then none else some (.ended status)
  | .error fault => return some (.notStarted fault)

/-- Deletes namespaces, and collects those that remain. -/
def remaining (sys : System σ) (program : Path) :
    List String → StateM σ (List (String × NamespaceFault))
  | [] => return []
  | name :: names => do
    let fault? ← delete sys program name
    let rest ← remaining sys program names
    return match fault? with
      | some fault => (name, fault) :: rest
      | none => rest

/-- Deletes all namespaces of a container. -/
def deleteAll (sys : System σ) (program : Path) (network : Network) : Act σ Unit := do
  match ← remaining sys program network.namespaces with
  | [] => return
  | faults => Act.fail (.network (.remaining faults))

end Container.NetworkTeardown
