import Container.Command.Runner
import Container.Host.Transcript
import Container.Rehearsal.Helper

set_option autoImplicit false

/-!
# A rehearsed command

A command line is carried out on a host in memory, with or without a helper to connect to.

## Main definitions

* `Rehearsal.runCommand` — a command line without a helper.
* `Encounter.runCommand` — a command line with one.
* `Rehearsal.exitCode?` — the exit code of the process that carried a command out.
-/

namespace Container

namespace Rehearsal

/-- The exit code of a command line that is not understood, and of one that asks for help. -/
def misuseCode : Nat := 2
def informationCode : Nat := 0

/-- The exit code of a process that broke down. -/
def breakdownCode : Nat := 101

/-- The exit code of the process that carried a command out: that of the program it was handed
over to, which has none if a signal ended it, or else its own. -/
def exitCode? (r : Rehearsal) (own : Except Stop Nat) : Option Nat :=
  match r.host.ended?, own with
  | some status, _ => status.code?
  | none, .ok code => some code
  | none, .error _ => some breakdownCode

/-- What a command line comes to if there is nothing to carry out. -/
def withoutTask? : CommandLine → Except Nat Task
  | .misuse => .error misuseCode
  | .information => .error informationCode
  | .task t => .ok t

/-- Carries a command line out without a helper. -/
def runCommand (env : Environment) (arguments : List String) (r : Rehearsal) :
    Option Nat × Rehearsal :=
  match withoutTask? (CommandLine.read arguments) with
  | .error code => (some code, r)
  | .ok task =>
    let (code, r) := Runner.finish system env ⟨closedPlace, openPlace⟩ task r
    (r.exitCode? code, r)

end Rehearsal

/-- Carries a command line out while a helper listens at a socket. The helper is told to shut
down in the end. -/
def Encounter.runCommand (socket : Path) (script : OperationScript) (env : Environment)
    (arguments : List String) (e : Encounter) : Option Nat × Encounter :=
  match Rehearsal.withoutTask? (CommandLine.read arguments) with
  | .error code => (some code, (happen socket script .shutdown e).2)
  | .ok task =>
    let places : Runner.Places Encounter :=
      ⟨placeIn Rehearsal.closedPlace, placeIn Rehearsal.openPlace⟩
    let (code, e) := Runner.finish (system socket script) env places task e
    let e := (happen socket script .shutdown e).2
    (e.rehearsal.exitCode? code, e)

end Container
