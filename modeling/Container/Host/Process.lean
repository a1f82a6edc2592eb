import Container.Shell.Run

set_option autoImplicit false

/-!
# Processes of a host

A process is started from a file: a program of the system, or a script whose first line names
the program that reads it. Programs that are named without a slash are searched for.

## Main definitions

* `Process.interpreter?` — the program that a script names, with its argument.
* `Process.startAt` — starts what is at a path.
* `Process.launch` — starts a program, searching for it.
* `Host.runCommand`, `Host.handOver` — what this library starts.
-/

namespace Container

namespace Process

open Programs (Launch)

/-- The greatest length of an argument, and how deep scripts may name scripts. -/
def argumentLimit : Nat := 131071
def interpreterDepth : Nat := 5

/-- How deep processes may start processes. -/
def processDepth : Nat := 40

/-- The part of a script in which its first line has to end. -/
def headLength : Nat := 256

/-- A text without the blanks around it. -/
def trimmed (cs : Chars) : Chars :=
  ((cs.dropWhile Chars.isBlank).reverse.dropWhile Chars.isBlank).reverse

/-- The program that the first line of a script names, and the argument that follows it there. -/
def interpreter? (content : Bytes) : Option (Chars × Option Chars) :=
  match Chars.ofBytes (content.take headLength) with
  | '#' :: '!' :: cs =>
    let (program, rest) := (trimmed (cs.takeWhile (· ≠ '\n'))).span fun c => !Chars.isBlank c
    let argument := trimmed rest
    if program.isEmpty then none
    else some (program, if argument.isEmpty then none else some argument)
  | _ => none

/-- The shells of a host. -/
def shellNames : List String := ["sh", "dash", "bash"]

/-- Runs a program of the system. -/
def runProgram (launch : Launch) (name : String) (inv : Invocation) :
    HostM (Except Errno ExitStatus) := do
  if shellNames.contains name then return .ok (← Shell.shell launch inv)
  else
    match Programs.find? launch name with
    | some program => return .ok (← program inv)
    | none => return .error .notExecutableFormat

/-- Starts what is at a path, where at most `depth` scripts name one another. -/
def startAt (launch : Launch) : Nat → Chars → Invocation → HostM (Except Errno ExitStatus)
  | 0, _, _ => return .error .tooManyLinks
  | depth + 1, path, inv => do
    match (← get).tree.statAt inv.view (Programs.path path) with
    | .error e => return .error e
    | .ok f =>
      match f.kind with
      | .program name =>
        if f.permits .run then runProgram launch name inv else return .error .accessDenied
      | .regular content =>
        if ¬ f.permits .run then return .error .accessDenied
        else
          match interpreter? content with
          | none => return .error .notExecutableFormat
          | some (program, argument?) =>
            startAt launch depth program
              { inv with arguments := program :: argument?.toList ++ path :: inv.arguments.drop 1 }
      | _ => return .error .accessDenied

/-- Starts what is at the first of some paths that leads to a file that may be run. `denied` is
set where there was one already that may not. -/
def startFirst (start : Chars → HostM (Except Errno ExitStatus)) (denied : Bool) :
    List Chars → HostM (Except Errno ExitStatus)
  | [] => return .error (if denied then .accessDenied else .notFound)
  | path :: paths => do
    match ← start path with
    | .ok status => return .ok status
    | .error e =>
      if e = .accessDenied then startFirst start true paths
      else if e = .notFound ∨ e = .notDirectory then startFirst start denied paths
      else return .error e

/-- Whether an argument or a setting is longer than any may be. -/
def isTooLong (inv : Invocation) : Bool :=
  (inv.arguments ++ inv.settings).any (argumentLimit < ·.length)

/-- Starts what is at a path, unless it is given more than any program may be. -/
def startChecked (launch : Launch) (inv : Invocation) (path : Chars) :
    HostM (Except Errno ExitStatus) := do
  if isTooLong inv then
    match (← get).tree.statAt inv.view (Programs.path path) with
    | .error e => return .error e
    | .ok f =>
      return .error (if f.isDir || !f.permits .run then .accessDenied else .argumentsTooLong)
  else startAt launch interpreterDepth path inv

/-- Starts a program, searching for it. Processes start processes at most `depth` deep. -/
def launch : Nat → Launch
  | 0 => fun _ _ => return .error .tryAgain
  | depth + 1 => fun search? inv => do
    let name := inv.arguments.head?.getD []
    if name.isEmpty then return .error .notFound
    else
      let start := startChecked (launch depth) inv
      if name.contains '/' then start name
      else startFirst start false (Programs.candidates search? name)

end Process

namespace Host

/-- The settings of an environment. -/
def settingsOf (environment : Environment) : List Chars :=
  environment.entries.map fun (name, value) =>
    Chars.ofBytes name ++ '=' :: Chars.ofBytes value

/-- The descriptors of a process whose output goes somewhere and that has nothing to read. -/
def streamsTo (output : Stream) : List (Nat × Stream) :=
  [(0, .nothing), (1, output), (2, .nothing)]

/-- Runs a command to its end. -/
def runCommand (command : Command) : HostM (Except IoFault ExitStatus) := do
  let arguments := command.program.bytes :: command.arguments.map Utf8.bytes
  if arguments.any (·.contains 0) then return .error .nulInArgument
  else
    let host ← get
    let output : Stream := match command.output with
      | .inherited => .terminal
      | .discarded => .nothing
    let inv : Invocation := ⟨arguments.map Chars.ofBytes, settingsOf host.environment, host.view,
      streamsTo output⟩
    match ← Process.launch Process.processDepth (inv.setting? (Programs.chars "PATH")) inv with
    | .ok status => return .ok status
    | .error e => return .error (.os e)

/-- Hands the process over to a program, which runs to its end. There is no search. -/
def handOver (handoff : Handoff) : HostM (Option Errno) := do
  let inv : Invocation := ⟨handoff.arguments.map Chars.ofText, handoff.environment.map Chars.ofText,
    (← get).view, streamsTo .terminal⟩
  let launch := Process.launch Process.processDepth
  match ← Process.startChecked launch inv (Chars.ofText handoff.program) with
  | .ok status =>
    modify fun host => { host with ended? := some status }
    return none
  | .error e => return some e

end Host
end Container
