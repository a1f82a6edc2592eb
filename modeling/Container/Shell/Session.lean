import Container.Programs.Table
import Container.Shell.Arithmetic
import Container.Shell.Pattern
import Container.Shell.Script

set_option autoImplicit false

/-!
# The state of a shell

What a shell remembers between commands: its variables, its arguments, where it is, what its
descriptors lead to, and how the last command ended.

## Main definitions

* `Session` — the state of a shell.
* `ShellM` — computations of a shell on a host.
* `Flow` — where a script goes on after a command.
* `Session.value?` — the value of a parameter.
-/

namespace Container.Shell

/-- A variable of a shell. -/
structure Variable where
  value : Chars
  exported : Bool

/-- How far the options in a list of arguments are read: up to an argument, counted from one, and
where it is within the letters of the argument before, up to a letter of that one. -/
structure OptionPlace where
  argument : Nat
  letter? : Option Nat

/-- The place before all arguments. -/
def OptionPlace.first : OptionPlace := ⟨1, none⟩

/-- The state of a shell. -/
structure Session where
  bindings : List (Chars × Variable)
  /-- The names that are handed on to programs as soon as they have a value. -/
  promised : List Chars
  arguments : List Chars
  /-- The name under which the shell runs. -/
  name : Chars
  view : Viewpoint
  /-- The path by which the shell came to its working directory. -/
  here : Chars
  streams : List (Nat × Stream)
  /-- The exit code of the last command. -/
  status : Nat
  /-- The exit code of the last command put in, since a command was begun. -/
  putIn? : Option Nat
  pid : Nat
  functions : List (Chars × Script)
  aliases : Script.Aliases
  /-- What is done about signals, and at the end. -/
  traps : List (Chars × Chars)
  /-- The letters of the options that are on. -/
  options : Chars
  /-- How far options in arguments are read. -/
  place : OptionPlace
  /-- The names whose values are never changed. -/
  constants : List Chars
  /-- What was under the names that the running function has of its own, the newest first; none
  outside functions. -/
  covered? : Option (List (Chars × Option Variable))
  /-- The scripts that ran beside this one, the newest first: their numbers and exit codes. -/
  beside : List (Nat × Nat)
  /-- How many loops there are around the command that runs. -/
  loops : Nat

/-- Computations of a shell on a host. -/
abbrev ShellM := StateT Session HostM

/-- Where a script goes on after a command. -/
inductive Flow where
  | next
  /-- After so many loops around the command. -/
  | leave (loops : Nat)
  /-- With the next round of so many loops around it. -/
  | again (loops : Nat)
  | returned
  | exited
  /-- The shell ends because something is wrong with a command. -/
  | failed
  | killed (signal : Nat)
  deriving DecidableEq

namespace Session

/-- Whether the shell ends when a command fails. -/
def strict (s : Session) : Bool := s.options.contains 'e'

/-- Whether the shell ends over a parameter without a value. -/
def demanding (s : Session) : Bool := s.options.contains 'u'

/-- Whether words with special characters stay as they are. -/
def literal (s : Session) : Bool := s.options.contains 'f'

/-- Whether commands are shown before they run. -/
def tracing (s : Session) : Bool := s.options.contains 'x'

/-- The letters for options, in the order in which they are shown. -/
def optionOrder : Chars := "ubaCEVvxsnmiIfe".toList

/-- The variable that says how far options in arguments are read. -/
def placeName : Chars := "OPTIND".toList

/-- The value of a variable. -/
def variableValue? (s : Session) (name : Chars) : Option Chars :=
  (s.bindings.lookup name).map (·.value)

/-- The directories in which programs are searched. -/
def searchPath (s : Session) : Chars := (s.variableValue? ['P', 'A', 'T', 'H']).getD []

/-- The characters at which values are split. -/
def separators (s : Session) : Chars := (s.variableValue? ['I', 'F', 'S']).getD [' ', '\t', '\n']

/-- The value of a parameter that has one value. -/
def value? (s : Session) (name : Chars) : Option Chars :=
  match name with
  | ['#'] => some (Chars.ofNat s.arguments.length)
  | ['?'] => some (Chars.ofNat s.status)
  | ['$'] => some (Chars.ofNat s.pid)
  | ['!'] => s.beside.head?.map (Chars.ofNat ·.1)
  | ['-'] => some (optionOrder.filter s.options.contains)
  | ['@'] | ['*'] =>
    if s.arguments.isEmpty then none
    else some (Chars.join (s.separators.take 1) s.arguments)
  | name =>
    match Chars.toNat? name with
    | some 0 => some s.name
    | some (n + 1) => s.arguments[n]?
    | none => s.variableValue? name

/-- Gives a variable a value. -/
def assign (s : Session) (name value : Chars) : Session :=
  let exported := s.promised.contains name || s.options.contains 'a'
  let place : OptionPlace := ⟨max 1 ((Chars.toNat? value).getD 1), none⟩
  let s := if name = placeName then { s with place } else s
  match s.bindings.lookup name with
  | some _ => { s with
      bindings := s.bindings.map fun (n, v) =>
        (n, if n = name then ⟨value, v.exported || exported⟩ else v) }
  | none => { s with bindings := s.bindings ++ [(name, ⟨value, exported⟩)] }

/-- Hands a variable on to programs. -/
def handOn (s : Session) (name : Chars) : Session :=
  { s with
    bindings := s.bindings.map fun (n, v) =>
      (n, if n = name then { v with exported := true } else v)
    promised := name :: s.promised }

/-- Takes a variable away. -/
def unset (s : Session) (name : Chars) : Session :=
  { s with
    bindings := s.bindings.filter (·.1 ≠ name)
    promised := s.promised.filter (· ≠ name) }

/-- Gives the running function a name of its own. The value is still the one from outside. -/
def cover (s : Session) (name : Chars) : Session :=
  { s with covered? := s.covered?.map ((name, s.bindings.lookup name) :: ·) }

/-- Puts back what was under a name. -/
def uncover (s : Session) (name : Chars) (before? : Option Variable) : Session :=
  match before? with
  | none => s.unset name
  | some before =>
    let s := s.assign name before.value
    { s with bindings := s.bindings.map fun (n, v) => (n, if n = name then before else v) }

/-- Puts back what was under the names that the running function has of its own. -/
def uncoverAll (s : Session) : Session :=
  (s.covered?.getD []).foldl (fun s (name, before?) => s.uncover name before?) s

/-- The names that every shell has variables for from its beginning. -/
def standardNames : List String := ["PATH", "PS1", "PS2", "PS4", "IFS", "MAIL", "TERM"]

/-- The bucket in which a shell keeps the variable of a name. -/
def bucketOf (name : Chars) : Nat :=
  (((name.head?.map Char.toNat).getD 0) * 16 + (name.map Char.toNat).foldl (· + ·) 0) % 39

/-- The settings that programs are started with: bucket by bucket, and in each bucket first the
names that every shell has, then the others in the order in which they were set. -/
def settings (s : Session) : List Chars :=
  let isStandard (name : Chars) : Bool := standardNames.contains (String.ofList name)
  let exported := s.bindings.filter (·.2.exported)
  let ordered := exported.filter (isStandard ·.1) ++ exported.filter (!isStandard ·.1)
  (ordered.mergeSort fun a b => decide (bucketOf a.1 ≤ bucketOf b.1)).map fun (n, v) =>
    n ++ '=' :: v.value

/-- What a descriptor leads to. -/
def stream (s : Session) (fd : Nat) : Stream := (s.streams.lookup fd).getD .nothing

/-- Whether what the shell writes goes anywhere. -/
def canWrite (s : Session) : Bool := (s.streams.lookup 1).isSome

/-- Makes a descriptor lead somewhere. -/
def redirect (s : Session) (fd : Nat) (stream : Stream) : Session :=
  { s with streams := (fd, stream) :: s.streams.filter (·.1 ≠ fd) }

/-- What a program is started with. -/
def invocation (s : Session) (arguments : List Chars) : Invocation :=
  ⟨arguments, s.settings, s.view, s.streams⟩

end Session

/-- Writes to the output of the shell. -/
def say (cs : Chars) : ShellM Unit := do
  Host.write ((← get).stream 1) (Chars.bytes cs)

/-- Writes to the output of the shell for errors: who complains, if it is a command of the shell,
and what about. -/
def complain (who : String) (what : Chars) : ShellM Unit := do
  let s ← get
  let told := if who.isEmpty then [] else Chars.ofText (who ++ ": ")
  Host.write (s.stream 2) (Chars.bytes (s.name ++ Chars.ofText ": 1: " ++ told ++ what ++ ['\n']))

/-- Ends a command with an exit code. -/
def finish (code : Nat) : ShellM Flow := do
  modify fun s => { s with status := code }
  return .next

/-- Runs something in a shell of its own, of which only the exit code remains. -/
def apart (act : ShellM Flow) : ShellM Flow := do
  let before ← get
  let flow ← act
  let code := (← get).status
  set { before with status := code }
  match flow with
  | .killed signal => return .killed signal
  | _ => return .next

end Container.Shell
