import Container.Config.Basic
import Container.ExitStatus
import Container.Teardown.Registry

set_option autoImplicit false

/-!
# Command lines

What a command line asks for. An option is given as `--name value`, `--name=value`, `-n value`,
`-nvalue` or `-n=value`, at most once; a value does not begin with a hyphen unless it follows
an equals sign. Arguments are looked at in order, and the first that is wrong or asks for help
decides; what is missing, and what excludes what, is noticed at the end.

## Main definitions

* `Task` — what the program is asked to do.
* `CommandLine` — what a command line comes to.
* `CommandLine.read` — reads one.
-/

namespace Container

/-- By whom the root of a container is put together: this process, or the helper at a socket,
which may be the default one. -/
inductive Privileges where
  | inProcess
  | helper (socket? : Option Path)
  deriving DecidableEq

/-- What the program is asked to do with the container described in a document. -/
inductive Task where
  | create (document : Path) (privileges : Privileges)
  | start (document : Path)
  | run (document : Path) (privileges : Privileges)
  | cleanup (document : Path) (status : ExitStatus) (registryRoot : Path)
  deriving DecidableEq

/-- What a command line comes to. -/
inductive CommandLine where
  | task (t : Task)
  /-- It asks for help or for the version. -/
  | information
  /-- It is not understood. -/
  | misuse
  deriving DecidableEq

namespace CommandLine

/-- The number that digits with an optional sign denote, if it has at most thirty-two bits. -/
def readStatus? (s : String) : Option ExitStatus :=
  let (negative, digits) := match s.toList with
    | '-' :: digits => (true, digits)
    | '+' :: digits => (false, digits)
    | digits => (false, digits)
  if digits.isEmpty ∨ ¬ digits.all Char.isDigit then none
  else
    let n : Nat := digits.foldl (fun n c => n * 10 + (c.toNat - '0'.toNat)) 0
    let i : Int := if negative then -n else n
    if -2 ^ 31 ≤ i ∧ i < 2 ^ 31 then some (.ofInt i) else none

/-- A path given as a value, which must not be empty. -/
def path? (value : String) : Option Path := if value.isEmpty then none else some (.ofText value)

/-- What an option takes. -/
inductive Takes where
  | nothing
  | path
  | status
  deriving DecidableEq

/-- Whether a text is a value that an option takes. -/
def Takes.accepts : Takes → String → Bool
  | .nothing, _ => false
  | .path, value => (path? value).isSome
  | .status, value => (readStatus? value).isSome

/-- An option: its long name, its letter if it has one, and what it takes. -/
structure Opt where
  long : String
  letter? : Option Char
  takes : Takes

/-- The option that names the document. -/
def documentOption : Opt := ⟨"config", some 'c', .path⟩
def socketOption : Opt := ⟨"socket", some 's', .path⟩
def localOption : Opt := ⟨"local", none, .nothing⟩
def statusOption : Opt := ⟨"status", none, .status⟩
def registryOption : Opt := ⟨"instance-dir", none, .path⟩

/-- The options of each kind of task. -/
def options? : String → Option (List Opt)
  | "create" | "run" => some [documentOption, socketOption, localOption]
  | "start" => some [documentOption]
  | "cleanup" => some [documentOption, statusOption, registryOption]
  | _ => none

/-- One argument, cut up. -/
inductive Cut where
  /-- An option, with the value written onto it if there is one. -/
  | opt (o : Opt) (value? : Option String)
  | help
  | unknown

/-- A text without its first characters. -/
def dropFirst (n : Nat) (s : String) : String := String.ofList (s.toList.drop n)

/-- A text cut at its first equals sign. -/
def cutAtEquals (s : String) : String × Option String :=
  match s.toList.span (· ≠ '=') with
  | (name, _ :: value) => (String.ofList name, some (String.ofList value))
  | (name, []) => (String.ofList name, none)

/-- Cuts one argument up. -/
def cut (options : List Opt) (argument : String) : Cut :=
  match argument.toList with
  | '-' :: '-' :: _ =>
    let (name, value?) := cutAtEquals (dropFirst 2 argument)
    if name = "help" then (if value?.isNone then .help else .unknown)
    else
      match options.find? (·.long = name) with
      | some o => if o.takes ≠ .nothing ∨ value?.isNone then .opt o value? else .unknown
      | none => .unknown
  | '-' :: letter :: rest =>
    if letter = 'h' then .help
    else
      match options.find? (·.letter? = some letter) with
      | some o =>
        match rest with
        | [] => .opt o none
        | '=' :: value => .opt o (some (String.ofList value))
        | value => .opt o (some (String.ofList value))
      | none => .unknown
  | _ => .unknown

/-- Whether an argument can be the value of the option before it. -/
def canBeValue (argument : String) : Bool :=
  match argument.toList with
  | '-' :: _ :: _ => false
  | _ => true

/-- What the options of a command line say. -/
inductive Given where
  | values (values : List (String × String))
  | help
  | misuse

/-- Reads options, after those already read. -/
def readOptions (options : List Opt) (given : List (String × String)) : List String → Given
  | [] => .values given
  | ["--"] => .values given
  | argument :: rest =>
    match cut options argument with
    | .unknown => .misuse
    | .help => .help
    | .opt o value? =>
      if given.any (·.1 = o.long) then .misuse
      else if o.takes = .nothing then readOptions options ((o.long, "") :: given) rest
      else
        match value? with
        | some value =>
          if o.takes.accepts value then readOptions options ((o.long, value) :: given) rest
          else .misuse
        | none =>
          match rest with
          | [] => .misuse
          | value :: rest =>
            if canBeValue value ∧ o.takes.accepts value then
              readOptions options ((o.long, value) :: given) rest
            else .misuse

/-- The path an option gives, or none where it is not given. The outer none is misuse. -/
def optionalPath? (given : List (String × String)) (o : Opt) : Option (Option Path) :=
  match given.lookup o.long with
  | none => some none
  | some value => some <$> path? value

/-- By whom the root is put together. -/
def privileges? (given : List (String × String)) : Option Privileges := do
  let socket? ← optionalPath? given socketOption
  if (given.lookup localOption.long).isSome then
    if socket?.isSome then none else return .inProcess
  else return .helper socket?

/-- The task of a kind with these options. -/
def task? (kind : String) (given : List (String × String)) : Option Task := do
  let document ← (← optionalPath? given documentOption)
  match kind with
  | "create" => return .create document (← privileges? given)
  | "run" => return .run document (← privileges? given)
  | "start" => return .start document
  | _ =>
    let status ← match given.lookup statusOption.long with
      | none => some (ExitStatus.ofInt 0)
      | some value => readStatus? value
    let registryRoot ← optionalPath? given registryOption
    return .cleanup document status (registryRoot.getD Registry.defaultRoot)

/-- Reads a command line. -/
def read : List String → CommandLine
  | [] => .misuse
  | "help" :: topics =>
    match topics with
    | [] | ["help"] => .information
    | [kind] => if (options? kind).isSome then .information else .misuse
    | _ => .misuse
  | kind :: arguments =>
    if kind = "--help" ∨ kind = "--version" ∨ kind.startsWith "-h" ∨ kind.startsWith "-V" then
      .information
    else
      match options? kind with
      | none => .misuse
      | some options =>
        match readOptions options [] arguments with
        | .misuse => .misuse
        | .help => .information
        | .values given =>
          match task? kind given with
          | some t => .task t
          | none => .misuse

end CommandLine
end Container
