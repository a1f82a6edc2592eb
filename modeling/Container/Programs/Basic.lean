import Container.ExitStatus
import Container.Host.Basic
import Container.Shell.Text

set_option autoImplicit false

/-!
# Programs of a host

A program reads its arguments, its files and its input, writes, and ends with a status. Some
programs start others.

## Main definitions

* `Program.Launch` — how a program starts another one.
* `Program.Body` — what a program does.
* `Program.say`, `Program.complain` — writing to the output, and to the output for errors.
* `Program.overContents` — what is done with the content of each operand.
-/

namespace Container.Programs

/-- How a program starts another one, found by its name in the directories of a search path if
there is one, and otherwise in the usual ones. -/
abbrev Launch := Option Chars → Invocation → HostM (Except Errno ExitStatus)

/-- What a program does, up to its exit code. -/
abbrev Body := Invocation → HostM Nat

/-- Writes to the output. -/
def say (inv : Invocation) (cs : Chars) : HostM Unit := Host.write (inv.stream 1) (Chars.bytes cs)

/-- Writes to the output for errors. -/
def complain (inv : Invocation) (cs : Chars) : HostM Unit :=
  Host.write (inv.stream 2) (Chars.bytes cs)

/-- Shell text of a text. -/
def chars (s : String) : Chars := Chars.ofText s

/-- The words of an error. -/
def wordingOf (e : Errno) : Chars :=
  match e.entry? with
  | some entry => chars entry.wording
  | none => chars "Unknown error"

/-- The name under which a program was started, without the way to it. -/
def ownName (inv : Invocation) : Chars :=
  ((inv.arguments.head?.getD []).reverse.takeWhile (· ≠ '/')).reverse

/-- Complains about something, in the words of the error. -/
def complainOver (inv : Invocation) (what : Chars) (e : Errno) : HostM Unit :=
  complain inv (Chars.join (chars ": ") [ownName inv, what, wordingOf e] ++ ['\n'])

/-- A text in quotes, as programs name texts. -/
def named (cs : Chars) : Chars := Chars.singleQuote :: cs ++ [Chars.singleQuote]

/-- Complains, and says where help is to be had. -/
def complainOfUse (inv : Invocation) (what : Chars) : HostM Unit :=
  let own := ownName inv
  complain inv (own ++ chars ": " ++ what ++ chars "\nTry " ++ named (own ++ chars " --help") ++
    chars " for more information.\n")

/-- Complains about what a program could not do with a file. -/
def complainOf (inv : Invocation) (what : String) (name : Chars) (e : Errno) : HostM Unit :=
  complainOver inv (chars what ++ ' ' :: named name) e

/-- The name of a setting. -/
def settingName (setting : Chars) : Chars := setting.takeWhile (· ≠ '=')

/-- The directories in which programs are searched where nothing else is said. -/
def usualSearch : Chars := chars "/bin:/usr/bin"

/-- A path with a name below it. -/
def below (directory name : Chars) : Chars :=
  if directory.getLast? = some '/' then directory ++ name else directory ++ '/' :: name

/-- The parts of a text between colons. -/
def colonParts (cs : Chars) : List Chars :=
  cs.foldr (fun c (parts : List Chars) =>
    if c = ':' then [] :: parts
    else match parts with
      | [] => [[c]]
      | part :: rest => (c :: part) :: rest) [[]]

/-- Where a program may be: where its name says if that has a slash, and otherwise in the
directories of a search path, of which an empty one is the working directory. -/
def candidates (search? : Option Chars) (name : Chars) : List Chars :=
  if name.contains '/' then [name]
  else (colonParts (search?.getD usualSearch)).map fun directory =>
    if directory.isEmpty then name else below directory name

/-- The path that shell text names. -/
def path (cs : Chars) : Path := ⟨Chars.bytes cs⟩

/-- Does something with each operand; the exit code is 1 if one of them fails. -/
def forEach (operands : List Chars) (act : Chars → HostM Bool) : HostM Nat := do
  let results ← operands.mapM act
  return if results.all id then 0 else 1

/-- Does something with each operand, of which there has to be one. -/
def forEachOf (inv : Invocation) (operands : List Chars) (act : Chars → HostM Bool) :
    HostM Nat := do
  if operands.isEmpty then
    complainOfUse inv (chars "missing operand")
    return 1
  else forEach operands act

/-- The descriptor that a path stands for. -/
def descriptorOf? (operand : Chars) : Option Nat :=
  let names := [("/dev/stdin", 0), ("/dev/stdout", 1), ("/dev/stderr", 2)]
  let directory := "/dev/fd/".toList
  (names.lookup (String.ofList operand)).orElse fun () =>
    if directory.isPrefixOf operand then Chars.toNat? (operand.drop directory.length) else none

/-- The input of a program: all that is left to read. -/
def input (inv : Invocation) : HostM Bytes := Host.takeAll (inv.stream 0)

/-- The content of the operand of a program, where a hyphen stands for its input. -/
def contentOf (inv : Invocation) (operand : Chars) : HostM (Except Errno Bytes) := do
  if operand = ['-'] then
    if (inv.streams.lookup 0).isNone then return .error .badDescriptor
    return .ok (← input inv)
  else if let some fd := descriptorOf? operand then return .ok (← Host.takeAll (inv.stream fd))
  else return (← get).tree.readFile inv.view (path operand)

/-- Runs over the contents of operands, or over the input where there are none. Where one cannot be
read, `failed` says so. -/
def overContentsOr (failed : Chars → Errno → HostM Unit) (inv : Invocation) (operands : List Chars)
    (act : Chars → Chars → HostM Bool) : HostM Nat :=
  forEach (if operands.isEmpty then [['-']] else operands) fun operand => do
    match ← contentOf inv operand with
    | .ok content => act operand (Chars.ofBytes content)
    | .error e =>
      failed operand e
      return false

/-- Runs over the contents of operands, or over the input where there are none. -/
def overContents (inv : Invocation) : List Chars → (Chars → Chars → HostM Bool) → HostM Nat :=
  overContentsOr (complainOver inv) inv

end Container.Programs
