import Container.Programs.Files

set_option autoImplicit false

/-!
# Programs that start programs

## Main definitions

* `env`, `xargs`, `runAfter`, `timeout`, `sleep`, `which` — the programs.
-/

namespace Container.Programs

/-- Starts a command, and ends as it does. -/
def startCommand (launch : Launch) (inv : Invocation) (settings command : List Chars) :
    HostM ExitStatus := do
  let started := { inv with arguments := command, settings := settings }
  match ← launch (started.setting? (chars "PATH")) started with
  | .ok status => return status
  | .error e =>
    complainOver inv (named (command.head?.getD [])) e
    return .exited (if e = .notFound then 127 else 126)

/-- What the arguments of `env` come to: the settings, and the command if there is one. -/
def envArguments : List Chars → List Chars → List Chars × List Chars
  | settings, [] => (settings, [])
  | settings, argument :: rest =>
    if argument = ['-', 'i'] ∨ argument = ['-'] then envArguments [] rest
    else if argument = ['-', 'u'] then
      match rest with
      | name :: rest => envArguments (settings.filter fun s => settingName s ≠ name) rest
      | [] => (settings, [])
    else if argument = ['-', '-'] then envArguments settings rest
    else
      let name := settingName argument
      if argument.contains '=' then
        let changed :=
          if settings.any fun s => settingName s = name ∧ s.contains '=' then
            settings.map fun s => if settingName s = name ∧ s.contains '=' then argument else s
          else settings ++ [argument]
        envArguments changed rest
      else (settings, argument :: rest)

/-- Runs a command with changed settings, or writes the settings. -/
def env (launch : Launch) (inv : Invocation) : HostM ExitStatus := do
  let (settings, command) := envArguments inv.settings (inv.arguments.drop 1)
  match command with
  | (c@('-' :: _)) :: _ =>
    complainOfUse inv (chars "invalid option -- " ++ named ((c.drop 1).take 1))
    return .exited 125
  | [] =>
    for setting in settings do
      say inv (setting ++ ['\n'])
    return .exited 0
  | command => startCommand launch inv settings command

/-! ## Commands from input -/

/-- The words of a text: between blanks and ends of lines, but for those that are quoted, after
those already found. The word that is being read is in reverse. -/
def wordsOf : Nat → List Chars → Option Chars → Chars → List Chars
  | 0, found, _, _ => found.reverse
  | _, found, last?, [] => found.reverse ++ (last?.map List.reverse).toList
  | fuel + 1, found, last?, c :: cs =>
    if Chars.isBlank c || c = '\n' then
      wordsOf fuel (match last? with | some w => w.reverse :: found | none => found) none cs
    else if c = Chars.singleQuote ∨ c = Chars.doubleQuote then
      let (inside, rest) := cs.span (· ≠ c)
      wordsOf fuel found (some (inside.reverse ++ last?.getD [])) (rest.drop 1)
    else if c = '\\' then
      match cs with
      | d :: cs => wordsOf fuel found (some (d :: last?.getD [])) cs
      | [] => wordsOf fuel found last? []
    else wordsOf fuel found (some (c :: last?.getD [])) cs

/-- A list in parts of at most `n` items. -/
def inParts (n : Nat) : Nat → List Chars → List (List Chars)
  | 0, _ => []
  | fuel + 1, words =>
    if words.length ≤ n ∨ n = 0 then [words] else words.take n :: inParts n fuel (words.drop n)

/-- A text with another one for every place where a mark stands. -/
def putFor (mark filling : Chars) : Nat → Chars → Chars
  | 0, cs => cs
  | _, [] => []
  | fuel + 1, c :: cs =>
    if ¬ mark.isEmpty ∧ mark.isPrefixOf (c :: cs) then
      filling ++ putFor mark filling fuel ((c :: cs).drop mark.length)
    else c :: putFor mark filling fuel cs

/-- Runs commands one after the other. The code says how the worst of them ended. -/
def runCommands (launch : Launch) (inv : Invocation) (traced : Bool) : Nat → List (List Chars) →
    HostM Nat
  | code, [] => return code
  | code, command :: rest => do
    if traced then complain inv (Chars.join [' '] command ++ ['\n'])
    let inner := { inv with streams := (0, .nothing) :: inv.streams.filter (·.1 ≠ 0) }
    match ← launch (inv.setting? (chars "PATH")) { inner with arguments := command } with
    | .error e =>
      complainOver inv (command.head?.getD []) e
      return if e = .notFound then 127 else 126
    | .ok status =>
      match status.code? with
      | some 0 => runCommands launch inv traced code rest
      | some 255 => return 124
      | some _ => runCommands launch inv traced 123 rest
      | none => return 125

/-- Runs a command with words of its input as arguments. -/
def xargs (launch : Launch) : Body := fun inv => do
  let o := (Usage.mk "0a:d:E:I:L:n:P:prs:tx").read false (inv.arguments.drop 1)
  match o.fault? with
  | some fault =>
    complainOfUse inv fault
    return 1
  | none =>
    let command := if o.operands.isEmpty then [chars "echo"] else o.operands
    let text := Chars.ofBytes (← input inv)
    let separated (c : Char) : List Chars :=
      let parts := text.splitOn c
      if parts.getLast? = some [] then parts.dropLast else parts
    let words :=
      if o.has '0' then separated (Char.ofNat 0)
      else match o.value? 'd' with
        | some text => separated ((if text = ['\\', 'n'] then some '\n' else text.head?).getD '\n')
        | none => wordsOf (text.length + 1) [] none text
    let lines := ((Chars.lines text).map fun line => line.dropWhile Chars.isBlank).filter (· ≠ [])
    let commands := match o.value? 'I', (o.value? 'n').bind Chars.toNat?,
        (o.value? 'L').bind Chars.toNat? with
      | some mark, _, _ => lines.map fun line => command.map fun word =>
          putFor mark line (word.length + 1) word
      | none, some n, _ => (inParts n (words.length + 1) words).map (command ++ ·)
      | none, none, some n => (inParts n (lines.length + 1) lines).map fun part =>
          command ++ part.flatMap fun line => wordsOf (line.length + 1) [] none line
      | none, none, none => [command ++ words]
    let commands := if words.isEmpty ∧ (o.has 'r' ∨ (o.value? 'I').isSome) then [] else commands
    runCommands launch inv (o.has 't') 0 commands

/-! ## Commands after options -/

/-- Runs a command that follows the options of a program. -/
def runAfter (usage : String) (launch : Launch) (inv : Invocation) :
    HostM ExitStatus := do
  let o := (Usage.mk usage).read false (inv.arguments.drop 1)
  match o.fault?, o.operands with
  | some fault, _ =>
    complainOfUse inv fault
    return .exited 125
  | none, [] =>
    complainOfUse inv (chars "missing operand")
    return .exited 125
  | none, command => startCommand launch inv inv.settings command

/-- The time that a text writes, in thousandths of a second. -/
def duration? (cs : Chars) : Option Nat := do
  let (whole, rest) := cs.span Char.isDigit
  let (fraction, rest) := match rest with
    | '.' :: rest => rest.span Char.isDigit
    | rest => ([], rest)
  let factor ← match rest with
    | [] | ['s'] => some 1
    | ['m'] => some 60
    | ['h'] => some 3600
    | ['d'] => some 86400
    | _ => none
  let n ← Chars.toNat? (whole ++ (fraction ++ ['0', '0', '0']).take 3)
  if whole.isEmpty ∧ fraction.isEmpty then none else some (n * factor)

/-- Whether a command does nothing but let more than a time go by. -/
def outlasts (limit : Nat) : List Chars → Bool
  | [] => false
  | name :: times =>
    lastName name = chars "sleep" && limit ≠ 0 &&
      (match times.mapM duration? with
        | some times => limit < times.foldl (· + ·) 0
        | none => false)

/-- Waits for some times, which go by at once. -/
def sleep : Body := fun inv => do
  let times := inv.arguments.drop 1
  if times.isEmpty then
    complainOfUse inv (chars "missing operand")
    return 1
  match times.find? fun time => (duration? time).isNone with
  | none => return 0
  | some time =>
    complainOfUse inv (chars "invalid time interval " ++ named time)
    return 1

/-- Runs a command that is to end within a time. -/
def timeout (launch : Launch) (inv : Invocation) : HostM ExitStatus := do
  let o := (Usage.mk "fk:s:v").read false (inv.arguments.drop 1)
  match o.fault?, o.operands with
  | some fault, _ =>
    complainOfUse inv fault
    return .exited 125
  | none, time :: command@(_ :: _) =>
    match duration? time with
    | none =>
      complainOfUse inv (chars "invalid time interval " ++ named time)
      return .exited 125
    | some limit =>
      if outlasts limit command then return .exited 124
      else startCommand launch inv inv.settings command
  | none, _ =>
    complainOfUse inv (chars "missing operand")
    return .exited 125

/-- Writes where programs are found. -/
def which : Body := withOptions "as" 2 fun inv o => do
  let tree := (← get).tree
  let isProgram (p : Chars) : Bool := match tree.statAt inv.view (path p) with
    | .ok f => !f.isDir && f.permits .run
    | .error _ => false
  forEach o.operands fun name => do
    let found := (candidates (inv.setting? (chars "PATH")) name).filter isProgram
    for p in (if o.has 'a' then found else found.take 1) do
      say inv (p ++ ['\n'])
    return !found.isEmpty

end Container.Programs
