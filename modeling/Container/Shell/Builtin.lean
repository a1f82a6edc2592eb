import Container.Shell.Directory
import Container.Shell.Options
import Container.Shell.Signal

set_option autoImplicit false

/-!
# Commands of the shell itself

Some commands belong to the shell, since they change its state or need to know it.

## Main definitions

* `readInto` — reads a line into variables.
* `meaning?` — what the name of a command stands for.
* `start` — starts a program.
* `builtin?` — the commands of the shell itself.
-/

namespace Container.Shell

open Programs (Launch)

/-! ## Writing -/

/-- Uses a program of the host as a command of the shell. -/
def asProgram (body : Programs.Body) (words : List Chars) : ShellM Flow := do
  finish (← body ((← get).invocation words))

/-- Writes its arguments; escapes in them are always replaced. -/
def echo (words : List Chars) : ShellM Flow := do
  let (ended, words) := match words with
    | ['-', 'n'] :: words => (false, words)
    | words => (true, words)
  let (text, goesOn) := Programs.Format.unescaped true (Chars.join [' '] words)
  let shown := if ended && goesOn then text ++ ['\n'] else text
  say shown
  finish (if shown.isEmpty || (← get).canWrite then 0 else 1)

/-- Writes its arguments in a format. -/
def printf (words : List Chars) : ShellM Flow := do
  let words := if words.head? = some ['-', '-'] then words.drop 1 else words
  match words with
  | [] =>
    complain "printf" (Programs.chars "usage: printf format [arg ...]")
    finish 2
  | format :: arguments =>
    let r := Programs.Format.render format arguments
    say r.shown
    for complaint in r.complaints do
      complain "printf" complaint
    finish (if r.shown.isEmpty || (← get).canWrite then r.code else 1)

/-! ## Reading -/

/-- A line at the beginning of a text, with what is meant as it is, after what is read already in
reverse; whether it was ended; and what follows it. Backslashes mean themselves if `raw` is set,
and otherwise a line goes on after one at its end. -/
def lineOf (raw : Bool) : List Mark → Chars → List Mark × Bool × Chars
  | found, [] => (found.reverse, false, [])
  | found, ['\\'] => ((if raw then ⟨'\\', false⟩ :: found else found).reverse, false, [])
  | found, '\\' :: c :: cs =>
    if raw then
      if c = '\n' then ((⟨'\\', false⟩ :: found).reverse, true, cs)
      else lineOf raw (⟨c, false⟩ :: ⟨'\\', false⟩ :: found) cs
    else if c = '\n' then lineOf raw found cs
    else lineOf raw (⟨c, true⟩ :: found) cs
  | found, c :: cs =>
    if c = '\n' then (found.reverse, true, cs) else lineOf raw (⟨c, false⟩ :: found) cs

/-- The values that parts of a line give to some names. The last one gets the rest of the line,
without what ends it: blanks, or one separator with blanks around it. -/
def shares (separators : Chars) : List Chars → List Mark → List (Chars × Chars)
  | [], _ => []
  | name :: names, line =>
    let isSeparator (m : Mark) : Bool := !m.quoted && separators.contains m.char
    let isSoft (m : Mark) : Bool := isSeparator m && (Chars.isBlank m.char || m.char = '\n')
    let line := line.dropWhile isSoft
    let (first, rest) := line.span (!isSeparator ·)
    match names with
    | [] =>
      let value := if rest.all isSeparator ∧ (rest.filter (!isSoft ·)).length ≤ 1 then first
        else (line.reverse.dropWhile isSoft).reverse
      [(name, Mark.text value)]
    | names =>
      let rest := rest.dropWhile isSoft
      let rest := match rest with
        | m :: later => if isSeparator m then later.dropWhile isSoft else rest
        | [] => []
      (name, Mark.text first) :: shares separators names rest

/-- Reads a line into variables. -/
def readInto (words : List Chars) : ShellM Flow :=
  withLetters "read" "p:r" words fun o => do
    match o.operands, o.operands.find? (!Chars.isName ·) with
    | [], _ => giveUpOver "read" (Chars.ofText "arg count")
    | names, bad? => do
      let s ← get
      let stream := s.stream 0
      let content ← Host.takeAll stream
      let (line, isEnded, rest) := lineOf (o.has 'r') [] (Chars.ofBytes content)
      Host.putBack stream (Chars.bytes rest)
      match bad?, names.find? s.constants.contains with
      | some name, _ => giveUpOver "read" (badName name)
      | none, some name => giveUpOver "read" (Fault.constant name).words
      | none, none =>
        for (name, value) in shares s.separators names line do
          modify fun s => s.assign name value
        finish (if isEnded then 0 else 1)

/-! ## Masks and waiting -/

/-- Writes the mask that keeps permission bits from new files, or sets it. -/
def umask (words : List Chars) : ShellM Flow :=
  withLetters "umask" "S" words fun o => do
    let s ← get
    let setTo (mask : Nat) : ShellM Flow := do
      modify fun s => { s with view := { s.view with mask := mask % 512 } }
      finish 0
    match o.operands with
    | [] =>
      say ((if o.has 'S' then Programs.Mode.clauses (511 - s.view.mask)
        else Programs.Mode.octal 4 s.view.mask) ++ ['\n'])
      finish 0
    | word :: _ =>
      if word.head?.any Char.isDigit then
        match Programs.Mode.octal? word with
        | some mask => setTo mask
        | none => giveUpOver "umask" (illegalNumber word)
      else
        match Programs.Mode.changed? 0 false (511 - s.view.mask) word with
        | some mode => setTo (511 - mode % 512)
        | none => giveUpOver "umask" (Chars.ofText "Illegal mode: " ++ word)

/-- Waits for scripts that ran beside this one. They have ended already. -/
def wait (words : List Chars) : ShellM Flow := do
  let s ← get
  match words.getLast? with
  | none => finish 0
  | some ('%' :: number) =>
    match (Chars.toNat? number).bind fun n => if n = 0 then none else s.beside.reverse[n - 1]? with
    | some (_, code) => finish code
    | none => giveUpOver "wait" (Chars.ofText "No such job: %" ++ number)
  | some word =>
    match Chars.toNat? word with
    | some n => finish ((s.beside.lookup n).getD 127)
    | none => giveUpOver "wait" (illegalNumber word)

/-- Writes how much time the shell and what it started have used, which is none. -/
def showTimes : ShellM Flow := do
  let none := Chars.ofText "0m0.000000s"
  let line := none ++ ' ' :: none ++ ['\n']
  say (line ++ line)
  finish 0

/-- Writes a limit, or sets one. There are none. -/
def limit (words : List Chars) : ShellM Flow :=
  withLetters "ulimit" "HSatfdsmcnplvwr" words fun o => do
    if o.operands.isEmpty then say (Chars.ofText "unlimited\n")
    finish 0

/-! ## What names stand for -/

/-- Where the program of a command is, as the search for it goes. -/
def whereIs? (host : Host) (s : Session) (name : Chars) : Option Chars :=
  let isProgram (p : Chars) : Bool := match host.tree.statAt s.view ⟨Chars.bytes p⟩ with
    | .ok f => !f.isDir && f.permits .run
    | .error _ => false
  (Programs.candidates (some s.searchPath) name).find? isProgram

/-- The names of the commands of the shell itself. -/
def builtinNames : List String := [
  ":", ".", "[", "alias", "bg", "break", "cd", "chdir", "command", "continue", "echo", "eval",
  "exec", "exit", "export", "false", "fg", "getopts", "hash", "jobs", "kill", "local", "printf",
  "pwd", "read", "readonly", "return", "set", "shift", "test", "times", "trap", "true", "type",
  "ulimit", "umask", "unalias", "unset", "wait"]

/-- Whether a command of the shell is one over which the shell ends when something is wrong with
it, and before which assignments stay in force. -/
def isSpecialCommand (name : String) : Bool :=
  [":", ".", "break", "continue", "eval", "exec", "exit", "export", "local", "readonly", "return",
    "set", "shift", "times", "trap", "unset"].contains name

/-- Whether the arguments of a command can be assignments. -/
def takesAssignments (name : String) : Bool :=
  ["alias", "export", "local", "readonly"].contains name

/-- What the name of a command stands for. -/
inductive Meaning where
  | abbreviation (text : Chars)
  | keyword
  | function
  | special
  | builtin
  | program (path : Chars)

/-- What a name stands for, if it is the name of a command. -/
def meaning? (host : Host) (s : Session) (name : Chars) : Option Meaning :=
  let text := String.ofList name
  if Script.reserved.contains text then some .keyword
  else if let some value := s.aliases.lookup name then some (.abbreviation value)
  else if isSpecialCommand text then some .special
  else if (s.functions.lookup name).isSome then some .function
  else if builtinNames.contains text then some .builtin
  else (whereIs? host s name).map .program

/-- Says where a command is found. -/
def lookUp (words : List Chars) : ShellM Flow := do
  match words with
  | name :: _ =>
    match meaning? (← (MonadState.get : HostM Host)) (← get) name with
    | some (.program p) =>
      say (p ++ ['\n'])
      finish 0
    | some (.abbreviation text) =>
      say (Chars.ofText "alias " ++ name ++ '=' :: quotedText text ++ ['\n'])
      finish 0
    | some _ =>
      say (name ++ ['\n'])
      finish 0
    | none => finish 127
  | [] => finish 127

/-- Says what names stand for. The exit code is that for the last name that stands for nothing. -/
def describe : Nat → List Chars → ShellM Flow
  | code, [] => finish code
  | code, name :: names => do
    let told (text : Chars) : ShellM Unit := say (name ++ text ++ ['\n'])
    match meaning? (← (MonadState.get : HostM Host)) (← get) name with
    | some .keyword => told (Programs.chars " is a shell keyword")
    | some (.abbreviation text) => told (Programs.chars " is an alias for " ++ text)
    | some .function => told (Programs.chars " is a shell function")
    | some .special => told (Programs.chars " is a special shell builtin")
    | some .builtin => told (Programs.chars " is a shell builtin")
    | some (.program p) => told (Programs.chars " is " ++ p)
    | none =>
      told (Programs.chars ": not found")
      return ← describe 127 names
    describe code names

/-- Writes what names are aliases for, or makes them aliases. -/
def setAliases : Nat → List Chars → ShellM Flow
  | code, [] => finish code
  | code, word :: words => do
    match word.span (· ≠ '=') with
    | (name, _ :: value) =>
      modify fun s => { s with
        aliases :=
          if (s.aliases.lookup name).isSome then
            s.aliases.map fun a => if a.1 = name then (name, value) else a
          else s.aliases ++ [(name, value)] }
      setAliases code words
    | (name, []) =>
      match (← get).aliases.lookup name with
      | some value =>
        say (name ++ '=' :: quotedText value ++ ['\n'])
        setAliases code words
      | none =>
        Host.write ((← get).stream 2)
          (Chars.bytes (Chars.ofText "alias: " ++ name ++ Chars.ofText " not found\n"))
        setAliases 1 words

/-- Writes all aliases, or some of them, or makes names aliases. -/
def aliasWords (words : List Chars) : ShellM Flow := do
  if words.isEmpty then
    let sorted := (← get).aliases.mergeSort fun a b =>
      decide (Session.bucketOf a.1 ≤ Session.bucketOf b.1)
    setAliases 0 (sorted.map (·.1))
  else setAliases 0 words

/-- Takes aliases away. -/
def unaliasWords (words : List Chars) : ShellM Flow :=
  withLetters "unalias" "a" words fun o => do
    let s ← get
    let known (name : Chars) : Bool := (s.aliases.lookup name).isSome
    set { s with
      aliases := if o.has 'a' then [] else s.aliases.filter (!o.operands.contains ·.1) }
    for name in o.operands do
      if !o.has 'a' ∧ !known name then
        Host.write (s.stream 2)
          (Chars.bytes (Chars.ofText "unalias: " ++ name ++ Chars.ofText " not found\n"))
    finish (if o.has 'a' || o.operands.all known then 0 else 1)

/-- Does what a search for programs would find, and says which of them there are not. -/
def remember (words : List Chars) : ShellM Flow :=
  withLetters "hash" "rv" words fun o => do
    let host ← (MonadState.get : HostM Host)
    let s ← get
    for name in o.operands do
      if (meaning? host s name).isNone then complain "hash" (name ++ Chars.ofText ": not found")
    finish (if o.operands.all fun name => (meaning? host s name).isSome then 0 else 1)

/-! ## Programs and scripts -/

/-- Starts a program by its words. What is no program is taken for a script. A complaint names
the command of the shell that starts it, if one does. -/
def start (launch : Launch) (who : String) (words : List Chars) : ShellM Flow := do
  let s ← get
  let inv := s.invocation words
  let name := words.head?.getD []
  let first ← launch (some s.searchPath) inv
  let result ← match first with
    | .error e =>
      if e = .notExecutableFormat then
        let tree := (← (MonadState.get : HostM Host)).tree
        let path := (whereIs? (← (MonadState.get : HostM Host)) s name).getD name
        match tree.readFile s.view ⟨Chars.bytes path⟩ with
        | .ok _ =>
          launch none { inv with arguments := Programs.chars "/bin/sh" :: path :: words.drop 1 }
        | .error _ => pure (.error .accessDenied)
      else pure (.error e)
    | ok => pure ok
  match result with
  | .ok status =>
    match status.code? with
    | some code => finish code
    | none => finish (128 + (status.signal?.getD 0))
  | .error e =>
    let isMissing : Bool := [Errno.notFound, .notDirectory, .nameTooLong, .tooManyLinks].contains e
    complain who (name ++
      Chars.ofText (if isMissing then ": not found" else ": Permission denied"))
    finish (if isMissing || !name.contains '/' then 127 else 126)

/-- Runs the text of a script, which does nothing well if it is empty. -/
def runWhole (means : Means) (text : Chars) : ShellM Flow :=
  if (Token.scan text).2 ∧ (Token.scan text).1.all (· = .mark "\n") then finish 0
  else means.runText text

/-- Runs the script in a file, which is searched like a program if its name has no slash. -/
def runFile (means : Means) (file : Chars) : ShellM Flow := do
  let s ← get
  let tree := (← (MonadState.get : HostM Host)).tree
  let isFile (p : Chars) : Bool := match tree.statAt s.view ⟨Chars.bytes p⟩ with
    | .ok f => !f.isDir
    | .error _ => false
  let path? := if file.contains '/' then some file
    else (Programs.candidates (some s.searchPath) file).find? isFile
  match path? with
  | none => giveUpOver "." (file ++ Chars.ofText ": not found")
  | some path =>
    match tree.readFile s.view ⟨Chars.bytes path⟩ with
    | .ok content =>
      match ← runWhole means (Chars.ofBytes content) with
      | .returned => return .next
      | flow => return flow
    | .error e =>
      let words := if e = .notFound then Chars.ofText "No such file" else Programs.wordingOf e
      giveUpOver "." (Chars.ofText "cannot open " ++ path ++ Chars.ofText ": " ++ words)

/-- Leaves a function or the shell, with the exit code that is given or the one there is. -/
def leave (who : String) (flow : Flow) (words : List Chars) : ShellM Flow := do
  withNumber who (← get).status words fun n => do
    let _ ← finish (n % 256)
    return flow

/-- Goes on somewhere in the loops around a command, as many of them as a command is told. Where
there is no loop it just goes on. -/
def outOfLoops (who : String) (flow : Nat → Flow) (words : List Chars) : ShellM Flow :=
  withNumber who 1 words fun n => do
    let loops := (← get).loops
    if n = 0 then giveUpOver who (illegalNumber ['0'])
    else
      let _ ← finish 0
      return if loops = 0 then .next else flow (min n loops)

/-- Takes arguments away from the beginning. -/
def shift (words : List Chars) : ShellM Flow :=
  withNumber "shift" 1 words fun n => do
    let arguments := (← get).arguments
    if n ≤ arguments.length then setArguments (arguments.drop n)
    else giveUpOver "shift" (Chars.ofText "can't shift that many")

/-- The commands of the shell itself, by name. -/
def builtin? (means : Means) (name : String) (words : List Chars) : Option (ShellM Flow) :=
  let words' := Chars.ofText name :: words
  match name with
  | ":" | "true" | "jobs" => some (finish 0)
  | "alias" => some (aliasWords words)
  | "unalias" => some (unaliasWords words)
  | "times" => some showTimes
  | "ulimit" => some (limit words)
  | "false" => some (finish 1)
  | "bg" | "fg" => some (giveUpOver name (Chars.ofText "No current job"))
  | "echo" => some (echo words)
  | "printf" => some (printf words)
  | "pwd" => some (pwd words)
  | "test" => some (asProgram (Programs.test false) words')
  | "[" => some (asProgram (Programs.test true) words')
  | "cd" | "chdir" => some (cd words)
  | "kill" => some (kill means words)
  | "trap" => some (setTraps words)
  | "export" => some (declareOrShow .exported words)
  | "readonly" => some (declareOrShow .constant words)
  | "local" => some (declareOwn words)
  | "unset" => some (unsetWords words)
  | "set" => some (setOptions words)
  | "getopts" => some (getOption words)
  | "read" => some (readInto words)
  | "umask" => some (umask words)
  | "hash" => some (remember words)
  | "wait" => some (wait words)
  | "shift" => some (shift words)
  | "break" => some (outOfLoops name .leave words)
  | "continue" => some (outOfLoops name .again words)
  | "return" => some (leave name .returned words)
  | "exit" => some (leave name .exited words)
  | "eval" => some (runWhole means (Chars.join [' '] words))
  | "." => some (match words with
      | file :: _ => runFile means file
      | [] => finish 0)
  | "command" => some (withLetters name "pvV" words fun o =>
      if o.has 'v' then lookUp o.operands
      else if o.has 'V' then describe 0 o.operands
      else finish 0)
  | "type" => some (describe 0 words)
  | "exec" => some (match words with
      | [] => finish 0
      | words => do
        let _ ← start means.launch "exec" words
        return .exited)
  | _ => none

end Container.Shell
