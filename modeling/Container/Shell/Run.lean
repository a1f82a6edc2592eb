import Container.Shell.Redirection

set_option autoImplicit false

/-!
# Running scripts

A script runs command by command. Some commands belong to the shell itself, since they change
its state; others are functions of the script or programs of the host.

## Main definitions

* `run` — runs a script.
* `runText` — runs the text of a script.
* `shell` — the shell as a program.
-/

namespace Container.Shell

open Programs (Launch)

/-! ## Scripts -/

/-- Runs scripts one after the other, as far as the flow goes on. -/
def runAll (exec : Script → ShellM Flow) : List Script → ShellM Flow
  | [] => return .next
  | [script] => exec script
  | script :: scripts => do
    match ← exec script with
    | .next => runAll exec scripts
    | flow => return flow

/-- What the flow from inside a loop means for the loop: none if the next round follows. -/
def afterRound : Flow → Option Flow
  | .next | .again 1 | .again 0 => none
  | .leave 1 | .leave 0 => some .next
  | .leave (n + 1) => some (.leave n)
  | .again (n + 1) => some (.again n)
  | flow => some flow

/-- Runs a loop of at most `fuel` rounds. -/
def runLoop (untilHolds : Bool) (condition body : ShellM Flow) : Nat → Nat → ShellM Flow
  | 0, code => finish code
  | fuel + 1, code => do
    match ← condition with
    | .next =>
      if ((← get).status = 0) = untilHolds then finish code
      else
        let flow ← body
        match afterRound flow with
        | none => runLoop untilHolds condition body fuel (← get).status
        | some .next => finish 0
        | some flow => return flow
    | flow =>
      match afterRound flow with
      | none => finish code
      | some flow => return flow

/-- Runs something inside one more loop. -/
def insideLoop (act : ShellM Flow) : ShellM Flow := do
  let before := (← get).loops
  modify fun s => { s with loops := before + 1 }
  let flow ← act
  modify fun s => { s with loops := before }
  return flow

/-- Runs a loop over words. -/
def runEach (name : Chars) (body : ShellM Flow) : List Chars → ShellM Flow
  | [] => return .next
  | word :: words => do
    if (← get).constants.contains name then giveUpFor (.constant name)
    else
      modify fun s => s.assign name word
      let flow ← body
      match afterRound flow with
      | none => runEach name body words
      | some flow => return flow

/-- Runs something in a shell of its own, which has of the traps of this one only those that keep
signals away, and does at its end what it was told meanwhile. -/
def inOwnShell (runText : Chars → ShellM Flow) (act : ShellM Flow) : ShellM Flow := apart do
  modify fun s => { s with traps := s.traps.filter (·.2.isEmpty) }
  match ← act with
  | .killed signal => return .killed signal
  | flow =>
    let s ← get
    match s.traps.lookup ['0'] with
    | none => return flow
    | some action =>
      match ← runText action with
      | .killed signal => return .killed signal
      | .exited | .failed => return .exited
      | _ =>
        modify fun now => { now with status := s.status }
        return .exited

/-- Runs the scripts of a pipeline, the first of which reads `source`. -/
def runPiped (runText : Chars → ShellM Flow) (exec : Script → ShellM Flow)
    (source : Option Stream) : List Script → ShellM Flow
  | [] => return .next
  | [script] => inOwnShell runText do
      if let some stream := source then modify fun s => s.redirect 0 stream
      exec script
  | script :: scripts => do
    let pipe ← Host.newPipe []
    let flow ← inOwnShell runText do
      if let some stream := source then modify fun s => s.redirect 0 stream
      modify fun s => s.redirect 1 pipe
      exec script
    match flow with
    | .killed signal => return .killed signal
    | _ => runPiped runText exec (some pipe) scripts

/-- The first case of a choice that a text fits. -/
def findCase (putIn : PutIn) (text : Chars) : List (List Word × Script) → ExpandM (Option Script)
  | [] => return none
  | (patterns, body) :: cases => do
    let marks ← patterns.mapM (patternOf putIn)
    if marks.any fun pattern => Pattern.fits pattern text then return some body
    else findCase putIn text cases

/-- Makes assignments. The answer holds what was assigned. -/
def assignAll (putIn : PutIn) (exported : Bool) : List (Chars × Word) → ExpandM (List Chars)
  | [] => return []
  | (name, w) :: rest => do
    let value ← textOf putIn w
    setVariable name value
    if exported then modify fun s => s.handOn name
    return (name ++ '=' :: value) :: (← assignAll putIn exported rest)

/-- The words of a command after those that only say that it is no function. -/
def withoutCommand (words : List Chars) : List Chars :=
  match words with
  | first :: second :: rest =>
    if first = Programs.chars "command" ∧ (second.head? ≠ some '-' ∨ second = ['-', 'p']) then
      if second = ['-', 'p'] ∧ ¬ rest.isEmpty then withoutCommand (first :: rest)
      else withoutCommand (second :: rest)
    else words
  | words => words
termination_by words.length

/-- The fields of the words of a command. Arguments that are assignments stay whole where the
command takes them. -/
def fieldsOfCommand (putIn : PutIn) : List Word → ExpandM (List Chars)
  | [] => return []
  | w :: rest => do
    let fields ← fieldsOf putIn [w]
    match fields with
    | [] => fieldsOfCommand putIn rest
    | [name] =>
      if name = Programs.chars "command" then return name :: (← fieldsOfCommand putIn rest)
      else if takesAssignments (String.ofList name) then
        let others ← rest.mapM fun w => do
          match Script.assignment? w with
          | some (name, value) => return [name ++ '=' :: (← textOf putIn value)]
          | none => fieldsOf putIn [w]
        return name :: others.flatten
      else return name :: (← fieldsOf putIn rest)
    | fields => return fields ++ (← fieldsOf putIn rest)

/-- Runs a function. Its arguments and the names that it has of its own end with it. -/
def runFunction (exec : Script → ShellM Flow) (body : Script) (arguments : List Chars) :
    ShellM Flow := do
  let before ← get
  modify fun s => { s with arguments, covered? := some [], place := .first }
  let flow ← exec body
  modify fun s => { s.uncoverAll with
    arguments := before.arguments
    covered? := before.covered?
    place := before.place }
  match flow with
  | .returned => return .next
  | flow => return flow

/-- Runs the words of a command. -/
def runWords (means : Means) (exec : Script → ShellM Flow) (words : List Chars) : ShellM Flow := do
  let named := withoutCommand words
  match named with
  | [] => finish 0
  | name :: arguments =>
    let s ← get
    let isPlain : Bool := named.length = words.length
    match (if isPlain then s.functions.lookup name else none) with
    | some body => runFunction exec body arguments
    | none =>
      match builtin? means (String.ofList name) arguments with
      | some act =>
        match ← act with
        | .failed =>
          return if isPlain && isSpecialCommand (String.ofList name) then .failed else .next
        | flow => return flow
      | none => start means.launch "" named

/-- Shows a command that is about to run, if the shell is to. -/
def trace (putIn : PutIn) (stream : Stream) (words : List Chars) : ShellM Unit := do
  let s ← get
  if s.tracing then
    let mark := (s.variableValue? (Chars.ofText "PS4")).getD []
    let shown ← match Word.ofText true mark with
      | some w => match ← (textOf putIn w).run with
        | .ok text => pure text
        | .error _ => pure mark
      | none => pure mark
    Host.write stream (Chars.bytes (shown ++ Chars.join [' '] words ++ ['\n']))

/-- Runs a simple command. -/
def runSimple (means : Means) (putIn : PutIn) (exec : Script → ShellM Flow)
    (assignments : List (Chars × Word)) (words : List Word) (redirects : List Redirect) :
    ShellM Flow := do
  modify fun s => { s with putIn? := none }
  let errors := (← get).stream 2
  match ← (fieldsOfCommand putIn words).run with
  | .error fault => giveUpFor fault
  | .ok [] =>
    withRedirects putIn redirects false do
      match ← (assignAll putIn false assignments).run with
      | .error fault => giveUpFor fault
      | .ok assigned =>
        if !assigned.isEmpty then trace putIn errors assigned
        finish ((← get).putIn?.getD 0)
  | .ok (name :: arguments) =>
    let before ← get
    let special : Bool :=
      isSpecialCommand (String.ofList name) && (before.functions.lookup name).isNone
    match ← (assignAll putIn true assignments).run with
    | .error fault => giveUpFor fault
    | .ok assigned =>
      let keeps := String.ofList name = "exec" ∧ arguments.isEmpty
      let flow ← withRedirectsOr (if special then giveUp else finish 2) putIn redirects
        (decide keeps) do
          trace putIn errors (assigned ++ name :: arguments)
          runWords means exec (name :: arguments)
      if !special ∧ !assignments.isEmpty then
        let names := assignments.map (·.1)
        modify fun s => { s with
          bindings := s.bindings.filter (fun v => !names.contains v.1) ++
            before.bindings.filter fun v => names.contains v.1
          promised := before.promised }
      return flow

/-- Ends a strict shell after a command that failed. -/
def checked (tested : Bool) (act : ShellM Flow) : ShellM Flow := do
  let flow ← act
  let s ← get
  if flow = .next ∧ s.strict ∧ ¬ tested ∧ s.status ≠ 0 then return .exited else return flow

/-- How often a loop may go round. -/
def loopLimit : Nat := 100000

/-- Runs the lines of a script, of which there are at most `n`. Where the script could not be cut
up to its end, `whole` is not set. -/
def runLines (exec : Script → ShellM Flow) (whole : Bool) : Nat → List Token → ShellM Flow
  | 0, _ => giveUp
  | n + 1, tokens =>
    match Script.skipLines tokens with
    | [] =>
      if whole then return .next
      else do
        complain "" (Programs.chars "Syntax error: Unterminated quoted string")
        giveUp
    | tokens => do
      let aliases := (← get).aliases
      let size := tokens.length + (aliases.map (·.2.length)).foldl (· + ·) 0
      match Script.readLine aliases (10 * size + 20) (size + 1) [] tokens with
      | none => do
        complain "" (Programs.chars "Syntax error")
        giveUp
      | some (script, rest) => do
        if (← get).options.contains 'n' then runLines exec whole n rest
        else
          match ← exec script with
          | .next => runLines exec whole n rest
          | flow => return flow

/-- Runs the text of a script, line by line. A line that cannot be cut up is not begun. -/
def runText (exec : Script → ShellM Flow) (text : Chars) : ShellM Flow :=
  let (tokens, whole) := Token.scan text
  let usable :=
    if whole then tokens else (tokens.reverse.dropWhile (· ≠ .mark "\n")).reverse
  runLines exec whole (usable.length + 1) usable

/-- What a script writes, without the ends of lines at its end. -/
def outputOf (exec : Script → ShellM Flow) (text : Chars) : ShellM Chars := do
  let pipe ← Host.newPipe []
  let _ ← inOwnShell (runText exec) do
    modify fun s => s.redirect 1 pipe
    runText exec text
  let written ← Host.takeAll pipe
  Host.closePipe pipe
  modify fun s => { s with putIn? := some s.status }
  return ((Chars.ofBytes written).reverse.dropWhile (· = '\n')).reverse

/-- Runs a script, which is at most `fuel` deep. Where `tested` is set, its failing is no reason
to end a strict shell. -/
def run (launch : Launch) : Nat → Bool → Script → ShellM Flow
  | 0, _, _ => giveUp
  | fuel + 1, tested, script => do
    let putIn := outputOf (run launch fuel false)
    let means : Means := ⟨launch, runText (run launch fuel false)⟩
    let alone := inOwnShell means.runText
    match script with
    | .simple assignments words redirects =>
      checked tested (runSimple means putIn (run launch fuel tested) assignments words redirects)
    | .sequence scripts => runAll (run launch fuel tested) scripts
    | .both first second => do
      match ← run launch fuel true first with
      | .next => if (← get).status = 0 then run launch fuel tested second else return .next
      | flow => return flow
    | .either first second => do
      match ← run launch fuel true first with
      | .next => if (← get).status = 0 then return .next else run launch fuel tested second
      | flow => return flow
    | .pipeline negated scripts => do
      let flow ← match scripts with
        | [script] => run launch fuel (tested || negated) script
        | scripts =>
          checked (tested || negated) (runPiped means.runText (run launch fuel true) none scripts)
      if negated ∧ flow = .next then
        modify fun s => { s with status := if s.status = 0 then 1 else 0 }
      return flow
    | .background script => do
      let number ← Host.newId
      match ← alone (run launch fuel tested script) with
      | .killed signal => return .killed signal
      | _ =>
        modify fun s => { s with beside := (number, s.status) :: s.beside }
        finish 0
    | .nested script redirects =>
      checked tested (alone (withRedirects putIn redirects false (run launch fuel tested script)))
    | .group script redirects => withRedirects putIn redirects false (run launch fuel tested script)
    | .branch condition consequence alternative redirects =>
      withRedirects putIn redirects false do
        match ← run launch fuel true condition with
        | .next =>
          if (← get).status = 0 then run launch fuel tested consequence
          else
            match alternative with
            | some script => run launch fuel tested script
            | none => finish 0
        | flow => return flow
    | .loop untilHolds condition body redirects =>
      withRedirects putIn redirects false
        (insideLoop (runLoop untilHolds (run launch fuel true condition)
          (run launch fuel tested body) loopLimit 0))
    | .each name words body redirects =>
      withRedirects putIn redirects false do
        let values ← match words with
          | some words => (fieldsOf putIn words).run
          | none => pure (.ok (← get).arguments)
        match values with
        | .error fault => giveUpFor fault
        | .ok values =>
          let _ ← finish 0
          insideLoop (runEach name (run launch fuel tested body) values)
    | .choice word cases redirects =>
      withRedirects putIn redirects false do
        let found ← (do
          let text ← textOf putIn word
          findCase putIn text cases : ExpandM (Option Script)).run
        match found with
        | .error fault => giveUpFor fault
        | .ok none => finish 0
        | .ok (some body) =>
          let _ ← finish 0
          run launch fuel tested body
    | .define name body => do
      modify fun s => { s with functions := (name, body) :: s.functions.filter (·.1 ≠ name) }
      finish 0

/-- How deep scripts may lie inside one another. -/
def scriptDepth : Nat := 500

/-! ## The shell as a program -/

/-- What a shell runs: a text with the name and arguments it is given and the letters of its
options. -/
structure Source where
  text : Chars
  name : Chars
  arguments : List Chars
  options : Chars

/-- What a shell is started to run, or what it complains about. The letter for a text among the
arguments is one of the shell as a program only. -/
def source (inv : Invocation) : HostM (Except Chars Source) := do
  let self := inv.arguments.head?.getD []
  let words := inv.arguments.drop 1
  match turnAll ('c' :: optionLetters) (words.length + 1) words [] with
  | .error word => return .error (Chars.ofText "Illegal option " ++ word)
  | .ok (given, rest, _) =>
    let options := given.filter (· ≠ 'c')
    if given.contains 'c' then
      match rest with
      | [] => return .error (Chars.ofText "-c requires an argument")
      | text :: rest => return .ok ⟨text, rest.head?.getD self, rest.drop 1, options⟩
    else
      match (if options.contains 's' then none else rest.head?), rest.drop 1 with
      | none, _ =>
        let content ← Host.takeAll (inv.stream 0)
        return .ok ⟨Chars.ofBytes content, self, rest, turn true ['s'] options⟩
      | some file, arguments =>
        match (← get).tree.readFile inv.view ⟨Chars.bytes file⟩ with
        | .ok content => return .ok ⟨Chars.ofBytes content, file, arguments, options⟩
        | .error e =>
          return .error (Chars.ofText "cannot open " ++ file ++ Chars.ofText ": " ++
            if e = .notFound then Chars.ofText "No such file" else Programs.wordingOf e)

/-- The variables in the settings that a shell was started with. Of several settings of one
name the last counts. -/
def inheritedVariables (settings : List Chars) : List (Chars × Variable) :=
  settings.foldl (fun bindings setting =>
    match setting.span (· ≠ '=') with
    | (name, _ :: value) =>
      if Chars.isName name then
        bindings.filter (·.1 ≠ name) ++ [(name, ⟨value, true⟩)]
      else bindings
    | (_, []) => bindings) []

/-- The directories in which a shell searches for programs where it was told nothing else. -/
def initialSearch : Chars :=
  Programs.chars "/usr/local/sbin:/usr/local/bin:/usr/sbin:/usr/bin:/sbin:/bin"

/-- The path of the working directory that a program is started in. -/
def startPath (inv : Invocation) : Chars :=
  Programs.locationPath (Programs.seenFrom inv.view.root inv.view.cwd)

/-- The variables that every shell begins with, whatever it was started with. -/
def ownVariables (pid : Nat) : List (Chars × Chars) := [
  (Chars.ofText "IFS", [' ', '\t', '\n']), (Session.placeName, ['1']),
  (Chars.ofText "PPID", Chars.ofNat (pid - 1))]

/-- The variables that a shell begins with where it was started with no others of their names. -/
def usualVariables : List (Chars × Chars) := [
  (Chars.ofText "PATH", initialSearch), (Chars.ofText "PS1", ['#', ' ']),
  (Chars.ofText "PS2", ['>', ' ']), (Chars.ofText "PS4", ['+', ' '])]

/-- The variables of a shell at its beginning. -/
def initialVariables (inv : Invocation) (pid : Nat) : List (Chars × Variable) :=
  let inherited := inheritedVariables inv.settings
  let usual := usualVariables.filter fun (name, _) => (inherited.lookup name).isNone
  let own := ownVariables pid
  let isOwn (name : Chars) : Bool := (own.lookup name).isSome || name = workingDirectoryName
  usual.map (fun (name, value) => (name, ⟨value, false⟩)) ++
    own.map (fun (name, value) => (name, ⟨value, (inherited.lookup name).isSome⟩)) ++
    inherited.filter (!isOwn ·.1) ++ [(workingDirectoryName, ⟨startPath inv, true⟩)]

/-- A shell at its beginning. -/
def Session.start (inv : Invocation) (pid : Nat) (source : Source) : Session where
  bindings := initialVariables inv pid
  promised := []
  arguments := source.arguments
  name := source.name
  view := inv.view
  here := startPath inv
  streams := inv.streams
  status := 0
  putIn? := none
  pid := pid
  functions := []
  aliases := []
  traps := []
  options := source.options
  place := .first
  constants := []
  covered? := none
  beside := []
  loops := 0

/-- The shell. -/
def shell (launch : Launch) (inv : Invocation) : HostM ExitStatus := do
  match ← source inv with
  | .error words =>
    Host.write (inv.stream 2) (Chars.bytes ((inv.arguments.head?.getD []) ++
      Chars.ofText ": 0: " ++ words ++ ['\n']))
    return .exited 2
  | .ok source =>
    let pid ← Host.newId
    let session := Session.start inv pid source
    let (flow, session) ← (runText (run launch scriptDepth false) source.text).run session
    match flow with
    | .killed signal => return .killed signal
    | _ =>
      match session.traps.lookup ['0'] with
      | none => return .exited session.status
      | some action =>
        let code := session.status
        let (flow, session) ← (runText (run launch scriptDepth false) action).run session
        match flow with
        | .killed signal => return .killed signal
        | .exited | .failed => return .exited session.status
        | _ => return .exited code

end Container.Shell
