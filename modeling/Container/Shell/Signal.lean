import Container.Shell.Declaration

set_option autoImplicit false

/-!
# Signals

## Main definitions

* `signalOf?`, `signalName?` — signals by their names, and back.
* `kill` — sends signals.
* `setTraps` — says what is done about signals.
-/

namespace Container.Shell

/-- The names of signals, without what they all begin with, from the one with the number zero on,
which stands for the end of the shell. -/
def signalNames : List String :=
  "EXIT" :: (ExitStatus.signalNames.map fun name => String.ofList (name.toList.drop 3))

/-- The greatest number of a signal, and the least and the greatest that are free for any use. -/
def lastSignal : Nat := 64
def firstFreeSignal : Nat := 34

/-- The name of a signal. -/
def signalName? (n : Nat) : Option Chars :=
  let middle := 50
  if n < signalNames.length then (signalNames[n]?).map Chars.ofText
  else if n < firstFreeSignal then some (Chars.ofNat n)
  else if n = firstFreeSignal then some (Chars.ofText "RTMIN")
  else if n < middle then some (Chars.ofText "RTMIN+" ++ Chars.ofNat (n - firstFreeSignal))
  else if n < lastSignal then some (Chars.ofText "RTMAX-" ++ Chars.ofNat (lastSignal - n))
  else if n = lastSignal then some (Chars.ofText "RTMAX")
  else none

/-- The signal that a number or a name says, from a least one on. -/
def signalOf? (least : Nat) (word : Chars) : Option Nat :=
  match Chars.toNat? word with
  | some n => if n ≤ lastSignal then some n else none
  | none =>
    let upper := word.map Char.toUpper
    ((List.range (lastSignal + 1)).drop least).find? fun n => signalName? n = some upper

/-- Whether a signal does nothing unless something is done about it. -/
def isHarmless (signal : Nat) : Bool := [0, 17, 18, 23, 28].contains signal

/-- What is done about a signal that the shell got, once the command that it came in has ended. -/
def answer (means : Means) (signal : Nat) : ShellM Flow := do
  let s ← get
  match s.traps.lookup (Chars.ofNat signal) with
  | some action =>
    match ← means.runText action with
    | .next => finish s.status
    | flow => return flow
  | none => return .next

/-- How signals are sent. -/
def killUsage : Chars :=
  Chars.ofText ("Usage: kill [-s sigspec | -signum | -sigspec] [pid | job]... or\n" ++
    "kill -l [exitstatus]")

/-- Writes the names of all signals, or that of one that ended a process with a status. -/
def showSignals : List Chars → ShellM Flow
  | [] => do
    say (((List.range lastSignal).map fun n => (signalName? (n + 1)).getD [] ++ ['\n']).foldl
      (· ++ ·) ['0', '\n'])
    finish 0
  | word :: _ =>
    match Chars.toNat? word with
    | none => giveUpOver "kill" (illegalNumber word)
    | some status =>
      let n := if 128 < status then status - 128 else status
      match (signalName? n).filter fun _ => 0 < n with
      | some name => do
        say (name ++ ['\n'])
        finish 0
      | none => giveUpOver "kill" (Chars.ofText "invalid signal number or exit status: " ++ word)

/-- Whether a word names a script that ran beside this one. -/
def isJob (s : Session) (word : Chars) : Bool :=
  match word with
  | '%' :: number => (Chars.toNat? number).any fun n => 0 < n && n ≤ s.beside.length
  | word => s.beside.any fun job => Chars.ofNat job.1 = word

/-- Sends a signal. Only the shell itself is there to get one; `isPending` says that it did. -/
def send (means : Means) (signal : Nat) (isPending : Bool) (code : Nat) : List Chars → ShellM Flow
  | [] => do
    let _ ← finish code
    if isPending then answer means signal else return .next
  | target :: targets => do
    let s ← get
    let digits := match target with
      | '-' :: digits => digits
      | digits => digits
    let isMinded : Bool := signal ≠ 9 && (s.traps.lookup (Chars.ofNat signal)).isSome
    if target = Chars.ofNat s.pid then
      if isMinded then send means signal true code targets
      else if isHarmless signal then send means signal isPending code targets
      else return .killed signal
    else if isJob s target then send means signal isPending code targets
    else if target.head? = some '%' then
      giveUpOver "kill" (Chars.ofText "No such job: " ++ target)
    else if (Chars.toNat? digits).isNone then giveUpOver "kill" (illegalNumber digits)
    else
      complain "kill" (Chars.ofText "No such process\n")
      send means signal isPending 1 targets

/-- Sends signals, or writes their names. -/
def kill (means : Means) (words : List Chars) : ShellM Flow := do
  let short? : Option (Nat × List Chars) := match words with
    | ('-' :: name) :: targets => (signalOf? 1 name).map (·, targets)
    | _ => none
  match words, short? with
  | [], _ => giveUpOver "kill" killUsage
  | _, some (_, []) => giveUpOver "kill" killUsage
  | _, some (signal, targets) => send means signal false 0 targets
  | words, none =>
    withLetters "kill" "ls:" words fun o =>
      match o.value? 's', o.has 'l' with
      | none, true => showSignals o.operands
      | none, false =>
        if o.operands.isEmpty then giveUpOver "kill" killUsage else send means 15 false 0 o.operands
      | some name, lists =>
        match signalOf? 1 name with
        | none => giveUpOver "kill" (Chars.ofText "invalid signal number or name: " ++ name)
        | some signal =>
          if o.operands.isEmpty || lists then giveUpOver "kill" killUsage
          else send means signal false 0 o.operands

/-- Does something about signals, up to the first word that says none. -/
def setEach (action : Chars) : List Chars → ShellM Flow
  | [] => finish 0
  | name :: names => do
    match signalOf? 0 name with
    | none =>
      Host.write ((← get).stream 2)
        (Chars.bytes (Chars.ofText "trap: " ++ name ++ Chars.ofText ": bad trap\n"))
      finish 1
    | some signal =>
      let key := Chars.ofNat signal
      modify fun s => { s with
        traps := s.traps.filter (·.1 ≠ key) ++ if action = ['-'] then [] else [(key, action)] }
      setEach action names

/-- Says what is done about signals, or writes it. -/
def setTraps (words : List Chars) : ShellM Flow :=
  withLetters "trap" "" words fun o => do
    match o.operands with
    | [] =>
      let s ← get
      for n in List.range (lastSignal + 1) do
        if let some action := s.traps.lookup (Chars.ofNat n) then
          say (Chars.ofText "trap -- " ++ quotedText action ++ ' ' :: (signalName? n).getD [] ++
            ['\n'])
      finish 0
    | [name] => setEach ['-'] [name]
    | action :: names =>
      if (Chars.toNat? action).any (· ≤ lastSignal) then setEach ['-'] (action :: names)
      else setEach action names

end Container.Shell
