import Container.Shell.Declaration

set_option autoImplicit false

/-!
# Options and arguments of a shell

## Main definitions

* `turnAll` — turns the options of a shell on or off.
* `setOptions` — the command that does so and gives the shell other arguments.
* `getOption` — reads one option from arguments.
-/

namespace Container.Shell

/-! ## Options of the shell -/

/-- The letters of the options of the shell. -/
def optionLetters : Chars := "aCbEefIilmnpqsuvVx".toList

/-- The letters of the options that have names. -/
def optionNames : List (String × Char) := [
  ("errexit", 'e'), ("noglob", 'f'), ("ignoreeof", 'I'), ("interactive", 'i'), ("monitor", 'm'),
  ("noexec", 'n'), ("stdin", 's'), ("xtrace", 'x'), ("verbose", 'v'), ("vi", 'V'), ("emacs", 'E'),
  ("noclobber", 'C'), ("allexport", 'a'), ("notify", 'b'), ("nounset", 'u'), ("privileged", 'p')]

/-- Turns options of the shell on or off. -/
def turn (on : Bool) (letters : Chars) (options : Chars) : Chars :=
  options.filter (!letters.contains ·) ++ if on then letters else []

/-- Turns options on or off by the letters of one argument, of which there are some `known` ones.
The letter `o` takes the name of an option from the arguments after it. The error is the option
that there is not. -/
def turnLetters (known : Chars) (on : Bool) : Chars → List Chars → Chars →
    Except Chars (Chars × List Chars)
  | [], rest, options => .ok (options, rest)
  | c :: cs, rest, options =>
    if c = 'o' then
      match rest with
      | name :: rest =>
        match optionNames.lookup (String.ofList name) with
        | some letter => turnLetters known on cs rest (turn on [letter] options)
        | none => .error ('o' :: ' ' :: name)
      | [] => turnLetters known on cs [] options
    else if known.contains c then turnLetters known on cs rest (turn on [c] options)
    else .error [c]

/-- Turns options on or off by the arguments that stand before others, of which there are at most
`fuel`. The answer holds the options, the arguments after them, and whether a hyphen or two said
that they follow. -/
def turnAll (known : Chars) : Nat → List Chars → Chars → Except Chars (Chars × List Chars × Bool)
  | fuel + 1, (sign :: letters) :: rest, options =>
    if sign = '-' ∧ letters = [] then .ok (turn false ['x', 'v'] options, rest, false)
    else if sign = '-' ∧ letters = ['-'] then .ok (options, rest, true)
    else if sign = '-' ∨ sign = '+' then
      match turnLetters known (sign = '-') letters rest options with
      | .ok (options, rest) => turnAll known fuel rest options
      | .error word => .error (sign :: word)
    else .ok (options, (sign :: letters) :: rest, false)
  | _, rest, options => .ok (options, rest, false)

/-- Gives the shell other arguments. -/
def setArguments (arguments : List Chars) : ShellM Flow := do
  modify fun s => { s with arguments, place := .first }
  finish 0

/-- Writes which options are on, in a table or as the commands that would set them. -/
def showOptions (inTable : Bool) : ShellM Flow := do
  let s ← get
  if inTable then say (Chars.ofText "Current option settings\n")
  for (name, letter?) in optionNames.map (fun (name, c) => (name, some c)) ++
      [("nolog", none), ("debug", none)] do
    let isOn : Bool := letter?.any s.options.contains
    let name := Chars.ofText name
    if inTable then
      say (name ++ List.replicate (16 - name.length) ' ' ++
        Chars.ofText (if isOn then "on\n" else "off\n"))
    else say (Chars.ofText (if isOn then "set -o " else "set +o ") ++ name ++ ['\n'])
  finish 0

/-- Sets options and arguments of the shell, or writes the variables or the options. -/
def setOptions (words : List Chars) : ShellM Flow := do
  let s ← get
  match words, turnAll optionLetters (words.length + 1) words s.options with
  | [], _ => showVariables [] (s.bindings.map (·.1))
  | [['-', 'o']], _ => showOptions true
  | [['+', 'o']], _ => showOptions false
  | _, .error word => giveUpOver "set" (Chars.ofText "Illegal option " ++ word)
  | _, .ok (options, rest, isSaid) =>
    set { s with options }
    if rest.isEmpty ∧ ¬ isSaid then finish 0 else setArguments rest

/-! ## Options in arguments -/

/-- Whether an option takes a value, if there is such an option: its letter stands in a text of
which the letters with values have a colon after them. -/
def takesValue? (c : Char) : Chars → Option Bool
  | [] => none
  | d :: cs =>
    if d = c then some (cs.head? = some ':')
    else
      match cs with
      | ':' :: cs => takesValue? c cs
      | cs => takesValue? c cs

/-- What reading one option comes to. -/
structure OptionRead where
  place : OptionPlace
  /-- What is found: the letter, or a mark that none is or that it cannot be used. -/
  found : Char
  /-- The value that comes with it. -/
  value? : Option Chars
  /-- What there is to complain about. -/
  complaint? : Option Chars
  /-- Whether there was no option any more. -/
  isDone : Bool

/-- Reads the option at a place in arguments. A colon before the letters says that nothing is to
be complained about. -/
def OptionRead.at (letters : Chars) (arguments : List Chars) (place : OptionPlace) : OptionRead :=
  let quiet := letters.head? = some ':'
  let begun : Chars := match place.letter? with
    | some n => if place.argument ≤ 1 then [] else (arguments[place.argument - 2]?.getD []).drop n
    | none => []
  let done (n : Nat) : OptionRead := ⟨⟨n, none⟩, '?', none, none, true⟩
  let next := arguments[place.argument - 1]?.getD []
  -- the letters to be read, and the number of the argument after theirs
  let here : Option (Chars × Nat) :=
    if !begun.isEmpty then some (begun, place.argument)
    else
      match next with
      | '-' :: c :: cs => if c = '-' ∧ cs = [] then none else some (c :: cs, place.argument + 1)
      | _ => none
  match here with
  | none => done (if begun.isEmpty ∧ next = ['-', '-'] then place.argument + 1 else place.argument)
  | some ([], n) => done n
  | some (c :: cs, n) =>
    let inside (rest : Chars) : OptionPlace :=
      ⟨n, some ((arguments[n - 2]?.getD []).length - rest.length)⟩
    match takesValue? c letters, cs, arguments[n - 1]? with
    | none, _, _ =>
      if quiet then ⟨inside cs, '?', some [c], none, false⟩
      else ⟨inside cs, '?', none, some (Chars.ofText "Illegal option -" ++ [c]), false⟩
    | some false, _, _ => ⟨inside cs, c, some [], none, false⟩
    | some true, [], some value => ⟨⟨n + 1, none⟩, c, some value, none, false⟩
    | some true, [], none =>
      if quiet then ⟨⟨n, none⟩, ':', some [c], none, false⟩
      else ⟨⟨n, none⟩, '?', none,
        some (Chars.ofText "No arg for -" ++ c :: Chars.ofText " option"), false⟩
    | some true, value, _ => ⟨⟨n, none⟩, c, some value, none, false⟩

/-- Reads one option from the arguments of the shell, or from others, into a variable. -/
def getOption (words : List Chars) : ShellM Flow := do
  match words with
  | letters :: name :: others =>
    let s ← get
    let arguments := if others.isEmpty then s.arguments else others
    let place := if arguments.length + 1 < s.place.argument then .first else s.place
    let r := OptionRead.at letters arguments place
    let valueName := Chars.ofText "OPTARG"
    if let some complaint := r.complaint? then
      Host.write (s.stream 2) (Chars.bytes (complaint ++ ['\n']))
    match r.value? with
    | some value => modify fun s => s.assign valueName value
    | none => if !r.isDone then modify fun s => s.unset valueName
    modify fun s =>
      { s.assign Session.placeName (Chars.ofNat r.place.argument) with place := r.place }
    if !Chars.isName name then giveUpOver "getopts" (badName name)
    else if s.constants.contains name then giveUpOver "getopts" (Fault.constant name).words
    else
      modify fun s => s.assign name [r.found]
      finish (if r.isDone then 1 else 0)
  | _ => giveUpOver "getopts" (Chars.ofText "usage: getopts optstring var [arg...]")

end Container.Shell
