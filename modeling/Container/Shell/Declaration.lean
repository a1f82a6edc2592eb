import Container.Shell.Means

set_option autoImplicit false

/-!
# Declaring names

Names can be handed on to programs, keep their values for good, or belong to the running function
alone.

## Main definitions

* `Declaration` — what is said about names.
* `declare` — declares names.
* `unsetWords` — takes variables or functions away.
* `quotedText` — a text as a script writes it.
-/

namespace Container.Shell

/-! ## Lists of variables -/

/-- A text in quotes, with at most `fuel` changes between single and double ones. -/
def quotedWithin : Nat → Chars → Chars
  | 0, _ => []
  | fuel + 1, cs =>
    let (plain, rest) := cs.span (· ≠ Chars.singleQuote)
    let (quotes, rest) := rest.span (· = Chars.singleQuote)
    Chars.singleQuote :: plain ++ [Chars.singleQuote] ++
      (if quotes.isEmpty then [] else Chars.doubleQuote :: quotes ++ [Chars.doubleQuote]) ++
      if rest.isEmpty then [] else quotedWithin fuel rest

/-- A text as a script writes it: in single quotes, but for those that are in it. -/
def quotedText (cs : Chars) : Chars := quotedWithin (cs.length + 1) cs

/-- Writes names in order, each after some text, with its value where it has one. -/
def showVariables (before : Chars) (names : List Chars) : ShellM Flow := do
  let s ← get
  let sorted := names.eraseDups.mergeSort fun a b => decide ¬b.map Char.toNat < a.map Char.toNat
  for name in sorted do
    match s.variableValue? name with
    | some value => say (before ++ name ++ '=' :: quotedText value ++ ['\n'])
    | none => if !before.isEmpty then say (before ++ name ++ ['\n'])
  finish 0

/-! ## Declarations -/

/-- What is said about the names that a command declares. -/
inductive Declaration where
  /-- They are handed on to programs. -/
  | exported
  /-- They keep their values. -/
  | constant
  /-- The running function has them for itself. -/
  | covering

namespace Declaration

/-- The command that makes a declaration. -/
def command : Declaration → String
  | .exported => "export"
  | .constant => "readonly"
  | .covering => "local"

/-- The names that were declared. -/
def names (d : Declaration) (s : Session) : List Chars :=
  match d with
  | .exported => (s.bindings.filter (·.2.exported)).map (·.1) ++ s.promised
  | .constant => s.constants
  | .covering => []

/-- The session after a declaration of a name, before it is given a value. -/
def before (d : Declaration) (name : Chars) (s : Session) : Session :=
  match d with
  | .covering => s.cover name
  | .exported | .constant => s

/-- The session after a declaration of a name. -/
def after (d : Declaration) (name : Chars) (s : Session) : Session :=
  match d with
  | .exported => s.handOn name
  | .constant => { s with constants := name :: s.constants }
  | .covering => s

end Declaration

/-- Declares names, and sets variables where values are given. -/
def declare (d : Declaration) : List Chars → ShellM Flow
  | [] => finish 0
  | word :: words => do
    let (name, rest) := word.span (· ≠ '=')
    let isBound := (← get).constants.contains name && !rest.isEmpty
    if !Chars.isName name then giveUpOver d.command (badName name)
    else if isBound then giveUpOver d.command (Fault.constant name).words
    else
      modify (d.before name)
      if let _ :: value := rest then modify fun s => s.assign name value
      modify (d.after name)
      declare d words

/-- Declares names, or writes those that were declared. -/
def declareOrShow (d : Declaration) (words : List Chars) : ShellM Flow :=
  withLetters d.command "p" words fun o => do
    if o.has 'p' ∨ o.operands.isEmpty then
      showVariables (Chars.ofText (d.command ++ " ")) (d.names (← get))
    else declare d o.operands

/-- Gives the running function names of its own. -/
def declareOwn (words : List Chars) : ShellM Flow := do
  match (← get).covered? with
  | some _ => declare .covering words
  | none => giveUpOver "local" (Chars.ofText "not in a function")

/-- Takes variables away. -/
def unsetAll : List Chars → ShellM Flow
  | [] => finish 0
  | word :: words => do
    if !Chars.isName word then giveUpOver "unset" (badName word)
    else if (← get).constants.contains word then giveUpOver "unset" (Fault.constant word).words
    else
      modify fun s => s.unset word
      unsetAll words

/-- Takes variables away, or functions. -/
def unsetWords (words : List Chars) : ShellM Flow :=
  withLetters "unset" "vf" words fun o => do
    if o.letters.getLast? = some 'f' then
      modify fun s => { s with functions := s.functions.filter fun f => !o.operands.contains f.1 }
      finish 0
    else unsetAll o.operands

end Container.Shell
