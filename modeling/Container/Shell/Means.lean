import Container.Shell.Expansion

set_option autoImplicit false

/-!
# What the commands of a shell have in common

## Main definitions

* `Means` — how they run other things.
* `giveUp`, `giveUpFor` — what ends a shell.
* `withNumber`, `withLetters` — commands that take a number, or options.
-/

namespace Container.Shell

open Programs (Launch)

/-- How the commands of a shell run other things: programs of the host, and the text of a
script in this shell. -/
structure Means where
  launch : Launch
  runText : Chars → ShellM Flow

/-- Ends the shell, or only the command where it is one over which the shell does not end. -/
def giveUp : ShellM Flow := do
  let _ ← finish 2
  return .failed

/-- Complains, and gives up. -/
def giveUpOver (who : String) (what : Chars) : ShellM Flow := do
  complain who what
  giveUp

/-- Gives up over a fault. -/
def giveUpFor (fault : Fault) : ShellM Flow := giveUpOver "" fault.words

/-- What is said about a word that is no number. -/
def illegalNumber (word : Chars) : Chars := Chars.ofText "Illegal number: " ++ word

/-- What is said about an option that a command does not have. -/
def illegalOption (word : Chars) : Chars := Chars.ofText "Illegal option " ++ word.take 2

/-- What is said about a name that no variable may have. -/
def badName (name : Chars) : Chars := name ++ Chars.ofText ": bad variable name"

/-- The number that a word is, if a command can take it. -/
def numberOf? (word : Chars) : Option Nat :=
  match Chars.toInt? (word.dropWhile Chars.isBlank) with
  | some (.ofNat n) => if n < 2147483648 then some n else none
  | _ => none

/-- Does something with the number that a command is given, or with `usual` if it is given none. -/
def withNumber (who : String) (usual : Nat) (words : List Chars) (act : Nat → ShellM Flow) :
    ShellM Flow :=
  match words with
  | [] => act usual
  | word :: _ =>
    match numberOf? word with
    | some n => act n
    | none => giveUpOver who (illegalNumber word)

/-- Reads the letters of one argument, and the next argument where the last of them takes it. -/
def takeLetters (u : Programs.Usage) (o : Programs.Options) :
    Chars → List Chars → Programs.Options × List Chars
  | [], rest => (o, rest)
  | c :: cs, rest =>
    if !u.knows c then (o.refuse (illegalOption ['-', c]), rest)
    else if u.takesValue c then
      match cs, rest with
      | [], [] => (o.refuse (Chars.ofText "No arg for -" ++ c :: Chars.ofText " option"), [])
      | [], value :: rest => ({ o with values := (c, value) :: o.values }, rest)
      | value, rest => ({ o with values := (c, value) :: o.values }, rest)
    else takeLetters u { o with letters := o.letters ++ [c] } cs rest

/-- The options that stand before the operands of a command, of at most `fuel` arguments. -/
def optionsWithin (u : Programs.Usage) : Nat → Programs.Options → List Chars → Programs.Options
  | fuel + 1, o, ('-' :: c :: cs) :: rest =>
    if c = '-' ∧ cs = [] then { o with operands := rest }
    else
      let (o, rest) := takeLetters u o (c :: cs) rest
      if o.fault?.isSome then o else optionsWithin u fuel o rest
  | _, o, rest => { o with operands := rest }

/-- What a command of the shell does with its options. Where one of them cannot be used, the
command fails. -/
def withLetters (who usage : String) (words : List Chars)
    (act : Programs.Options → ShellM Flow) : ShellM Flow := do
  let o := optionsWithin ⟨usage⟩ words.length .start words
  match o.fault? with
  | none => act o
  | some fault => giveUpOver who fault

end Container.Shell
