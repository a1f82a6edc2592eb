import Container.Shell.Means

set_option autoImplicit false

/-!
# Where a shell is

## Main definitions

* `cd`, `pwd` — change the working directory and write it.
-/

namespace Container.Shell

/-- The variable in which a shell keeps its working directory. -/
def workingDirectoryName : Chars := Chars.ofText "PWD"

/-- The path of names from the top, without those that lead nowhere else and with one name less
for every step up. Two slashes at the beginning are kept. -/
def walked (path : Chars) : Chars :=
  let names := (path.splitOn '/').foldl (fun (names : List Chars) name =>
    if name.isEmpty ∨ name = ['.'] then names
    else if name = ['.', '.'] then names.drop 1
    else name :: names) []
  let walked := if names.isEmpty then ['/'] else names.reverse.flatMap ('/' :: ·)
  if (path.takeWhile (· = '/')).length = 2 then '/' :: walked else walked

/-- Where a working directory may be, in order, and whether it is shown when it is there: below
the directories in which they are searched, unless the way to it begins with a dot or a slash. -/
def placesOf (s : Session) (target : Chars) : List (Chars × Bool) :=
  let first := (target.splitOn '/').head?.getD []
  let isNear := first.isEmpty ∨ first = ['.'] ∨ first = ['.', '.']
  match s.variableValue? (Chars.ofText "CDPATH") with
  | none => [(target, false)]
  | some search =>
    if isNear then [(target, false)]
    else (Programs.colonParts search).map (fun directory =>
      if directory.isEmpty then (target, false) else (directory ++ '/' :: target, true))
        ++ [(target, false)]

/-- Changes the working directory. The way is that of the names, links included, unless it is to
be without links. -/
def cd (words : List Chars) : ShellM Flow :=
  withLetters "cd" "LP" words fun o => do
    let s ← get
    let value (name : String) : Chars := (s.variableValue? (Chars.ofText name)).getD []
    let (target, shown) := match o.operands with
      | [] => (value "HOME", false)
      | ['-'] :: _ => (value "OLDPWD", true)
      | word :: _ => (word, false)
    let tree := (← (MonadState.get : HostM Host)).tree
    let way (place : Chars) : Chars :=
      if place.head? = some '/' then place else Programs.below s.here place
    let isDir (place : Chars) : Bool := tree.isDirAt s.view ⟨Chars.bytes (way place)⟩
    let places := placesOf s target
    let (place, found) := ((places.find? fun p => isDir p.1).orElse fun () => places.getLast?).getD
      (target, false)
    let path := if o.letters.getLast? = some 'P' then way place else walked (way place)
    match tree.statAt s.view ⟨Chars.bytes path⟩ with
    | .error _ => giveUpOver "cd" (Chars.ofText "can't cd to " ++ target)
    | .ok f =>
      if f.isDir && f.permits .run then
        let old := Chars.ofText "OLDPWD"
        let path := if o.letters.getLast? = some 'P' then
            Programs.locationPath (Programs.seenFrom s.view.root f.location) else path
        set (((({ s with view := { s.view with cwd := f.location }, here := path }).assign old
          s.here).handOn old).assign workingDirectoryName path)
        if shown ∨ found then say (path ++ ['\n'])
        finish 0
      else giveUpOver "cd" (Chars.ofText "can't cd to " ++ target)

/-- Writes the working directory: the way the shell came there, or without links. -/
def pwd (words : List Chars) : ShellM Flow :=
  withLetters "pwd" "LP" words fun o => do
    let s ← get
    say ((if o.letters.getLast? = some 'P'
      then Programs.locationPath (Programs.seenFrom s.view.root s.view.cwd) else s.here) ++ ['\n'])
    finish 0

end Container.Shell
