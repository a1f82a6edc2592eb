import Container.Programs.Awk.Run
import Container.Programs.Blocks
import Container.Programs.Calculation
import Container.Programs.Calendar
import Container.Programs.Compare
import Container.Programs.Condition
import Container.Programs.Digest
import Container.Programs.Dump
import Container.Programs.Edit
import Container.Programs.Encoding
import Container.Programs.Listing
import Container.Programs.Order
import Container.Programs.Placement
import Container.Programs.Starters
import Container.Programs.Walk

set_option autoImplicit false

/-!
# The programs of a host

## Main definitions

* `echo`, `printf`, `pwd`, `printenv`, `test`, `id`, `uname` — the programs that concern
  no files.
* `Programs.find?` — a program by its name.
* `Programs.names` — the names of all of them but the shell.
-/

namespace Container.Programs

/-- Writes its arguments; with `-e` it replaces escapes in them, with `-n` it ends no line. -/
def echo : Body := fun inv => do
  let isOption (cs : Chars) : Bool := match cs with
    | '-' :: c :: cs => (c :: cs).all fun c => ['n', 'e', 'E'].contains c
    | _ => false
  let (flags, words) := (inv.arguments.drop 1).span isOption
  let escapes := flags.foldl (fun on cs => cs.foldl (fun on c =>
    if c = 'e' then true else if c = 'E' then false else on) on) false
  let text := Chars.join [' '] words
  let (text, goesOn) := if escapes then Format.unescaped true text else (text, true)
  let ended := goesOn && !flags.any (·.contains 'n')
  say inv (if ended then text ++ ['\n'] else text)
  return 0

/-- Writes its arguments in a format. -/
def printf : Body := fun inv => do
  let operands := match inv.arguments.drop 1 with
    | ['-', '-'] :: operands => operands
    | operands => operands
  match operands with
  | format :: arguments =>
    let r := Format.render format arguments
    say inv r.shown
    for complaint in r.complaints do
      complain inv (ownName inv ++ chars ": " ++ complaint ++ ['\n'])
    return min r.code 1
  | [] =>
    complainOfUse inv (chars "missing operand")
    return 1

/-- Writes the working directory. -/
def pwd : Body := fun inv => do
  say inv (locationPath (seenFrom inv.view.root inv.view.cwd) ++ ['\n'])
  return 0

/-- Writes who runs it. -/
def id : Body := withOptions "Ggnruz" 1 fun inv o => do
  let shown :=
    if o.hasAny "ugG" then (if o.has 'n' then "root" else "0")
    else "uid=0(root) gid=0(root) groups=0(root)"
  say inv (chars (shown ++ "\n"))
  return 0

/-- Writes what system it runs on. -/
def uname : Body := withOptions "asnrvmpio" 1 fun inv o => do
  let parts := [('s', "Linux"), ('m', "x86_64"), ('o', "GNU/Linux")]
  let shown := (parts.filter fun (c, _) => o.has c || (c = 's' && o.letters.isEmpty)).map (·.2)
  say inv (chars (" ".intercalate shown ++ "\n"))
  return 0

/-- Writes a line that is the same on every host. -/
def fact (line : String) : Body := fun inv => do
  say inv (chars (line ++ "\n"))
  return 0

/-- Writes that the input comes from nobody at a keyboard. -/
def tty : Body := withOptions "s" 2 fun inv o => do
  if !o.has 's' then say inv (chars "not a tty\n")
  return 1

/-- Tests a condition. -/
def test (bracketed : Bool) : Body := fun inv => do
  let words := inv.arguments.drop 1
  let host ← get
  if bracketed then
    if words.getLast? = some [']'] then
      return Condition.exitCode (Condition.holds? host inv.view words.dropLast)
    else return 2
  else return Condition.exitCode (Condition.holds? host inv.view words)

/-- Writes the settings, or the values of those that are named. -/
def printenv : Body := fun inv => do
  match inv.arguments.drop 1 with
  | [] =>
    for setting in inv.settings do
      say inv (setting ++ ['\n'])
    return 0
  | names => forEach names fun name => do
      match inv.setting? name with
      | some value =>
        say inv (value ++ ['\n'])
        return true
      | none => return false

/-- The programs that end with a code and start no others. -/
def bodies : List (String × Body) := [
  ("echo", echo), ("printf", printf), ("printenv", printenv), ("whoami", fact "root"),
  ("groups", fact "root"),
  ("hostname", fact "localhost"), ("nproc", fact "1"), ("arch", fact "x86_64"),
  ("date", date), ("tty", tty), ("pwd", pwd),
  ("id", id), ("test", test false), ("[", test true), ("true", fun _ => pure 0),
  ("false", fun _ => pure 1), ("sleep", sleep), ("sync", fun _ => pure 0), ("uname", uname),
  ("cat", cat), ("head", head), ("tail", tail), ("wc", wc), ("tee", tee), ("tr", tr), ("cut", cut),
  ("seq", seq), ("yes", yes), ("sort", sort), ("grep", grep), ("uniq", uniq), ("comm", comm),
  ("paste", paste), ("tac", tac), ("rev", rev), ("nl", nl), ("fold", fold), ("cmp", cmp),
  ("diff", diff), ("expr", expr), ("sed", sed), ("ls", ls), ("mkdir", mkdir), ("rmdir", rmdir),
  ("rm", rm), ("touch", touch), ("mkfifo", mkfifo), ("chmod", chmod), ("truncate", truncate),
  ("cp", cp), ("mv", mv), ("ln", ln), ("readlink", readlink), ("realpath", realpath),
  ("dd", dd), ("od", od), ("base64", base64), ("md5sum", digestOf Digest.md5),
  ("sha1sum", digestOf Digest.sha1), ("sha256sum", digestOf Digest.sha256), ("cksum", cksum),
  ("install", install), ("link", link), ("unlink", unlink), ("mktemp", mktemp), ("split", split),
  ("chown", chown), ("chgrp", chown), ("basename", basename), ("dirname", dirname), ("stat", stat),
  ("which", which)]

/-- The programs that start others and end with a code. -/
def starting : List (String × (Launch → Body)) :=
  [("find", find), ("xargs", xargs), ("awk", awk), ("mawk", awk)]

/-- The programs that start others and end as they do. -/
def leading : List (String × (Launch → Invocation → HostM ExitStatus)) := [
  ("env", env), ("timeout", timeout), ("nice", runAfter "n:"), ("setsid", runAfter "cfw"),
  ("nohup", runAfter "")]

/-- The names of the programs but for the shell. -/
def names : List String := leading.map (·.1) ++ starting.map (·.1) ++ bodies.map (·.1)

/-- A program by its name. -/
def find? (launch : Launch) (name : String) : Option (Invocation → HostM ExitStatus) :=
  let ended (body : Body) (inv : Invocation) : HostM ExitStatus := ExitStatus.exited <$> body inv
  ((leading.lookup name).map fun program => program launch)
    <|> ((starting.lookup name).map fun program => ended (program launch))
    <|> ((bodies.lookup name).map ended)

end Container.Programs
