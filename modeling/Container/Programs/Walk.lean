import Container.Programs.Paths
import Container.Shell.Pattern

set_option autoImplicit false

/-!
# Walking through directories

Every file below some directories is put to a test, which may also do something with it.

## Main definitions

* `Walk.Test` — a test, with what it does.
* `Walk.read?` — the test that words write.
* `find` — the program.
-/

namespace Container.Programs

namespace Walk

/-- How bits are compared with those that are asked for. -/
inductive Manner where
  | just
  | allOf
  | anyOf

/-- A test of a file, with what it does. -/
inductive Test where
  | name (fold : Bool) (pattern : List Shell.Mark)
  | path (pattern : List Shell.Mark)
  | kind (letters : Chars)
  | empty
  /-- Which of some permission bits a file has: just these, all of these or any of these. -/
  | permissions (manner : Manner) (mode : Nat)
  /-- How many bytes, or blocks of 512 bytes, a file has; more or less than so many. -/
  | size (order : Ordering) (count unit : Nat)
  | always (holds : Bool)
  | print (ending : Chars)
  /-- Writes what a format asks about the file. -/
  | printFormat (format : Chars)
  | prune
  /-- Ends the walk. -/
  | quit
  | links (order : Ordering) (count : Nat)
  | allowed (access : Access)
  | delete
  /-- Runs a command with the path of the file for a pair of braces. -/
  | run (words : List Chars)
  /-- Runs a command once, with the paths of all files for a pair of braces. -/
  | gather (words : List Chars)
  | not (test : Test)
  | both (first second : Test)
  | either (first second : Test)

/-- Whether a test does something. -/
def Test.acts : Test → Bool
  | .print _ | .printFormat _ | .delete | .run _ | .gather _ => true
  | .not t => t.acts
  | .both a b | .either a b => a.acts || b.acts
  | _ => false

/-- The command that a test runs once for all files. -/
def Test.gathering? : Test → Option (List Chars)
  | .gather words => some words
  | .not t => t.gathering?
  | .both a b | .either a b => a.gathering? <|> b.gathering?
  | _ => none

/-- Whether a test removes what it is put to. -/
def Test.deletes : Test → Bool
  | .delete => true
  | .not t => t.deletes
  | .both a b | .either a b => a.deletes || b.deletes
  | _ => false

/-- The pattern that a text writes. -/
def marks (cs : Chars) : List Shell.Mark := Shell.Mark.all false cs

/-- What a sign before a number asks for. -/
def ordered (cs : Chars) : Ordering × Chars :=
  match cs with
  | '+' :: cs => (.gt, cs)
  | '-' :: cs => (.lt, cs)
  | cs => (.eq, cs)

/-- The size that a text asks for. -/
def size? (cs : Chars) : Option Test :=
  let (order, cs) := ordered cs
  let (digits, unit) := cs.span Char.isDigit
  (Chars.toNat? digits).bind fun n => match unit with
    | ['c'] => some (.size order n 1)
    | ['k'] => some (.size order n 1024)
    | ['M'] => some (.size order n (1024 * 1024))
    | ['w'] => some (.size order n 2)
    | [] | ['b'] => some (.size order n 512)
    | _ => none

/-- The permission bits that a text asks for. -/
def permissions? (cs : Chars) : Option Test :=
  let (manner, cs) : Manner × Chars := match cs with
    | '-' :: cs => (.allOf, cs)
    | '/' :: cs => (.anyOf, cs)
    | cs => (.just, cs)
  (Mode.changed? 0 false 0 cs).map (.permissions manner ·)

mutual

/-- Reads tests joined by or. -/
def any? : Nat → List Chars → Option (Test × List Chars)
  | 0, _ => none
  | fuel + 1, words => do
    let (a, rest) ← all? fuel words
    match rest with
    | word :: rest =>
      if word = ['-', 'o'] ∨ word = "-or".toList then
        let (b, rest) ← any? fuel rest
        return (.either a b, rest)
      else return (a, word :: rest)
    | [] => return (a, [])

/-- Reads tests joined by and. -/
def all? : Nat → List Chars → Option (Test × List Chars)
  | 0, _ => none
  | fuel + 1, words => do
    let (a, rest) ← one? fuel words
    match rest with
    | [] => return (a, [])
    | word :: later =>
      if ["-o", "-or", ")"].contains (String.ofList word) then return (a, rest)
      else
        let joined := word = ['-', 'a'] ∨ word = "-and".toList
        let (b, rest) ← all? fuel (if joined then later else rest)
        return (.both a b, rest)

/-- Reads one test. -/
def one? : Nat → List Chars → Option (Test × List Chars)
  | 0, _ => none
  | fuel + 1, words =>
    match words with
    | [] => none
    | word :: rest =>
      match String.ofList word, rest with
      | "(", rest => do
        match ← any? fuel rest with
        | (t, [')'] :: rest) => return (t, rest)
        | _ => none
      | "!", rest | "-not", rest => do
        let (t, rest) ← one? fuel rest
        return (.not t, rest)
      | "-name", p :: rest => some (.name false (marks p), rest)
      | "-iname", p :: rest => some (.name true (marks (p.map Char.toLower)), rest)
      | "-path", p :: rest | "-wholename", p :: rest => some (.path (marks p), rest)
      | "-type", letters :: rest => some (.kind (letters.filter (· ≠ ',')), rest)
      | "-size", text :: rest => (size? text).map (·, rest)
      | "-perm", text :: rest => (permissions? text).map (·, rest)
      | "-links", text :: rest =>
        let (order, digits) := ordered text
        (Chars.toNat? digits).map (.links order ·, rest)
      | "-readable", rest => some (.allowed .read, rest)
      | "-writable", rest => some (.allowed .write, rest)
      | "-executable", rest => some (.allowed .run, rest)
      | "-printf", format :: rest => some (.printFormat format, rest)
      | "-quit", rest => some (.quit, rest)
      | "-empty", rest => some (.empty, rest)
      | "-true", rest => some (.always true, rest)
      | "-false", rest => some (.always false, rest)
      | "-print", rest => some (.print ['\n'], rest)
      | "-print0", rest => some (.print [Char.ofNat 0], rest)
      | "-prune", rest => some (.prune, rest)
      | "-delete", rest => some (.delete, rest)
      | "-exec", rest =>
        let (command, rest) := rest.span fun w => w ≠ [';'] ∧ w ≠ ['+']
        match rest with
        | [';'] :: rest => if command.isEmpty then none else some (.run command, rest)
        | _ :: rest =>
          if command.getLast? = some ['\x7b', '\x7d'] then some (.gather command.dropLast, rest)
          else none
        | [] => none
      | _, _ => none

end

/-- The test that words write. Without any it always holds; one that does nothing writes the paths
of the files for which it holds. -/
def read? (words : List Chars) : Option Test := do
  if words.isEmpty then return .print ['\n']
  match ← any? (4 * words.length + 4) words with
  | (t, []) => return if t.acts then t else .both t (.print ['\n'])
  | _ => none

/-- A text with another one for every pair of braces. -/
def filledIn (filling : Chars) : Chars → Chars
  | '\x7b' :: '\x7d' :: cs => filling ++ filledIn filling cs
  | c :: cs => c :: filledIn filling cs
  | [] => []

/-- A file that a walk has come to: its path, the path from which the walk set out, and how far it
is from there. -/
structure Station where
  path : Chars
  start : Chars
  depth : Nat
  file : File

/-- What a letter of a format says about a file. -/
def Station.detail (host : Host) (at_ : Station) (c : Char) : Chars :=
  let inside := (at_.path.drop at_.start.length).dropWhile (· = '/')
  match c with
  | 'p' => at_.path
  | 'P' => inside
  | 'f' => if at_.path = ['/'] then ['/'] else lastName at_.path
  | 'h' => if at_.path.contains '/' then upToLast at_.path else ['.']
  | 'H' => at_.start
  | 'd' => Chars.ofNat at_.depth
  | 's' => Chars.ofNat (sizeOf at_.file)
  | 'm' => Mode.octal 1 at_.file.mode
  | 'M' => kindLetter at_.file :: Mode.letters at_.file.mode
  | 'y' => [if kindLetter at_.file = '-' then 'f' else kindLetter at_.file]
  | 'n' => Chars.ofNat (linkCount host at_.file)
  | 'l' => match at_.file.kind with
    | .link target => Chars.ofBytes target
    | _ => []
  | 'u' | 'g' => chars "root"
  | 'U' | 'G' => ['0']
  | 'i' => Chars.ofNat at_.file.inode
  | '%' => ['%']
  | c => ['%', c]

/-- A format in which what it asks about a file is put in. -/
def Station.detailed (host : Host) (at_ : Station) : Nat → Chars → Chars
  | 0, _ => []
  | _, [] => []
  | fuel + 1, '\\' :: c :: cs =>
    let (shown, rest) := Format.escape false c cs
    shown ++ at_.detailed host fuel rest
  | fuel + 1, '%' :: c :: cs => at_.detail host c ++ at_.detailed host fuel cs
  | fuel + 1, c :: cs => c :: at_.detailed host fuel cs

/-- How far a walk has come: the paths that are to be given to a command in the end, the last one
first, and whether the walk is to end. -/
structure Progress where
  gathered : List Chars
  isOver : Bool

/-- Computations on a host in the course of a walk. -/
abbrev WalkM := StateT Progress HostM

/-- Puts a file to a test. The answer is whether it holds, and whether what is below the file is
left out. -/
def Test.holds (launch : Launch) (inv : Invocation) (at_ : Station) : Test → WalkM (Bool × Bool)
  | .name fold pattern => do
    let name := if at_.path = ['/'] then at_.path else lastName at_.path
    return (Shell.Pattern.fits pattern (if fold then name.map Char.toLower else name), false)
  | .path pattern => return (Shell.Pattern.fits pattern at_.path, false)
  | .kind letters =>
    let letter := kindLetter at_.file
    return (letters.contains (if letter = '-' then 'f' else letter), false)
  | .empty => do
    let tree := (← (MonadState.get : HostM Host)).tree
    return (match at_.file.kind with
      | .directory => (tree.children at_.file.location).isEmpty
      | .regular content => content.isEmpty
      | _ => false, false)
  | .permissions manner mode =>
    let common := at_.file.mode &&& mode
    return (match manner with
      | .just => at_.file.mode = mode
      | .allOf => common = mode
      | .anyOf => mode = 0 ∨ common ≠ 0, false)
  | .size order count unit =>
    return (compare ((sizeOf at_.file + unit - 1) / unit) count == order, false)
  | .links order count => do
    let host ← (MonadState.get : HostM Host)
    return (compare (linkCount host at_.file) count == order, false)
  | .allowed access => return (at_.file.permits access, false)
  | .always holds => return (holds, false)
  | .print ending => do
    say inv (at_.path ++ ending)
    return (true, false)
  | .printFormat format => do
    let host ← (MonadState.get : HostM Host)
    say inv (at_.detailed host (format.length + 1) format)
    return (true, false)
  | .prune => return (true, true)
  | .quit => do
    modify fun p => { p with isOver := true }
    return (false, true)
  | .delete => do
    let call (tree : FileTree) : Except Errno FileTree :=
      if at_.file.isDir then tree.removeDir inv.view (Programs.path at_.path)
      else tree.unlink inv.view (Programs.path at_.path)
    let done ← reported inv "cannot delete" at_.path (Host.change call)
    return (done, false)
  | .run words => do
    let command := words.map (filledIn at_.path)
    match ← launch (inv.setting? (chars "PATH")) { inv with arguments := command } with
    | .ok status => return (status.code? = some 0, false)
    | .error e =>
      complainOver inv (command.head?.getD []) e
      return (false, false)
  | .gather _ => do
    modify fun p => { p with gathered := at_.path :: p.gathered }
    return (true, false)
  | .not t => do
    let (holds, pruned) ← t.holds launch inv at_
    return (!holds, pruned)
  | .both a b => do
    match ← a.holds launch inv at_ with
    | (false, pruned) => return (false, pruned)
    | (true, pruned) =>
      let (holds, pruned') ← b.holds launch inv at_
      return (holds, pruned || pruned')
  | .either a b => do
    match ← a.holds launch inv at_ with
    | (true, pruned) => return (true, pruned)
    | (false, pruned) =>
      let (holds, pruned') ← b.holds launch inv at_
      return (holds, pruned || pruned')

/-- How a walk goes: how deep it goes, from how deep on files are tested, and whether what a
directory holds comes before it. -/
structure Plan where
  test : Test
  least : Nat
  most? : Option Nat
  inwardFirst : Bool

/-- Walks from a file on; at most `fuel` directories deep. The answer is whether all could be
looked into. -/
def walk (launch : Launch) (inv : Invocation) (plan : Plan) : Nat → Station → WalkM Bool
  | 0, _ => return true
  | fuel + 1, at_ => do
    let tested : WalkM Bool := do
      if plan.least ≤ at_.depth ∧ ¬ (← get).isOver then
        let (_, pruned) ← plan.test.holds launch inv at_
        return pruned
      else return false
    let inner : WalkM Bool := do
      if at_.file.isDir ∧ plan.most?.all (at_.depth < ·) ∧ ¬ (← get).isOver then
        if ¬ at_.file.permits .read then
          complainOver inv (named at_.path) .accessDenied
          return false
        let children := (← (MonadState.get : HostM Host)).tree.children at_.file.location
        let results ← children.mapM fun g =>
          walk launch inv plan fuel { at_ with
            path := below at_.path (Chars.ofBytes g.name), depth := at_.depth + 1, file := g }
        return results.all id
      else return true
    if plan.inwardFirst then
      let done ← inner
      let _ ← tested
      return done
    else if ← tested then return true
    else inner

/-- Walks from each of some places on. The answer is whether all could be looked into. -/
def walkAll (launch : Launch) (inv : Invocation) (plan : Plan) : List Chars → WalkM Bool
  | [] => return true
  | place :: places => do
    let host ← (MonadState.get : HostM Host)
    let done ← match host.tree.linkStatAt inv.view (path place) with
      | .error e => do
        complainOver inv (named place) e
        pure false
      | .ok f => walk launch inv plan (host.tree.depthBound + 1) ⟨place, place, 0, f⟩
    return (← walkAll launch inv plan places) && done

/-- The options of a walk, taken out of the words of its test. -/
def options : Nat → List Chars → Option Nat → Nat → Bool → List Chars →
    Option Nat × Nat × Bool × List Chars
  | 0, found, most?, least, inward, rest => (most?, least, inward, found.reverse ++ rest)
  | _, found, most?, least, inward, [] => (most?, least, inward, found.reverse)
  | fuel + 1, found, most?, least, inward, word :: rest =>
    match String.ofList word, rest with
    | "-maxdepth", n :: rest => options fuel found (Chars.toNat? n) least inward rest
    | "-mindepth", n :: rest => options fuel found most? ((Chars.toNat? n).getD 0) inward rest
    | "-depth", rest => options fuel found most? least true rest
    | "-mount", rest | "-xdev", rest => options fuel found most? least inward rest
    | _, rest => options fuel (word :: found) most? least inward rest

end Walk

/-- Walks through directories and puts the files in them to a test. -/
def find (launch : Launch) : Body := fun inv => do
  let isTest (word : Chars) : Bool :=
    (word.head? = some '-' && word.length > 1) || word = ['!'] || word = ['(']
  let (places, words) := (inv.arguments.drop 1).span fun word => !isTest word
  let (most?, least, inward, words) := Walk.options (words.length + 1) [] none 0 false words
  match Walk.read? words with
  | none =>
    complain inv (chars "find: unknown predicate\n")
    return 1
  | some test =>
    let plan : Walk.Plan := ⟨test, least, most?, inward || test.deletes⟩
    let places := if places.isEmpty then [['.']] else places
    let (done, progress) ← (Walk.walkAll launch inv plan places).run ⟨[], false⟩
    let ended ← match test.gathering?, progress.gathered.reverse with
      | none, _ | _, [] => pure true
      | some words, paths => do
        let command := words ++ paths
        match ← launch (inv.setting? (chars "PATH")) { inv with arguments := command } with
        | .ok status => pure (status.code? = some 0)
        | .error e =>
          complainOver inv (command.head?.getD []) e
          pure false
    return if done && ended then 0 else 1

end Container.Programs
