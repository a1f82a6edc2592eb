import Container.Programs.Files
import Container.Programs.Format

set_option autoImplicit false

/-!
# Programs that tell about paths

## Main definitions

* `readlink`, `realpath`, `basename`, `dirname`, `stat` — the programs.
-/

namespace Container.Programs

/-- The path of a location. -/
def locationPath (location : Location) : Chars :=
  if location.isEmpty then ['/'] else location.flatMap fun n => '/' :: Chars.ofBytes n

/-- A location as the process at a root sees it. -/
def seenFrom (root location : Location) : Location := location.drop root.length

/-- A location after steps by name, none of which is known to be there. -/
def afterSteps (root location : Location) (steps : List Bytes) : Location :=
  steps.foldl (fun location step =>
    if step = [Path.dot] then location
    else if step = [Path.dot, Path.dot] then FileTree.above root location
    else location ++ [step]) location

/-- Where a path leads by its names alone. -/
def byNames (v : Viewpoint) (name : Chars) : Location :=
  afterSteps v.root (FileTree.startOf v.root v.cwd (Chars.bytes name))
    (FileTree.stepsOf (Chars.bytes name))

/-- How much of a path has to be there. -/
inductive Presence where
  | whole
  | allButLast
  | none

/-- Where a path leads in the end, as far as it has to be there. -/
def finalPath? (host : Host) (v : Viewpoint) (presence : Presence) (name : Chars) :
    Except Errno Location :=
  match host.tree.resolve v.root v.cwd true (Chars.bytes name), presence with
  | .ok (.file f), _ => .ok f.location
  | .ok (.free ..), .whole => .error .notFound
  | .ok (.free location _), _ => .ok location
  | .error e, .none =>
    if name.isEmpty then .error e else .ok (leading name.length (Chars.bytes name) [])
  | .error e, _ => .error e
where
  /-- Where the longest part of a path leads that is there, and the steps after it. -/
  leading : Nat → Bytes → List Bytes → Location
    | 0, bs, steps => afterSteps v.root (FileTree.startOf v.root v.cwd bs) steps
    | fuel + 1, bs, steps =>
      match host.tree.resolve v.root v.cwd true bs with
      | .ok (.file f) => afterSteps v.root f.location steps
      | .ok (.free location _) => afterSteps v.root location steps
      | .error _ =>
        match (FileTree.stepsOf bs).reverse with
        | [] => afterSteps v.root (FileTree.startOf v.root v.cwd bs) steps
        | last :: earlier =>
          let stem := Path.joinSegments earlier.reverse
          let stem := if bs.head? = some Path.slash then Path.slash :: stem else stem
          if earlier.isEmpty then
            afterSteps v.root (FileTree.startOf v.root v.cwd bs) (last :: steps)
          else leading fuel stem (last :: steps)

/-- How much of a path has to be there by the options of a program. -/
def presenceOf (o : Options) : Presence :=
  if o.has 'e' then .whole else if o.has 'm' then .none else .allButLast

/-- Writes where links lead. -/
def readlink : Body := withOptions "efmnqsvz" 1 fun inv o =>
  forEachOf inv o.operands fun name => do
    let host ← get
    let ending : Chars := if o.has 'n' then [] else if o.has 'z' then [Char.ofNat 0] else ['\n']
    if o.hasAny "fem" then
      match finalPath? host inv.view (presenceOf o) name with
      | .ok location =>
        say inv (locationPath (seenFrom inv.view.root location) ++ ending)
        return true
      | .error _ => return false
    else
      match host.tree.linkStatAt inv.view (path name) with
      | .ok ⟨_, _, _, .link target⟩ =>
        say inv (Chars.ofBytes target ++ ending)
        return true
      | _ => return false

/-- The way from one location to another. -/
def wayFrom : Location → Location → List Bytes
  | a :: as, b :: bs =>
    if a = b then wayFrom as bs else (a :: as).map (fun _ => [Path.dot, Path.dot]) ++ b :: bs
  | as, bs => as.map (fun _ => [Path.dot, Path.dot]) ++ bs

/-- Writes where paths lead in the end. -/
def realpath : Body := withOptions "eLmo:Pqsz" 1 fun inv o =>
  forEachOf inv o.operands fun name => do
    let host ← get
    let find (name : Chars) : Except Errno Location := do
      let location ← finalPath? host inv.view (presenceOf o) name
      return if o.has 's' then byNames inv.view name else location
    let found : Except Errno Chars := do
      let location ← find name
      match o.value? 'o' with
      | some start =>
        let way := wayFrom (← find start) location
        return if way.isEmpty then ['.'] else Chars.join ['/'] (way.map Chars.ofBytes)
      | none => return locationPath (seenFrom inv.view.root location)
    match found with
    | .ok shown =>
      say inv (shown ++ [if o.has 'z' then Char.ofNat 0 else '\n'])
      return true
    | .error e =>
      if !o.has 'q' then complainOver inv name e
      return false

/-- Writes the last names of paths, without an ending if one is given. -/
def basename : Body := fun inv => do
  let o := (Usage.mk "as:z").read false (inv.arguments.drop 1)
  let several := o.has 'a' || (o.value? 's').isSome
  let shown (name ending : Chars) : Chars :=
    let last := lastName name
    if ending.isSuffixOf last ∧ ending ≠ last then last.take (last.length - ending.length) else last
  match o.fault?, o.operands, several with
  | some fault, _, _ =>
    complainOfUse inv fault
    return 1
  | none, [], _ =>
    complainOfUse inv (chars "missing operand")
    return 1
  | none, _ :: _ :: extra :: _, false =>
    complainOfUse inv (chars "extra operand " ++ named extra)
    return 1
  | none, [name, ending], false =>
    say inv (shown name ending ++ ['\n'])
    return 0
  | none, names, _ =>
    for name in names do
      say inv (shown name ((o.value? 's').getD []) ++ ['\n'])
    return 0

/-- The path up to the last name. -/
def upToLast (cs : Chars) : Chars :=
  let trimmed := withoutSlashes cs
  if trimmed.isEmpty then (if cs.isEmpty then ['.'] else ['/'])
  else
    let stem := (trimmed.reverse.dropWhile (· ≠ '/')).reverse
    if stem.isEmpty then ['.']
    else
      let dir := withoutSlashes stem
      if dir.isEmpty then ['/'] else dir

/-- Writes paths up to their last names. -/
def dirname : Body := withOptions "z" 1 fun inv o =>
  forEachOf inv o.operands fun name => do
    say inv (upToLast name ++ ['\n'])
    return true

/-! ## What is known of a file -/

/-- What a file is, in words. -/
def kindWords (f : File) : Chars :=
  chars (match f.kind with
    | .regular [] => "regular empty file"
    | .regular _ | .program _ => "regular file"
    | .directory => "directory"
    | .link _ => "symbolic link"
    | .socket => "socket"
    | .pipe => "fifo"
    | .nothing | .zeros => "character special file")

/-- The letter for what a file is. -/
def kindLetter (f : File) : Char :=
  match f.kind with
  | .regular _ | .program _ => '-'
  | .directory => 'd'
  | .link _ => 'l'
  | .socket => 's'
  | .pipe => 'p'
  | .nothing | .zeros => 'c'

/-- How many bytes a file has. -/
def sizeOf (f : File) : Nat :=
  match f.kind with
  | .regular content => content.length
  | .link target => target.length
  | .directory => 4096
  | _ => 0

/-- How many entries lead to a file. A directory is also an entry of itself and of each directory
in it. -/
def linkCount (host : Host) (f : File) : Nat :=
  if f.isDir then 2 + ((host.tree.children f.location).filter File.isDir).length
  else (host.tree.files.filter (·.inode = f.inode)).length

/-- The number that stands for what a file is, before its permission bits. -/
def kindNumber (f : File) : Nat :=
  match f.kind with
  | .regular _ | .program _ => 0x8000
  | .directory => 0x4000
  | .link _ => 0xa000
  | .socket => 0xc000
  | .pipe => 0x1000
  | .nothing | .zeros => 0x2000

/-- What a letter of a format says about a file. -/
def detail (host : Host) (name : Chars) (f : File) : Char → Chars
  | 'n' => name
  | 'N' => match f.kind with
    | .link target => named name ++ chars " -> " ++ named (Chars.ofBytes target)
    | _ => named name
  | 's' => Chars.ofNat (sizeOf f)
  | 'a' => Mode.octal 1 f.mode
  | 'A' => kindLetter f :: Mode.letters f.mode
  | 'F' => kindWords f
  | 'h' => Chars.ofNat (linkCount host f)
  | 'f' => Nat.toDigits 16 (kindNumber f + f.mode)
  | 'b' => Chars.ofNat ((sizeOf f + 4095) / 4096 * 8)
  | 'B' => chars "512"
  | 'o' => chars "4096"
  | 'i' => Chars.ofNat f.inode
  | 'u' | 'g' => ['0']
  | 'U' | 'G' => chars "root"
  | '%' => ['%']
  | _ => ['?']

/-- A format in which what it asks about a file is put in. -/
def detailed (host : Host) (name : Chars) (f : File) : Nat → Chars → Chars
  | 0, _ => []
  | _, [] => []
  | fuel + 1, '%' :: cs =>
    let (flags, rest) := cs.span "-0".toList.contains
    let (width, rest) := rest.span Char.isDigit
    match rest with
    | c :: rest =>
      let shown := detail host name f c
      let missing := (Chars.toNat? width).getD 0 - shown.length
      let shown :=
        if flags.contains '-' then shown ++ List.replicate missing ' '
        else List.replicate missing (if flags.contains '0' then '0' else ' ') ++ shown
      shown ++ detailed host name f fuel rest
    | [] => ['%']
  | fuel + 1, c :: cs => c :: detailed host name f fuel cs

/-- What is told of a file where nothing is asked for. -/
def usualDetails : Chars := chars "  File: %n\n  Size: %s\t%F\nAccess: (%04a/%A)"

/-- Writes what is known of files, in a format. One format ends each line, the other one replaces
escapes instead. -/
def stat : Body := withOptions "c:fLtP:" 1 fun inv o =>
  forEachOf inv o.operands fun name => do
    let host ← get
    let found := if o.has 'L' then host.tree.statAt inv.view (path name)
      else host.tree.linkStatAt inv.view (path name)
    match found with
    | .ok f =>
      let format := match o.value? 'P' with
        | some format => (Format.unescaped false format).1
        | none => (o.value? 'c').getD usualDetails ++ ['\n']
      say inv (detailed host name f (format.length + 1) format)
      return true
    | .error e =>
      complainOf inv "cannot statx" name e
      return false

end Container.Programs
