import Container.Programs.Mode
import Container.Programs.Options

set_option autoImplicit false

/-!
# Programs that make and remove files

## Main definitions

* `mkdir`, `rmdir`, `rm`, `touch`, `mkfifo`, `chmod`, `truncate` — the programs.
-/

namespace Container.Programs

/-- Reports whether a call on a file succeeded. -/
def reported (inv : Invocation) (what : String) (name : Chars) (call : HostM (Except Errno Unit)) :
    HostM Bool := do
  match ← call with
  | .ok () => return true
  | .error e =>
    complainOf inv what name e
    return false

/-! ## Making and removing -/

/-- Gives a file permission bits. -/
def setMode (f : File) (mode : Nat) : HostM Unit :=
  modify fun host => { host with tree := host.tree.update f.inode fun f => { f with mode } }

/-- What is told about a deed on a file, where telling is asked for. -/
def tell (inv : Invocation) (o : Options) (deed : String) (name : Chars) : HostM Unit :=
  if o.has 'v' then say inv (chars deed ++ ' ' :: named name ++ ['\n']) else pure ()

/-- The directories that a path goes through, the innermost first, and itself before them. -/
def ancestry : Nat → Path → List Path
  | 0, p => [p]
  | fuel + 1, p =>
    match p.parent? with
    | some parent => if parent = .empty then [p] else p :: ancestry fuel parent
    | none => [p]

/-- Makes directories. -/
def mkdir : Body := withOptions "m:pvZ" 1 fun inv o => do
  let changed? (text : Chars) : Option Nat := Mode.changed? inv.view.mask true 0o777 text
  match o.value? 'm' with
  | some text =>
    if (changed? text).isNone then
      complain inv (chars "mkdir: invalid mode " ++ named text ++ ['\n'])
      return 1
  | none => pure ()
  forEachOf inv o.operands fun name => do
    let before := (← get).tree
    let isMissing (p : Path) : Bool := !(before.statAt inv.view p).isOk
    let done ← reported inv "cannot create directory" name
      (if o.has 'p' then Host.changePartly (·.makeDirs inv.view (path name))
      else Host.change (·.makeDir inv.view (path name)))
    for p in (if o.has 'p' then (ancestry name.length (path name)).reverse else [path name]) do
      if isMissing p ∧ ((← get).tree.statAt inv.view p).isOk then
        tell inv o "mkdir: created directory" (Chars.ofBytes p.bytes)
    match (o.value? 'm').bind changed?, (← get).tree.statAt inv.view (path name) with
    | some mode, .ok f => if isMissing (path name) then setMode f mode
    | _, _ => pure ()
    return done

/-- Removes empty directories, and with `-p` those they lie in. -/
def rmdir : Body := withOptions "pvI" 1 fun inv o =>
  forEachOf inv o.operands fun name => do
    let mut isWhole := true
    for p in (if o.has 'p' then ancestry name.length (path name) else [path name]) do
      if isWhole then
        let shown := Chars.ofBytes p.bytes
        tell inv o "rmdir: removing directory," shown
        match ← Host.change (·.removeDir inv.view p) with
        | .ok () => pure ()
        | .error e =>
          if o.has 'I' ∧ e = .notEmpty then return true
          complainOf inv "failed to remove" shown e
          isWhole := false
    return isWhole

/-- A name without the slashes at its end. -/
def withoutSlashes (cs : Chars) : Chars := (cs.reverse.dropWhile (· = '/')).reverse

/-- The last name of a path. -/
def lastName (cs : Chars) : Chars :=
  let trimmed := withoutSlashes cs
  if trimmed.isEmpty then (if cs.isEmpty then [] else ['/'])
  else (trimmed.reverse.takeWhile (· ≠ '/')).reverse

/-- What is below a file and the file itself, as they are removed, with their paths. -/
def inRemovalOrder (tree : FileTree) : Nat → Chars → File → List (Chars × File)
  | 0, name, f => [(name, f)]
  | depth + 1, name, f =>
    ((if f.isDir then tree.children f.location else []).flatMap fun g =>
      inRemovalOrder tree depth (below name (Chars.ofBytes g.name)) g) ++ [(name, f)]

/-- Removes a directory with everything in it, and tells what went if that is asked for. -/
def removeWhole (inv : Invocation) (o : Options) (name : Chars) (f : File) : HostM Bool := do
  let host ← get
  let (tree, done) := host.tree.prune host.tree.depthBound f
  set { host with tree := tree }
  for (name, f) in inRemovalOrder host.tree host.tree.depthBound name f do
    if (tree.find? f.location).isNone then
      tell inv o (if f.isDir then "removed directory" else "removed") name
  if !done then complainOf inv "cannot remove" name .accessDenied
  return done

/-- Removes files, and directories where that is asked for. -/
def rm : Body := withOptions "dfiIrRv" 1 fun inv o => do
  let whole := o.hasAny "rR"
  let each := if o.has 'f' then forEach else forEachOf inv
  let removed (name : Chars) (deed : String) (call : FileTree → Except Errno FileTree) :
      HostM Bool := do
    let done ← reported inv "cannot remove" name (Host.change call)
    if done then tell inv o deed name
    return done
  each o.operands fun name => do
    match (← get).tree.linkStatAt inv.view (path name) with
    | .error e =>
      if o.has 'f' ∧ (e = .notFound ∨ e = .notDirectory) then return true
      else
        complainOf inv "cannot remove" name e
        return false
    | .ok f =>
      if !f.isDir then removed name "removed" (·.unlink inv.view (path name))
      else if whole ∧ (lastName name = ['.'] ∨ lastName name = ['.', '.']) then
        complain inv (ownName inv ++
          chars ": refusing to remove '.' or '..' directory: skipping " ++ named name ++ ['\n'])
        return false
      else if whole then removeWhole inv o name f
      else if o.has 'd' then removed name "removed directory" (·.removeDir inv.view (path name))
      else
        complainOf inv "cannot remove" name .isDirectory
        return false

/-- Makes files that are missing. -/
def touch : Body := withOptions "acd:fhmr:t:" 1 fun inv o => do
  if o.operands.isEmpty then
    complainOfUse inv (chars "missing file operand")
    return 1
  forEach o.operands fun name => do
    match (← get).tree.statAt inv.view (path name) with
    | .ok _ => return true
    | .error e =>
      if o.has 'c' ∧ e = .notFound then return true
      else
        match ← Host.openOutput inv.view (path name) false with
        | .ok _ => return true
        | .error e =>
          complainOf inv "cannot touch" name e
          return false

/-- Makes pipes with names. -/
def mkfifo : Body := withOptions "m:" 1 fun inv o => do
  let usual := FileTree.newFileMode inv.view.mask
  match (o.value? 'm').elim (some usual) (Mode.changed? inv.view.mask false 0o666) with
  | none =>
    complain inv (chars "mkfifo: invalid mode\n")
    return 1
  | some mode =>
    forEachOf inv o.operands fun name =>
      reported inv "cannot create fifo" name
        (Host.change (·.make inv.view (path name) false mode .pipe))

/-! ## Changing -/

/-- The letters of a file's permission bits with their octal number, as `chmod` tells them. -/
def modeWords (mode : Nat) : Chars :=
  Mode.octal 4 mode ++ chars " (" ++ Mode.letters mode ++ [')']

/-- Changes the permission bits of a file, and if `whole` is set of all files below it. Changes
are told if `always` is set, or where there are any and `told` is set. -/
def changeMode (inv : Invocation) (whole told always : Bool) (change : File → Option Nat)
    (name : Chars) (f : File) : HostM Unit := do
  let host ← get
  let files := if whole then
      host.tree.files.filter fun g => FileTree.isBelow f.location g.location
    else [f]
  for g in files do
    match g.kind with
    | .link _ => pure ()
    | _ =>
      if let some mode := change g then
        setMode g mode
        let shown := (g.location.drop f.location.length).foldl
          (fun shown n => below shown (Chars.ofBytes n)) name
        if mode ≠ g.mode ∧ told then
          say inv (chars "mode of " ++ named shown ++ chars " changed from " ++ modeWords g.mode ++
            chars " to " ++ modeWords mode ++ ['\n'])
        else if always then
          say inv (chars "mode of " ++ named shown ++ chars " retained as " ++ modeWords mode ++
            ['\n'])

/-- The file whose permission bits are to be taken over, if an option names one. -/
def referenceOf? (option : Chars) : Option Chars :=
  let mark := chars "--reference="
  if mark.isPrefixOf option then some (option.drop mark.length) else none

/-- Changes the permission bits of files. -/
def chmod : Body := fun inv => do
  let isOption (cs : Chars) : Bool := match cs with
    | '-' :: '-' :: _ => true
    | '-' :: cs => !cs.isEmpty && cs.all "Rcfv".toList.contains
    | _ => false
  let (flags, rest) := (inv.arguments.drop 1).span isOption
  let isGiven (letter : Char) (word : String) : Bool :=
    flags.any fun cs => if cs.take 2 = ['-', '-'] then cs = chars word else cs.contains letter
  let tree := (← get).tree
  let bits? (name : Chars) : Option Nat :=
    ((tree.statAt inv.view (path name)).toOption).map fun f => f.mode
  let act (change : File → Option Nat) (names : List Chars) : HostM Nat :=
    forEach names fun name => do
      match (← get).tree.statAt inv.view (path name) with
      | .error e =>
        if ¬ isGiven 'f' "--quiet" then complainOf inv "cannot access" name e
        return false
      | .ok f =>
        let always := isGiven 'v' "--verbose"
        changeMode inv (isGiven 'R' "--recursive") (always || isGiven 'c' "--changes") always change
          name f
        return true
  match (flags.findSome? referenceOf?).map bits?, rest with
  | _, [] =>
    complainOfUse inv (chars "missing operand")
    return 1
  | some (some mode), names => act (fun _ => some mode) names
  | some none, _ =>
    complain inv (chars "chmod: failed to get attributes\n")
    return 1
  | none, [change] =>
    complainOfUse inv (chars "missing operand after " ++ named change)
    return 1
  | none, change :: names =>
    if (Mode.changed? inv.view.mask false 0 change).isNone then
      complainOfUse inv (chars "invalid mode: " ++ named change)
      return 1
    else act (fun f => Mode.changed? inv.view.mask f.isDir f.mode change) names

/-- A size, which may be in units of 1024 or 1000 or more. -/
def size? (cs : Chars) : Option Nat :=
  let (digits, unit) := cs.span Char.isDigit
  (Chars.toNat? digits).bind fun n => match String.ofList unit with
    | "" | "c" => some n
    | "b" => some (n * 512)
    | "K" | "k" | "KiB" => some (n * 1024)
    | "M" | "MiB" => some (n * 1024 * 1024)
    | "KB" | "kB" => some (n * 1000)
    | "MB" => some (n * 1000 * 1000)
    | _ => none

/-- The size that a text says a file of some size is to have. -/
def newSize? (old : Nat) (cs : Chars) : Option Nat :=
  match cs with
  | '+' :: cs => (size? cs).map (old + ·)
  | '-' :: cs => (size? cs).map (old - ·)
  | '<' :: cs => (size? cs).map (min old)
  | '>' :: cs => (size? cs).map (max old)
  | cs => size? cs

/-- Cuts files to a size, or fills them up to it with zeros. Missing files are made. -/
def truncate : Body := withOptions "cor:s:" 1 fun inv o => do
  match o.value? 's' with
  | none =>
    complainOfUse inv (chars "you must specify either '--size' or '--reference'")
    return 1
  | some text =>
    if (newSize? 0 text).isNone then
      complain inv (chars "truncate: Invalid number: " ++ named text ++ ['\n'])
      return 1
    else
      forEachOf inv o.operands fun name => do
        let isMissing := ((← get).tree.statAt inv.view (path name)).toOption.isNone
        if o.has 'c' ∧ isMissing then return true
        match ← Host.openOutput inv.view (path name) false with
        | .error e =>
          complainOver inv (chars "cannot open " ++ named name ++ chars " for writing") e
          return false
        | .ok stream =>
          if let .file inode := stream then
            modify fun host => { host with
              tree := host.tree.update inode fun f => match f.kind with
                | .regular content =>
                  let size := (newSize? content.length text).getD content.length
                  { f with
                    kind := .regular
                      (content.take size ++ List.replicate (size - content.length) 0) }
                | _ => f }
          return true

end Container.Programs
