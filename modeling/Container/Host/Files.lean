import Container.Host.Resolve

set_option autoImplicit false

/-!
# File calls

The calls by which files are made, read, changed and removed, on a file tree seen from a
process with its own root and working directory. Each follows the path it is given and fails
where the path does not lead to what it needs, or to what it may not use as it has to.

## Main definitions

* `Viewpoint` — how a process sees a tree.
* `FileTree.readFile`, `FileTree.openForWriting`, `FileTree.makeDir`, `FileTree.makeDirs`,
  `FileTree.unlink`, `FileTree.removeDir`, `FileTree.removeTree`, `FileTree.list` — the calls.
-/

namespace Container

/-- The permission bits that new files do not get unless a process says otherwise. -/
def usualMask : Nat := 0o022

/-- How a process sees a tree: its root, its working directory, and the permission bits that what
it makes does not get. -/
structure Viewpoint where
  root : Location
  cwd : Location
  mask : Nat := usualMask

namespace FileTree

/-- Permission bits without those of a mask. -/
def masked (mode mask : Nat) : Nat := mode ^^^ (mode &&& mask)

/-- The permission bits of a file that was just made. -/
def newFileMode (mask : Nat) : Nat := masked 0o666 mask

/-- The permission bits of a directory that was just made. -/
def newDirMode (mask : Nat) : Nat := masked 0o777 mask

/-- The file a path leads to, links at its end included. -/
def statAt (tree : FileTree) (v : Viewpoint) (p : Path) : Except Errno File :=
  tree.lookup v.root v.cwd true p.bytes

/-- The file at a path, a link counting as itself. -/
def linkStatAt (tree : FileTree) (v : Viewpoint) (p : Path) : Except Errno File :=
  tree.lookup v.root v.cwd false p.bytes

/-- Whether a path leads to a directory. -/
def isDirAt (tree : FileTree) (v : Viewpoint) (p : Path) : Bool :=
  match tree.statAt v p with
  | .ok f => f.isDir
  | .error _ => false

/-- How much is taken at once of a file without an end. -/
def endlessSupply : Nat := 2 ^ 18

/-- The content of a file. -/
def contentOf (f : File) : Except Errno Bytes :=
  match f.kind with
  | .regular content => .ok content
  | .directory => .error .isDirectory
  | .socket => .error .noSuchDevice
  | .zeros => .ok (List.replicate endlessSupply 0)
  | .nothing | .pipe | .link _ | .program _ => .ok []

/-- The content of the file a path leads to. -/
def readFile (tree : FileTree) (v : Viewpoint) (p : Path) : Except Errno Bytes := do
  let f ← tree.statAt v p
  f.require .read
  contentOf f

/-- Opens a file for writing, which is made where it is missing. Its old content goes if
`empty` says so. -/
def openForWriting (tree : FileTree) (v : Viewpoint) (p : Path) (empty : Bool) :
    Except Errno (FileTree × Nat) := do
  match ← tree.resolve v.root v.cwd true p.bytes with
  | .free location slash =>
    if slash then throw .isDirectory
    else
      tree.require location.dropLast .write
      return (tree.add location (newFileMode v.mask) (.regular []), tree.nextInode)
  | .file f =>
    if f.isDir then throw .isDirectory
    f.require .write
    match f.kind with
    | .directory => throw .isDirectory
    | .socket => throw .noSuchDevice
    | .regular _ | .program _ =>
      if empty then return (tree.update f.inode fun f => { f with kind := .regular [] }, f.inode)
      else return (tree, f.inode)
    | .nothing | .zeros | .pipe | .link _ => return (tree, f.inode)

/-- Adds bytes to the end of the file with a number. -/
def append (tree : FileTree) (inode : Nat) (bs : Bytes) : FileTree :=
  tree.update inode fun f =>
    match f.kind with
    | .regular content => { f with kind := .regular (content ++ bs) }
    | _ => f

/-- The location of a path where something new can be made. -/
def freeLocation (tree : FileTree) (v : Viewpoint) (p : Path) (slashAllowed : Bool) :
    Except Errno Location := do
  let followed ← tree.follow v.root v.cwd p.bytes
  match followed.last with
  | .name n =>
    let location := followed.directory ++ [n]
    if (tree.find? location).isSome then throw .alreadyExists
    else if (tree.find? followed.directory).isNone then throw .notFound
    else if followed.slash ∧ ¬ slashAllowed then throw .notFound
    else
      tree.require followed.directory .write
      return location
  | _ => throw .alreadyExists

/-- Makes something new at a path where nothing is. -/
def make (tree : FileTree) (v : Viewpoint) (p : Path) (slashAllowed : Bool) (mode : Nat)
    (kind : FileKind) : Except Errno FileTree := do
  return tree.add (← tree.freeLocation v p slashAllowed) mode kind

/-- Makes a link to a path, which may lead anywhere but has to be one. -/
def makeSymbolic (tree : FileTree) (v : Viewpoint) (p : Path) (target : Bytes) :
    Except Errno FileTree :=
  if target = [] then .error .notFound else tree.make v p false 0o777 (.link target)

/-- Gives a file that is no directory a second path. -/
def makeLink (tree : FileTree) (v : Viewpoint) (source target : Path) : Except Errno FileTree := do
  let f ← tree.linkStatAt v source
  if f.isDir then throw .notPermitted
  else return tree.addLink f (← tree.freeLocation v target false)

/-- Makes a directory. -/
def makeDir (tree : FileTree) (v : Viewpoint) (p : Path) : Except Errno FileTree :=
  tree.make v p true (newDirMode v.mask) .directory

/-- Makes a directory, once `above` has made the one it lies in where that is missing. -/
def makeDirAfter (tree : FileTree) (v : Viewpoint) (p : Path)
    (above : Path → FileTree × Except Errno Unit) : FileTree × Except Errno Unit :=
  match tree.makeDir v p with
  | .ok tree => (tree, .ok ())
  | .error e =>
    if e = .notFound then
      match p.parent? with
      | none => (tree, .error e)
      | some parent =>
        match (if parent = .empty then (tree, .ok ()) else above parent) with
        | (tree, .error e) => (tree, .error e)
        | (tree, .ok ()) =>
          match tree.makeDir v p with
          | .ok tree => (tree, .ok ())
          | .error e => (tree, if tree.isDirAt v p then .ok () else .error e)
    else (tree, if tree.isDirAt v p then .ok () else .error e)

/-- Makes a directory and those it lies in, at most `depth` of them. -/
def makeDirsWithin (tree : FileTree) (v : Viewpoint) : Nat → Path → FileTree × Except Errno Unit
  | 0, p => tree.makeDirAfter v p fun _ => (tree, .error .notFound)
  | depth + 1, p => tree.makeDirAfter v p (makeDirsWithin tree v depth)

/-- Makes a directory and all it lies in, as far as they are missing. -/
def makeDirs (tree : FileTree) (v : Viewpoint) (p : Path) : FileTree × Except Errno Unit :=
  if p = .empty then (tree, .ok ()) else tree.makeDirsWithin v p.bytes.length p

/-- Removes a file that is not a directory. -/
def unlink (tree : FileTree) (v : Viewpoint) (p : Path) : Except Errno FileTree := do
  let followed ← tree.follow v.root v.cwd p.bytes
  match followed.last with
  | .name n =>
    match tree.find? (followed.directory ++ [n]) with
    | none => throw .notFound
    | some f =>
      if followed.slash then throw (if f.isDir then .isDirectory else .notDirectory)
      tree.require followed.directory .write
      if f.isDir then throw .isDirectory else return tree.remove f.location
  | _ => throw .isDirectory

/-- Removes an empty directory. -/
def removeDir (tree : FileTree) (v : Viewpoint) (p : Path) : Except Errno FileTree := do
  let followed ← tree.follow v.root v.cwd p.bytes
  match followed.last with
  | .current => throw .invalidArgument
  | .parent => throw .notEmpty
  | .root => throw .busy
  | .name n =>
    match tree.find? (followed.directory ++ [n]) with
    | none => throw .notFound
    | some f =>
      tree.require followed.directory .write
      if ¬ f.isDir then throw .notDirectory
      else if ¬ (tree.children f.location).isEmpty then throw .notEmpty
      else return tree.remove f.location

/-- Removes what a directory holds, at most `depth` directories deep, up to the first thing that
cannot be removed. -/
def clear : Nat → FileTree → File → FileTree × Except Errno Unit
  | 0, tree, _ => (tree, .error .notEmpty)
  | depth + 1, tree, directory =>
    match directory.require .read with
    | .error e => (tree, .error e)
    | .ok () =>
      (tree.children directory.location).foldl (fun (tree, result) f =>
        match result, directory.require .run with
        | .error e, _ | .ok (), .error e => (tree, .error e)
        | .ok (), .ok () =>
          match (if f.isDir then clear depth tree f else (tree, .ok ())) with
          | (tree, .error e) => (tree, .error e)
          | (tree, .ok ()) =>
            match directory.require .write with
            | .error e => (tree, .error e)
            | .ok () => (tree.remove f.location, .ok ())) (tree, .ok ())

/-- Removes a file, and what is below it first, as far as that can be; whether all of it went. A
directory that cannot be looked into goes if it is empty. -/
def prune : Nat → FileTree → File → FileTree × Bool
  | 0, tree, _ => (tree, false)
  | depth + 1, tree, f =>
    let (tree, done) :=
      if f.isDir && f.permits .read then
        (tree.children f.location).foldl (fun (tree, done) child =>
          if f.permits .run then
            let (tree, gone) := prune depth tree child
            (tree, done && gone)
          else (tree, false)) (tree, true)
      else (tree, true)
    match tree.require f.location.dropLast .write, tree.children f.location with
    | .ok (), [] => (tree.remove f.location, done)
    | _, _ => (tree, false)

/-- Removes a directory with everything in it, or a link. What is in it goes first, and stays
gone even where the directory itself cannot be removed. -/
def removeTree (tree : FileTree) (v : Viewpoint) (p : Path) : FileTree × Except Errno Unit :=
  match tree.linkStatAt v p with
  | .error e => (tree, .error e)
  | .ok f =>
    match f.kind with
    | .link _ =>
      match tree.unlink v p with
      | .ok tree => (tree, .ok ())
      | .error e => (tree, .error e)
    | .directory =>
      match clear tree.depthBound tree f with
      | (emptied, .error e) => (emptied, .error e)
      | (emptied, .ok ()) =>
        match emptied.removeDir v p with
        | .ok tree => (tree, .ok ())
        | .error e => (emptied, .error e)
    | _ => (tree, .error .notDirectory)

/-- The entries of a directory. -/
def list (tree : FileTree) (v : Viewpoint) (p : Path) : Except Errno (List File) := do
  let f ← tree.statAt v p
  if ¬ f.isDir then throw .notDirectory
  f.require .read
  return tree.children f.location

end FileTree
end Container
