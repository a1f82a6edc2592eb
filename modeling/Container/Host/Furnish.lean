import Container.Host.Process

set_option autoImplicit false

/-!
# A host as it is found

A host begins with the directories, files and programs that a system has, and can be furnished
with more.

## Main definitions

* `Host.fresh` — a host at its beginning.
* `Furnishing` — something to be put into a tree, or to be taken out of it.
* `Host.furnish?`, `Host.furnish` — put things into a host.
* `FileTree.survey` — what is in a directory.
-/

namespace Container

/-- A location by the names on the way. -/
def Location.ofText (s : String) : Location := (FileTree.stepsOf (Utf8.bytes s))

namespace FileTree

/-- The directories that a system has. -/
def systemDirs : List String := [
  "/usr", "/usr/bin", "/usr/sbin", "/usr/lib", "/usr/lib64", "/usr/local", "/usr/local/bin",
  "/usr/local/sbin", "/dev", "/etc", "/home", "/opt", "/proc", "/root", "/run", "/sys", "/tmp",
  "/var", "/var/lib", "/var/log", "/var/tmp", "/mnt", "/srv"]

/-- The links that a system has. -/
def systemLinks : List (String × String) := [
  ("/bin", "usr/bin"), ("/sbin", "usr/sbin"), ("/lib", "usr/lib"), ("/lib64", "usr/lib64")]

/-- The files that a system has. -/
def systemFiles : List String := ["/etc/hosts", "/etc/passwd", "/etc/resolv.conf"]

/-- The tree of a system. -/
def system : FileTree :=
  let entries : List (String × Nat × FileKind) :=
    systemDirs.map (fun p => (p, newDirMode usualMask, .directory)) ++
    systemLinks.map (fun (p, target) => (p, 0o777, .link (Utf8.bytes target))) ++
    systemFiles.map (fun p => (p, newFileMode usualMask, .regular [])) ++
    [("/dev/null", 0o666, .nothing), ("/dev/zero", 0o666, .zeros)] ++
    (Process.shellNames ++ Programs.names).map fun name =>
      ("/usr/bin/" ++ name, 0o755, .program name)
  entries.foldl (fun (tree : FileTree) (p, mode, kind) => tree.add (Location.ofText p) mode kind)
    FileTree.empty

/-- Adds a directory and those it lies in, as far as they are missing. -/
def addDirs (tree : FileTree) (location : Location) : FileTree :=
  (List.range (location.length + 1)).foldl (fun (tree : FileTree) n =>
    let place := location.take n
    if (tree.find? place).isSome then tree
    else tree.add place (newDirMode usualMask) .directory) tree

/-- Whether all directories from one location down to another can be looked into. -/
def isOpenTo (tree : FileTree) (location other : Location) : Bool :=
  (List.range (other.length - location.length)).all fun n =>
    (tree.require (other.take (location.length + n)) .read).isOk

/-- Whether a file can be looked at by its path. -/
def isLegible (tree : FileTree) (f : File) : Bool :=
  match f.kind with
  | .regular _ | .program _ => f.permits .read && (tree.require f.location.dropLast .run).isOk
  | _ => true

/-- What is found below a location, each thing with its path from there, in the order of the
paths. There is no answer where something is found that cannot be read. -/
def survey (tree : FileTree) (location : Location) : Option (List (Path × File)) :=
  let found := tree.files.filter fun f =>
    isBelow location f.location && f.location ≠ location && tree.isOpenTo location f.location
  if found.all tree.isLegible then
    some ((found.map fun f =>
      (⟨Path.joinSegments (f.location.drop location.length)⟩, f)).mergeSort
        fun a b => nameLE a.1.bytes b.1.bytes)
  else none

end FileTree

/-- Something to be put into a tree, or to be taken out of it. -/
inductive Furnishing where
  | directory (path : Path)
  | file (path : Path) (content : Bytes) (mode? : Option Nat)
  | link (path : Path) (target : Bytes)
  | socket (path : Path)
  | removal (path : Path)

namespace Furnishing

/-- Where something is put, if it needs a directory to lie in. -/
def place? : Furnishing → Option Path
  | .file p _ _ | .link p _ | .socket p => some p
  | .directory _ | .removal _ => none

/-- Makes directories in a tree, if they can be made. -/
def dirs? (v : Viewpoint) (tree : FileTree) (p : Path) : Option FileTree :=
  match tree.makeDirs v p with
  | (tree, .ok ()) => some tree
  | (_, .error _) => none

/-- Puts something into a tree, once the directory for it is there. What is not there need not be
taken out. -/
def put? (v : Viewpoint) (tree : FileTree) : Furnishing → Option FileTree
  | .directory p => dirs? v tree p
  | .file p content mode? => do
    let (tree, inode) ← (tree.openForWriting v p true).toOption
    let tree := tree.append inode content
    match mode? with
    | none => return tree
    | some mode => return tree.update inode fun f => { f with mode }
  | .link p target => (tree.makeSymbolic v p target).toOption
  | .socket p => (tree.make v p false 0o755 .socket).toOption
  | .removal p =>
    match tree.linkStatAt v p with
    | .error _ => some tree
    | .ok f => if f.isDir then some (tree.removeTree v p).1 else (tree.unlink v p).toOption

/-- Puts something into a tree, with the directories that it lies in, if there is room for it. -/
def add? (v : Viewpoint) (tree : FileTree) (item : Furnishing) : Option FileTree := do
  let tree ← match item.place?.bind Path.parent? with
    | some parent => dirs? v tree parent
    | none => some tree
  item.put? v tree

end Furnishing

namespace Host

/-- A host at its beginning, with an empty working directory. -/
def fresh (cwd : Location) (environment : Environment) : Host where
  tree := FileTree.system.addDirs cwd
  view := { root := [], cwd }
  environment := environment
  output := #[]
  pipes := []
  nextId := 1000
  ended? := none

/-- Puts things into a host, one after the other, as seen from its working directory. There is no
answer where one of them cannot be put there. -/
def furnish? (items : List Furnishing) (host : Host) : Option Host := do
  return { host with tree := ← items.foldlM (Furnishing.add? host.view) host.tree }

/-- Puts things into a host as far as they can be put there. -/
def furnish (items : List Furnishing) (host : Host) : Host :=
  { host with
    tree := items.foldl (fun tree item => (item.add? host.view tree).getD tree) host.tree }

/-- The working directory, as seen from a location if it is there or below. -/
def directorySeenFrom (location : Location) (host : Host) : Path :=
  let cwd := host.view.cwd
  if cwd = location then Path.ofText "."
  else if FileTree.isBelow location cwd then ⟨Path.joinSegments (cwd.drop location.length)⟩
  else ⟨Path.slash :: Path.joinSegments cwd⟩

end Host
end Container
