import Container.Path
import Container.System

set_option autoImplicit false

/-!
# File trees

A file tree is a list of files, each at its own location. A location is the list of names that
lead there from the top; a file keeps its number for life, wherever it is seen.

## Main definitions

* `Location`, `File`, `FileTree` — locations, files and trees.
* `Access`, `File.permits` — what may be done with a file.
* `FileTree.find?`, `FileTree.children` — what is at a location, and what is directly below it.
* `FileTree.add`, `FileTree.update`, `FileTree.remove` — changes.
-/

namespace Container

/-- The names that lead to a place from the top. -/
abbrev Location := List Bytes

/-- What a file is. -/
inductive FileKind where
  | regular (content : Bytes)
  | directory
  | link (target : Bytes)
  | socket
  /-- A pipe with a name. -/
  | pipe
  /-- The file that is always empty and forgets what is written to it. -/
  | nothing
  /-- The file of zeros without end, which forgets what is written to it. -/
  | zeros
  /-- A program of the system. -/
  | program (name : String)
  deriving DecidableEq

/-- A way to use a file. In a directory, to write is to add and remove entries, and to run is to
go through it. -/
inductive Access where
  | read
  | write
  | run
  deriving DecidableEq

/-- The permission bit that lets the owner of a file use it. -/
def Access.bit : Access → Nat
  | .read => 0o400
  | .write => 0o200
  | .run => 0o100

/-- A file: where it is, its number, its permission bits and what it is. -/
structure File where
  location : Location
  inode : Nat
  mode : Nat
  kind : FileKind
  deriving DecidableEq

namespace File

/-- Whether a file is a directory. -/
def isDir (f : File) : Bool := f.kind == .directory

/-- The name of a file. The top has none. -/
def name (f : File) : Bytes := f.location.getLast?.getD []

/-- Whether a file may be used in a way. All files belong to the user of all processes, who is
no exception to permissions. -/
def permits (f : File) (access : Access) : Bool := f.mode / access.bit % 2 = 1

/-- Refuses a way to use a file that is not permitted. -/
def require (f : File) (access : Access) : Except Errno Unit :=
  if f.permits access then .ok () else .error .accessDenied

end File

/-- A tree of files. -/
structure FileTree where
  files : List File
  nextInode : Nat

namespace FileTree

/-- A tree with nothing but its top. -/
def empty : FileTree := ⟨[⟨[], 1, 0o755, .directory⟩], 2⟩

/-- The file at a location. -/
def find? (tree : FileTree) (location : Location) : Option File :=
  tree.files.find? (·.location = location)

/-- The file with a number. -/
def ofInode? (tree : FileTree) (inode : Nat) : Option File := tree.files.find? (·.inode = inode)

/-- Refuses a way to use the file at a location that is not permitted. -/
def require (tree : FileTree) (location : Location) (access : Access) : Except Errno Unit :=
  match tree.find? location with
  | some f => f.require access
  | none => .ok ()

/-- Whether one location is directly below another. -/
def isChild (location child : Location) : Bool :=
  child.length = location.length + 1 && location.isPrefixOf child

/-- Whether one location is another or below it. -/
def isBelow (location other : Location) : Bool := location.isPrefixOf other

/-- Whether one byte string comes before or with another. -/
def nameLE : Bytes → Bytes → Bool
  | [], _ => true
  | _ :: _, [] => false
  | a :: as, b :: bs => if a < b then true else if b < a then false else nameLE as bs

/-- The files directly below a location, by name. -/
def children (tree : FileTree) (location : Location) : List File :=
  (tree.files.filter fun f => isChild location f.location).mergeSort
    fun a b => nameLE a.name b.name

/-- Adds a file at a location that is free. -/
def add (tree : FileTree) (location : Location) (mode : Nat) (kind : FileKind) : FileTree :=
  ⟨tree.files ++ [⟨location, tree.nextInode, mode, kind⟩], tree.nextInode + 1⟩

/-- Adds a file that is there already at another location, which is free. -/
def addLink (tree : FileTree) (f : File) (location : Location) : FileTree :=
  { tree with files := tree.files ++ [{ f with location }] }

/-- Changes the file with a number. -/
def update (tree : FileTree) (inode : Nat) (change : File → File) : FileTree :=
  { tree with files := tree.files.map fun f => if f.inode = inode then change f else f }

/-- Removes the file at a location. -/
def remove (tree : FileTree) (location : Location) : FileTree :=
  { tree with files := tree.files.filter (·.location ≠ location) }

/-- Moves a file with everything below it. -/
def move (tree : FileTree) (source target : Location) : FileTree :=
  { tree with
    files := tree.files.map fun f =>
      if isBelow source f.location then
        { f with location := target ++ f.location.drop source.length }
      else f }

/-- No chain of directories is longer than the tree has files. -/
def depthBound (tree : FileTree) : Nat := tree.files.length

end FileTree
end Container
