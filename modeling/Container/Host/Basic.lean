import Container.Environment
import Container.ExitStatus
import Container.Host.Files
import Container.Log
import Container.Shell.Text

set_option autoImplicit false

/-!
# A host in memory

A host has files, processes that run one after the other, and an output. What a process writes
goes to the output, to a file, into a pipe or nowhere.

## Main definitions

* `Host` — the state of a host.
* `Stream` — what a descriptor of a process leads to.
* `Invocation` — a program with everything it is started with.
* `Host.write`, `Host.takeAll` — writing and reading.
-/

namespace Container

/-- A piece of the output: bytes that a process wrote, or an event of this library. -/
inductive OutputPiece where
  | bytes (bs : Bytes)
  | event (e : LogEvent)

/-- What a descriptor of a process leads to. -/
inductive Stream where
  /-- The output of the host, from which nothing can be read. -/
  | terminal
  /-- Nothing can be read, and what is written is forgotten. -/
  | nothing
  /-- A pipe, or what is left to read of a file. -/
  | pipe (id : Nat)
  /-- A file that is written to. -/
  | file (inode : Nat)
  deriving DecidableEq

/-- The state of a host. -/
structure Host where
  tree : FileTree
  /-- The root and the working directory of the process that this library works for. -/
  view : Viewpoint
  environment : Environment
  output : Array OutputPiece
  pipes : List (Nat × Bytes)
  nextId : Nat
  /-- How the program ended that the process was handed over to, if it was. -/
  ended? : Option ExitStatus

/-- Computations on a host. -/
abbrev HostM := StateM Host

/-- A program with everything it is started with. The first argument is its own name. The
environment is a list of settings, most of them of the form `NAME=VALUE`. -/
structure Invocation where
  arguments : List Chars
  settings : List Chars
  view : Viewpoint
  streams : List (Nat × Stream)

namespace Invocation

/-- The value of a setting. Of several with one name the first counts. -/
def setting? (inv : Invocation) (name : Chars) : Option Chars :=
  inv.settings.findSome? fun s =>
    match s.span (· ≠ '=') with
    | (n, _ :: value) => if n = name then some value else none
    | (_, []) => none

/-- What a descriptor leads to. One that is not open leads nowhere. -/
def stream (inv : Invocation) (fd : Nat) : Stream := (inv.streams.lookup fd).getD .nothing

end Invocation

namespace Host

/-- A number that was not given out before. -/
def newId : HostM Nat := fun host => (host.nextId, { host with nextId := host.nextId + 1 })

/-- A new pipe with something in it. -/
def newPipe (content : Bytes) : HostM Stream := do
  let id ← newId
  modify fun host => { host with pipes := (id, content) :: host.pipes }
  return .pipe id

/-- Writes bytes. -/
def write (stream : Stream) (bs : Bytes) : HostM Unit :=
  if bs.isEmpty then pure ()
  else
    match stream with
    | .terminal => modify fun host => { host with output := host.output.push (.bytes bs) }
    | .nothing => pure ()
    | .pipe id => modify fun host => { host with
        pipes := host.pipes.map fun (i, content) => (i, if i = id then content ++ bs else content) }
    | .file inode => modify fun host => { host with tree := host.tree.append inode bs }

/-- Takes all that is left to read. -/
def takeAll (stream : Stream) : HostM Bytes :=
  match stream with
  | .pipe id => fun host =>
      ((host.pipes.lookup id).getD [], { host with
        pipes := host.pipes.map fun (i, content) => (i, if i = id then [] else content) })
  | _ => pure []

/-- Puts something back that was taken. -/
def putBack (stream : Stream) (bs : Bytes) : HostM Unit :=
  match stream with
  | .pipe id => modify fun host => { host with
      pipes := host.pipes.map fun (i, content) => (i, if i = id then bs ++ content else content) }
  | _ => pure ()

/-- Gives a pipe up. -/
def closePipe (stream : Stream) : HostM Unit :=
  match stream with
  | .pipe id => modify fun host => { host with pipes := host.pipes.filter (·.1 ≠ id) }
  | _ => pure ()

/-- Makes a call that may change the tree. -/
def change (call : FileTree → Except Errno FileTree) : HostM (Except Errno Unit) := fun host =>
  match call host.tree with
  | .ok tree => (.ok (), { host with tree := tree })
  | .error e => (.error e, host)

/-- Makes a call that changes the tree even where it fails. -/
def changePartly (call : FileTree → FileTree × Except Errno Unit) : HostM (Except Errno Unit) :=
  fun host =>
    let (tree, result) := call host.tree
    (result, { host with tree := tree })

/-- Opens a file for reading. -/
def openInput (v : Viewpoint) (p : Path) : HostM (Except Errno Stream) := do
  match (← get).tree.statAt v p with
  | .error e => return .error e
  | .ok f =>
    match f.require .read, FileTree.contentOf f with
    | .error e, _ => return .error e
    | .ok (), .ok content => return .ok (← newPipe content)
    | .ok (), .error e => return if f.isDir then .ok .nothing else .error e

/-- Opens a file for writing. -/
def openOutput (v : Viewpoint) (p : Path) (empty : Bool) : HostM (Except Errno Stream) :=
  fun host =>
    match host.tree.openForWriting v p empty with
    | .ok (tree, inode) => (.ok (.file inode), { host with tree := tree })
    | .error e => (.error e, host)

end Host
end Container
