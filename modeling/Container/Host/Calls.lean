import Container.Host.Process

set_option autoImplicit false

/-!
# A host in memory as a system

The calls of a system, answered by a host in memory. Its process belongs to user zero, but may
not administer the system: mounting, detaching and changing the root are refused once the path
is known to lead somewhere. Nobody listens at any socket.

## Main definitions

* `Host.system` — the system.
-/

namespace Container

namespace Host

/-- An error of the operating system as the reason why a call failed. -/
def asFault {α : Type} : Except Errno α → Except IoFault α
  | .ok a => .ok a
  | .error e => .error (.os e)

/-- Makes a call on a path, which fails where the path holds a zero byte. -/
def withPath {α : Type} (p : Path) (call : HostM (Except Errno α)) : HostM (Except IoFault α) := do
  if p.hasNul then return .error .nulInFileName else return asFault (← call)

/-- Asks something of the tree, as seen from the working directory. -/
def ask {α : Type} (question : FileTree → Viewpoint → Except Errno α) : HostM (Except Errno α) := do
  let host ← get
  return question host.tree host.view

/-- Makes a call that changes the tree or does not. -/
def changeSeen (call : FileTree → Viewpoint → Except Errno FileTree) :
    HostM (Except Errno Unit) := do
  let v := (← get).view
  change (call · v)

/-- What is known of a file. -/
def infoOf (f : File) : FileInfo := ⟨⟨1, f.inode⟩, f.isDir⟩

/-- Writes a file anew. -/
def writeFile (p : Path) (content : Bytes) : HostM (Except Errno Unit) := do
  match ← openOutput (← get).view p true with
  | .ok stream =>
    write stream content
    return .ok ()
  | .error e => return .error e

/-- Changes the working directory. -/
def changeDir (p : Path) : HostM (Except Errno Unit) := fun host =>
  match (if p.hasNul then .error .invalidArgument else host.tree.statAt host.view p) with
  | .error e => (.error e, host)
  | .ok f =>
    if ¬ f.isDir then (.error .notDirectory, host)
    else
      match f.require .run with
      | .error e => (.error e, host)
      | .ok () => (.ok (), { host with view := { host.view with cwd := f.location } })

/-- Refuses what only an administrator may do at a path, once it is known to lead somewhere, and
if `inside` is set into a directory that may be gone through. -/
def refuseAt (p : Path) (inside : Bool) : HostM (Except Errno Unit) := do
  if p.hasNul then return .error .invalidArgument
  else
    match (← get).tree.statAt (← get).view p with
    | .error e => return .error e
    | .ok f =>
      if inside ∧ ¬ f.isDir then return .error .notDirectory
      else if inside ∧ ¬ f.permits .run then return .error .accessDenied
      else return .error .notPermitted

/-- The greatest length of the address of a socket. -/
def socketPathLimit : Nat := 107

/-- Why the path of a socket cannot be an address. -/
def socketFault? (p : Path) : Option IoFault :=
  if p.hasNul then some .nulInSocketPath
  else if socketPathLimit < p.bytes.length then some .socketPathTooLong
  else none

/-- Fails to connect to a socket at which nobody listens. -/
def connectRefused (p : Path) : HostM (Except IoFault Unit) := do
  match socketFault? p with
  | some fault => return .error fault
  | none =>
    if p = .empty then return .error (.os .invalidArgument)
    else
      match (← get).tree.statAt (← get).view p with
      | .error e => return .error (.os e)
      | .ok f =>
        return .error (.os (if f.permits .write then .connectionRefused else .accessDenied))

/-- Makes a socket. -/
def makeSocket (p : Path) : HostM (Except IoFault Unit) := do
  match socketFault? p with
  | some fault => return .error fault
  | none =>
    let made ← changeSeen fun tree v => tree.make v p false 0o755 .socket
    return asFault (match made with
      | .error e => .error (if e = .alreadyExists then .addressInUse else e)
      | ok => ok)

/-- Sets the permission bits of a file. -/
def setMode (p : Path) (mode : UInt32) : HostM (Except Errno Unit) :=
  changeSeen fun tree v => do
    let f ← tree.statAt v p
    return tree.update f.inode fun f => { f with mode := mode.toNat % 4096 }

/-- A connection that nobody is on the other side of. -/
def noChannel {σ : Type} : Channel σ where
  send _ := return .error (.os .brokenPipe)
  receive _ := return .error .streamEnded
  close := return .ok ()

/-- A host as a system. -/
def system {σ : Type} (place : Slot σ Host) : System σ where
  stat p := place.run (withPath p (ask fun tree v => infoOf <$> tree.statAt v p))
  linkStat p := place.run (withPath p (ask fun tree v => infoOf <$> tree.linkStatAt v p))
  readFile p := place.run (withPath p (ask fun tree v => tree.readFile v p))
  writeFile p content := place.run (withPath p (writeFile p content))
  makeDirs p := place.run (withPath p do
    let v := (← get).view
    changePartly (·.makeDirs v p))
  removeFile p := place.run (withPath p (changeSeen (·.unlink · p)))
  removeDir p := place.run (withPath p (changeSeen (·.removeDir · p)))
  removeTree p := place.run (withPath p do
    let v := (← get).view
    changePartly (·.removeTree v p))
  listDir p := place.run (withPath p (ask fun tree v =>
    (·.map fun f => .ok ⟨f.name, f.isDir⟩) <$> tree.list v p))
  depthBound s := (place.get s).tree.depthBound
  changeDir p := place.run (changeDir p)
  run command := place.run (runCommand command)
  execute handoff := place.run (handOver handoff)
  startThread := return .ok ()
  userId := return 0
  setUserIds _ _ _ := return .ok ()
  isAdministrator := return false
  mount request := place.run (refuseAt request.target false)
  changeRoot p := place.run (refuseAt p true)
  detach p := place.run (refuseAt p false)
  connect p := place.run (connectRefused p)
  channel := noChannel
  listen p := place.run (makeSocket p)
  setMode p mode := place.run (withPath p (setMode p mode))
  log event := place.run (modify fun host =>
    { host with output := host.output.push (.event event) })

end Host
end Container
