import Container.Failure
import Container.Log

set_option autoImplicit false

/-!
# What the library asks of the system

All that the library does to the world around it goes through a `System`: a record of calls
that each change a state and answer with success or with an error. Nothing is assumed of the
state or of the answers, so what is proved of the library holds for every system, whatever its
calls answer.

## Main definitions

* `System` — the calls.
* `Act` — a computation that makes calls and may fail or break down.
* `Slot` — a place of the state that holds a value, with `Slot.run` for what is done there.
* `Act.guarded` — a computation whose failure is handed to its caller.
-/

namespace Container

/-! ## Computations -/

/-- Why a computation has no result. -/
inductive Stop where
  | failed (f : Failure)
  /-- Something the computation relies on broke down. -/
  | panicked

/-- A computation that changes a state and yields a result, fails or breaks down. -/
abbrev Act (σ : Type) := ExceptT Stop (StateM σ)

namespace Act

variable {σ α ε : Type}

/-- Fails. -/
def fail (f : Failure) : Act σ α := throw (.failed f)

/-- Makes a call that may fail, and fails as `failure` says where it does. -/
def call (m : StateM σ (Except ε α)) (failure : ε → Failure) : Act σ α := do
  match ← m with
  | .ok a => return a
  | .error e => fail (failure e)

/-- Runs a computation and hands over its result or its failure. Only a breakdown is passed
on. -/
def guarded (act : Act σ α) : Act σ (Except Failure α) :=
  fun s =>
    match act s with
    | (.ok a, s) => (.ok (.ok a), s)
    | (.error (.failed f), s) => (.ok (.error f), s)
    | (.error .panicked, s) => (.error .panicked, s)

/-- Runs a computation and reports a failure before passing it on. -/
def onFailure (act : Act σ α) (report : Failure → StateM σ Unit) : Act σ α :=
  fun s =>
    match act s with
    | (.error (.failed f), s) => (.error (.failed f), (report f s).2)
    | r => r

end Act

/-! ## Places in the state -/

/-- A place of the state that holds a value. -/
structure Slot (σ τ : Type) where
  get : σ → τ
  set : τ → σ → σ
  get_set : ∀ t s, get (set t s) = t := by intros; rfl
  set_get : ∀ s, set (get s) s = s := by intros; rfl
  set_set : ∀ t u s, set t (set u s) = set t s := by intros; rfl

/-- Changes the value in a place. -/
def Slot.modify {σ τ : Type} (slot : Slot σ τ) (f : τ → τ) : StateM σ Unit :=
  fun s => ((), slot.set (f (slot.get s)) s)

/-- The value in a place. -/
def Slot.read {σ τ : Type} (slot : Slot σ τ) : StateM σ τ := fun s => (slot.get s, s)

/-- Runs a computation on a part of the state. -/
def Slot.run {σ τ α : Type} (slot : Slot σ τ) (act : StateM τ α) : StateM σ α := fun s =>
  let (a, t) := act (slot.get s)
  (a, slot.set t s)

/-! ## Calls -/

/-- Which file something is: bound in two places, it is still the same one. -/
structure FileId where
  device : Nat
  inode : Nat
  deriving DecidableEq

/-- What is known of a file. -/
structure FileInfo where
  id : FileId
  isDir : Bool
  deriving DecidableEq

/-- An entry of a directory. A link to a directory is not a directory. -/
structure DirEntry where
  name : Bytes
  isDir : Bool
  deriving DecidableEq

/-- What becomes of the standard output of a command. -/
inductive Output where
  | inherited
  | discarded
  deriving DecidableEq

/-- A command that runs to its end, with nothing to read. -/
structure Command where
  program : Path
  arguments : List String
  output : Output
  deriving DecidableEq

/-- The program that takes this process over. -/
structure Handoff where
  program : String
  arguments : List String
  environment : List String
  deriving DecidableEq

/-- A connection to another process: bytes in order, both ways. -/
structure Channel (σ : Type) where
  send : Bytes → StateM σ (Except IoFault Unit)
  /-- Exactly so many bytes. Where the stream ends before, what there was of it is gone. -/
  receive : Nat → StateM σ (Except IoFault Bytes)
  /-- Ends both ways. -/
  close : StateM σ (Except IoFault Unit)

/-- The calls. -/
structure System (σ : Type) where
  /-- What a path names in the end. -/
  stat : Path → StateM σ (Except IoFault FileInfo)
  /-- What a path names, a link counting as itself. -/
  linkStat : Path → StateM σ (Except IoFault FileInfo)
  readFile : Path → StateM σ (Except IoFault Bytes)
  /-- Makes a file with this content, or replaces the content it has. -/
  writeFile : Path → Bytes → StateM σ (Except IoFault Unit)
  /-- Makes a directory and all it lies in, as far as they are missing. -/
  makeDirs : Path → StateM σ (Except IoFault Unit)
  removeFile : Path → StateM σ (Except IoFault Unit)
  /-- Removes an empty directory. -/
  removeDir : Path → StateM σ (Except IoFault Unit)
  /-- Removes a directory with everything in it. -/
  removeTree : Path → StateM σ (Except IoFault Unit)
  /-- The entries of a directory, each of which may turn out not to be readable. -/
  listDir : Path → StateM σ (Except IoFault (List (Except IoFault DirEntry)))
  /-- A number that no chain of directories inside one another is longer than. -/
  depthBound : σ → Nat
  changeDir : Path → StateM σ (Except Errno Unit)
  run : Command → StateM σ (Except IoFault ExitStatus)
  /-- Hands the process over. The answer is none if that came about. -/
  execute : Handoff → StateM σ (Option Errno)
  /-- Starts a thread of this process. -/
  startThread : StateM σ (Except IoFault Unit)
  userId : StateM σ Nat
  /-- Sets the real, the effective and the saved user. -/
  setUserIds : Nat → Nat → Nat → StateM σ (Except Errno Unit)
  isAdministrator : StateM σ Bool
  mount : MountRequest → StateM σ (Except Errno Unit)
  changeRoot : Path → StateM σ (Except Errno Unit)
  /-- Detaches what is mounted at a path. -/
  detach : Path → StateM σ (Except Errno Unit)
  /-- Connects to the socket at a path. -/
  connect : Path → StateM σ (Except IoFault Unit)
  /-- The connection that was made. -/
  channel : Channel σ
  /-- Listens at a path, where nothing may be yet. -/
  listen : Path → StateM σ (Except IoFault Unit)
  /-- Sets the permission bits of a file. -/
  setMode : Path → UInt32 → StateM σ (Except IoFault Unit)
  log : LogEvent → StateM σ Unit

/-- Reports an event. -/
def System.report {σ : Type} (sys : System σ) (level : Level) (source : LogSource)
    (message : String) (values : List (String × LogValue) := []) : StateM σ Unit :=
  sys.log ⟨level, source, message, values⟩

end Container
