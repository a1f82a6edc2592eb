import Container.Privileged.Operations
import Container.Proofs.Act

set_option autoImplicit false

/-!
# Keeping a ledger of calls

To say what a computation does to the world, the calls that it makes are written down, each with
what was answered. The world itself may be anything: the calls go through to a system and to
operations about which nothing is known. What is reported is not kept, so no call can depend
on it.

## Main definitions

* `System.IsSilent` — a system to which nothing that is reported makes a difference.
* `System.willing` — a system in which every call succeeds.
* `Ledger.Entry` — a call with its answer.
* `Ledger` — a world, and the calls made on it so far.
* `Ledger.system`, `Ledger.operations` — a system and privileged operations whose calls are
  written down.
-/

namespace Container

variable {σ τ α : Type}

/-- Nothing becomes of what is reported to the system. -/
def System.IsSilent (sys : System σ) : Prop := ∀ event, sys.log event = pure ()

theorem System.IsSilent.report {sys : System σ} (hsys : sys.IsSilent) (level : Level)
    (source : LogSource) (message : String) (values : List (String × LogValue)) :
    sys.report level source message values = pure () :=
  hsys _

/-- A system without a state: every path leads to a directory, and every call succeeds but does
nothing. -/
def System.willing : System Unit where
  stat _ := pure (.ok ⟨⟨0, 0⟩, true⟩)
  linkStat _ := pure (.ok ⟨⟨0, 0⟩, true⟩)
  readFile _ := pure (.ok [])
  writeFile _ _ := pure (.ok ())
  makeDirs _ := pure (.ok ())
  removeFile _ := pure (.ok ())
  removeDir _ := pure (.ok ())
  removeTree _ := pure (.ok ())
  listDir _ := pure (.ok [])
  depthBound _ := 0
  changeDir _ := pure (.ok ())
  run _ := pure (.ok (.exited 0))
  execute _ := pure none
  startThread := pure (.ok ())
  userId := pure 0
  setUserIds _ _ _ := pure (.ok ())
  isAdministrator := pure true
  mount _ := pure (.ok ())
  changeRoot _ := pure (.ok ())
  detach _ := pure (.ok ())
  connect _ := pure (.ok ())
  channel := ⟨fun _ => pure (.ok ()), fun _ => pure (.ok []), pure (.ok ())⟩
  listen _ := pure (.ok ())
  setMode _ _ := pure (.ok ())
  log _ := pure ()

/-- A call that may change the world, with what was answered. -/
inductive Ledger.Entry where
  | run (command : Command) (answer : Except IoFault ExitStatus)
  | makeDirs (path : Path) (answer : Except IoFault Unit)
  | changeDir (path : Path) (answer : Except Errno Unit)
  | mount (request : MountRequest) (answer : Except Stop Int32)
  | chroot (path : Path) (answer : Except Stop Int32)
  | close (answer : Except Stop Unit)
  /-- Any call that is none of these. -/
  | other

/-- A world, and the calls that were made on it. -/
structure Ledger (σ : Type) where
  world : σ
  entries : List Ledger.Entry

namespace Ledger

/-- The ledger in which nothing is written yet. -/
def start (world : σ) : Ledger σ := ⟨world, []⟩

/-- Asks something of the world, which is not written down. -/
def ask (question : StateM σ α) : StateM (Ledger σ) α := fun l =>
  let (a, world) := question l.world
  (a, { l with world })

/-- Makes a call on the world, and writes it down. -/
def note (entry : α → Entry) (call : StateM σ α) : StateM (Ledger σ) α := fun l =>
  let (a, world) := call l.world
  (a, ⟨world, l.entries ++ [entry a]⟩)

/-- Makes a call of no interest on the world, which is written down as such. -/
def noteOther (call : StateM σ α) : StateM (Ledger σ) α := note (fun _ => .other) call

/-- A system whose calls are written down, in a state with a ledger. What is reported is
forgotten. -/
def system (place : Slot τ (Ledger σ)) (sys : System σ) : System τ where
  stat p := place.run (ask (sys.stat p))
  linkStat p := place.run (ask (sys.linkStat p))
  readFile p := place.run (ask (sys.readFile p))
  listDir p := place.run (ask (sys.listDir p))
  startThread := place.run (ask sys.startThread)
  userId := place.run (ask sys.userId)
  isAdministrator := place.run (ask sys.isAdministrator)
  depthBound s := sys.depthBound (place.get s).world
  run command := place.run (note (.run command) (sys.run command))
  makeDirs p := place.run (note (.makeDirs p) (sys.makeDirs p))
  changeDir p := place.run (note (.changeDir p) (sys.changeDir p))
  writeFile p content := place.run (noteOther (sys.writeFile p content))
  removeFile p := place.run (noteOther (sys.removeFile p))
  removeDir p := place.run (noteOther (sys.removeDir p))
  removeTree p := place.run (noteOther (sys.removeTree p))
  execute handoff := place.run (noteOther (sys.execute handoff))
  setUserIds real effective saved := place.run (noteOther (sys.setUserIds real effective saved))
  mount request := place.run (noteOther (sys.mount request))
  changeRoot p := place.run (noteOther (sys.changeRoot p))
  detach p := place.run (noteOther (sys.detach p))
  connect p := place.run (noteOther (sys.connect p))
  channel := {
    send bs := place.run (noteOther (sys.channel.send bs))
    receive n := place.run (noteOther (sys.channel.receive n))
    close := place.run (noteOther sys.channel.close) }
  listen p := place.run (noteOther (sys.listen p))
  setMode p mode := place.run (noteOther (sys.setMode p mode))
  log _ := return

/-- Privileged operations whose calls are written down, in a state with a ledger. -/
def operations (place : Slot τ (Ledger σ)) (ops : Privileged σ) : Privileged τ where
  mount request := .mk (place.run (note (.mount request) (ops.mount request).run))
  chroot p := .mk (place.run (note (.chroot p) (ops.chroot p).run))
  close := .mk (place.run (note .close ops.close.run))

/-- A system whose calls are written down keeps nothing of what is reported to it. -/
theorem system_isSilent (place : Slot τ (Ledger σ)) (sys : System σ) :
    (system place sys).IsSilent := fun _ => rfl

end Ledger
end Container
