import Container.Config.Basic
import Container.Errno
import Container.ExitStatus
import Container.Json.Reader
import Container.Wire.Message

set_option autoImplicit false

/-!
# Failures

Everything that can go wrong in the life of a container, by cause. What went wrong on the
other side of some interface is known only by the words it was reported in; each kind of
failure has such a case.

## Main definitions

* `Failure` — what went wrong, with `Failure.message`.
* `Failure.isHook` — whether a hook is to blame.
-/

namespace Container

/-- What is said of a value that cannot be written because one of its paths is not text. -/
def notTextMessage : String := "path contains invalid UTF-8 characters"

/-- Why a mount, or the end of one, failed. -/
inductive MountFault where
  | reported (text : String)
  | refused (source target : Path) (errno : Errno)
  | notDetached (target : Path) (errno : Errno)
  | remote (source target : Path) (text : String)
  /-- A step of a mount plan failed. -/
  | step (label : String) (cause : MountFault)

/-- The wording of a mount fault. -/
def MountFault.message : MountFault → String
  | .reported text => text
  | .refused source target errno =>
    s!"failed to mount {source.display} on {target.display}: {errno.symbolic}"
  | .notDetached target errno => s!"failed to unmount {target.display}: {errno.symbolic}"
  | .remote source target text =>
    s!"remote mount of {source.display} on {target.display} failed: {text}"
  | .step label cause => s!"mount {label} failed: {cause.message}"

/-- Why changing the root failed. -/
inductive ChrootFault where
  | reported (text : String)
  | refused (path : Path) (errno : Errno)
  | remote (path : Path) (text : String)

/-- The wording of a fault in changing the root. -/
def ChrootFault.message : ChrootFault → String
  | .reported text => text
  | .refused path errno => s!"chroot to {path.display} failed: {errno.symbolic}"
  | .remote path text => s!"remote chroot to {path.display} failed: {text}"

/-- Why a hook did not come to a good end. -/
inductive HookFault where
  | reported (text : String)
  | notStarted (fault : IoFault)
  | ended (status : ExitStatus)

/-- The wording of a fault of a hook. -/
def HookFault.message : HookFault → String
  | .reported text => text
  | .notStarted fault => s!"failed to start: {fault.message}"
  | .ended status => status.message

/-- Why the channel to the privileged side cannot be used. -/
inductive ChannelFault where
  | reported (text : String)
  | unreachable (socket : Path) (fault : IoFault)
  | transport (fault : IoFault)
  /-- The connection to a helper was closed before. -/
  | connectionClosed
  /-- The operations of this process were closed before. -/
  | operationsClosed
  | notClosed (fault : IoFault)

/-- The wording of a channel fault. -/
def ChannelFault.message : ChannelFault → String
  | .reported text => text
  | .unreachable socket fault => s!"failed to connect to {socket.display}: {fault.message}"
  | .transport fault => s!"transport failure: {fault.message}"
  | .connectionClosed => "connection already closed"
  | .operationsClosed => "privileged operations already closed"
  | .notClosed fault => s!"can't close connection with privileged helper: {fault.message}"

/-- How a message breaks the protocol. -/
inductive ProtocolFault where
  | reported (text : String)
  | frameTooLarge (length : Nat)
  /-- A message has a path that is not text. -/
  | notEncodable
  | notDecodable (mismatch : Datum.Mismatch)
  | unexpected (response : Response)

/-- The wording of a protocol fault. -/
def ProtocolFault.message : ProtocolFault → String
  | .reported text => text
  | .frameTooLarge length => s!"frame too large: {length} bytes"
  | .notEncodable => s!"encode failed: {notTextMessage}"
  | .notDecodable mismatch => s!"decode failed: {mismatch.message MessagePack.wording}"
  | .unexpected response => s!"unexpected response {response.shown}"

/-- Why privilege could not be had. -/
inductive PrivilegeFault where
  | reported (text : String)
  | notAdministrator
  | refused (real effective saved : Nat) (errno : Errno)
  /-- There is no thread to raise it on. -/
  | threadNotStarted (fault : IoFault)
  /-- What ran with raised privilege broke down. -/
  | sectionPanicked

/-- The wording of a privilege fault. -/
def PrivilegeFault.message : PrivilegeFault → String
  | .reported text => text
  | .notAdministrator => "CAP_SYS_ADMIN is required for in-process mounts"
  | .refused real effective saved errno =>
    s!"setresuid({real}, {effective}, {saved}) failed: {errno.message}"
  | .threadNotStarted fault => s!"failed to spawn privileged thread: {fault.message}"
  | .sectionPanicked => "privileged section panicked"

/-- Why the program of a container does not start. -/
inductive ExecFault where
  | reported (text : String)
  | noArguments
  /-- A string to be handed over has a zero byte at an offset. -/
  | zeroByte (text : String) (offset : Nat)
  | refused (program : String) (errno : Errno)

/-- The wording of a fault in starting a program. -/
def ExecFault.message : ExecFault → String
  | .reported text => text
  | .noArguments => "process has no arguments"
  | .zeroByte text offset =>
    s!"invalid argument {Quoted.text text}: nul byte found in provided data at position: {offset}"
  | .refused program errno => s!"exec {program} failed: {errno.symbolic}"

/-- Why an encrypted device is not given back. -/
inductive CryptFault where
  | reported (text : String)
  | notStarted (fault : IoFault)
  | notClosed (name : String) (status : ExitStatus)
  | noDeviceName (device : Path)

/-- The wording of a fault with an encrypted device. -/
def CryptFault.message : CryptFault → String
  | .reported text => text
  | .notStarted fault => s!"failed to run cryptsetup: {fault.message}"
  | .notClosed name status => s!"unable to delete crypt device {name}: cryptsetup {status.message}"
  | .noDeviceName device => s!"no device name in {device.display}"

/-- Why one network namespace is not given back. -/
inductive NamespaceFault where
  | notStarted (fault : IoFault)
  | ended (status : ExitStatus)

/-- The wording of a fault with one network namespace. -/
def NamespaceFault.message : NamespaceFault → String
  | .notStarted fault => fault.message
  | .ended status => status.message

/-- Why the network of a container is not given back. -/
inductive NetworkFault where
  | reported (text : String)
  /-- The namespaces that remain, each with its own fault. -/
  | remaining (namespaces : List (String × NamespaceFault))

/-- The wording of a fault with a network. -/
def NetworkFault.message : NetworkFault → String
  | .reported text => text
  | .remaining namespaces =>
    "failed to delete network namespaces: " ++
      ", ".intercalate (namespaces.map fun (name, fault) => s!"{name}: {fault.message}")

/-- Why a control group is not given back. -/
inductive CgroupFault where
  | reported (text : String)
  | unreadable (path : Path) (fault : IoFault)
  | notRemoved (path : Path) (fault : IoFault)

/-- The wording of a fault with a control group. -/
def CgroupFault.message : CgroupFault → String
  | .reported text => text
  | .unreadable path fault => s!"failed to read {path.display}: {fault.message}"
  | .notRemoved path fault => s!"failed to remove {path.display}: {fault.message}"

/-- Why the record of a container cannot be had or is not removed. -/
inductive RecordFault where
  | reported (text : String)
  | invalidId (containerId : String)
  | absent (path : Path) (fault : IoFault)
  | notRemoved (containerId : String) (fault : IoFault)

/-- The wording of a fault with a record. -/
def RecordFault.message : RecordFault → String
  | .reported text => text
  | .invalidId containerId => s!"invalid container id {Quoted.text containerId}"
  | .absent path fault => s!"no instance record at {path.display}: {fault.message}"
  | .notRemoved containerId fault => s!"failed to delete instance {containerId}: {fault.message}"

/-- What is wrong with a configuration. -/
inductive ConfigFault where
  | reported (text : String)
  | lacking (fault : Description.Fault)
  /-- A bound path would be seen outside the root of the container. -/
  | escapes (destination : Path)

/-- The wording of a fault of a configuration. -/
def ConfigFault.message : ConfigFault → String
  | .reported text => text
  | .lacking fault => fault.message
  | .escapes destination => s!"bind destination {destination.display} escapes the container root"

/-- Why a document does not yield or take a value. -/
inductive DocumentFault where
  | unreadable (error : Json.Error)
  /-- A value has a path that is not text. -/
  | notText

/-- The wording of a fault with a document. -/
def DocumentFault.message : DocumentFault → String
  | .unreadable error => error.message
  | .notText => notTextMessage

/-- What went wrong. -/
inductive Failure where
  | engineMismatch (expected found : String)
  | stat (path : Path) (fault : IoFault)
  | notADirectory (path : Path)
  | mount (fault : MountFault)
  | chroot (fault : ChrootFault)
  | chdir (path : Path) (errno : Errno)
  | hook (label : String) (fault : HookFault)
  | channel (fault : ChannelFault)
  | protocol (fault : ProtocolFault)
  | privilege (fault : PrivilegeFault)
  | exec (fault : ExecFault)
  | crypt (fault : CryptFault)
  | network (fault : NetworkFault)
  | cgroup (fault : CgroupFault)
  | record (fault : RecordFault)
  /-- A step of cleaning up failed. -/
  | cleanup (step : String) (cause : Failure)
  | io (fault : IoFault)
  | system (errno : Errno)
  | document (fault : DocumentFault)
  | config (fault : ConfigFault)

namespace Failure

/-- The wording of a failure. -/
def message : Failure → String
  | .engineMismatch expected found =>
    s!"engine name {Quoted.text found} in configuration doesn't match runtime name " ++
      Quoted.text expected
  | .stat path fault => s!"stat on {path.display} failed: {fault.message}"
  | .notADirectory path => s!"{path.display} is not a directory"
  | .mount fault => s!"mount error: {fault.message}"
  | .chroot fault => s!"chroot error: {fault.message}"
  | .chdir path errno => s!"change directory to {path.display} failed: {errno.symbolic}"
  | .hook label fault => s!"%{label} script failed: {fault.message}"
  | .channel fault => s!"privileged channel error: {fault.message}"
  | .protocol fault => s!"protocol error: {fault.message}"
  | .privilege fault => s!"privilege error: {fault.message}"
  | .exec fault => s!"exec error: {fault.message}"
  | .crypt fault => s!"crypt device error: {fault.message}"
  | .network fault => s!"network teardown error: {fault.message}"
  | .cgroup fault => s!"cgroup error: {fault.message}"
  | .record fault => s!"instance error: {fault.message}"
  | .cleanup step cause => s!"cleanup step {step} failed: {cause.message}"
  | .io fault => s!"io error: {fault.message}"
  | .system errno => s!"nix error: {errno.symbolic}"
  | .document fault => s!"json error: {fault.message}"
  | .config fault => s!"configuration error: {fault.message}"

/-- Whether a hook is to blame. Nothing can be done about that. -/
def isHook : Failure → Bool
  | .hook .. => true
  | _ => false

/-- The wording of what lies behind a failure, and of what lies behind that. -/
def causes : Failure → List String
  | .stat _ fault => [fault.message]
  | .chdir _ errno => [errno.symbolic]
  | .cleanup _ cause => cause.message :: cause.causes
  | .io fault => [fault.message]
  | .system errno => [errno.symbolic]
  | .document fault => [fault.message]
  | _ => []

end Failure
end Container
