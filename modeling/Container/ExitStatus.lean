import Container.Powers

set_option autoImplicit false

/-!
# How a process ended

The system reports the end of a process in one word, in which either an exit code or a signal
is packed. The same word can also say that a process was stopped or went on.

## Main definitions

* `ExitStatus` — the word.
* `ExitStatus.code?`, `ExitStatus.signal?` — what is packed into it.
* `ExitStatus.message` — the status in words.
-/

namespace Container

/-- The word in which the system reports how a process ended. -/
structure ExitStatus where
  word : UInt32
  deriving DecidableEq, Inhabited

namespace ExitStatus

/-- The status of a process that exited with a code. -/
def exited (code : Nat) : ExitStatus := ⟨UInt32.ofNat (code % 256 * 256)⟩

/-- The status of a process that a signal ended. -/
def killed (signal : Nat) : ExitStatus := ⟨UInt32.ofNat (signal % 128)⟩

/-- Whether a process ended well. -/
def isSuccess (s : ExitStatus) : Bool := s.word = 0

/-- One status only is that of a process that ended well: it exited with code zero. -/
theorem isSuccess_iff {s : ExitStatus} : s.isSuccess = true ↔ s = exited 0 := by
  obtain ⟨word⟩ := s
  simp [isSuccess, exited]

/-- The low seven bits, in which the signal is. -/
def low (s : ExitStatus) : Nat := s.word.toNat % 128

/-- The second byte, in which the exit code is. -/
def high (s : ExitStatus) : Nat := s.word.toNat / 256 % 256

/-- The exit code of a process that exited. -/
def code? (s : ExitStatus) : Option Nat := if s.low = 0 then some s.high else none

/-- The signal that ended a process. -/
def signal? (s : ExitStatus) : Option Nat := if 0 < s.low ∧ s.low < 127 then some s.low else none

/-- The signal that stopped a process. -/
def stopSignal? (s : ExitStatus) : Option Nat :=
  if s.word.toNat % 256 = 127 then some s.high else none

/-- Whether the memory of a process was saved when a signal ended it. -/
def dumpedCore (s : ExitStatus) : Bool := 128 ≤ s.word.toNat % 256

/-- The word as a number with a sign. -/
def toInt (s : ExitStatus) : Int :=
  if s.word.toNat < 2 ^ 31 then s.word.toNat else s.word.toNat - 2 ^ 32

/-- The status that a number with a sign stands for. -/
def ofInt (i : Int) : ExitStatus := ⟨UInt32.ofNat (i % 2 ^ 32).toNat⟩

/-- The names of the signals that have one, from the first on. -/
def signalNames : List String := [
  "SIGHUP", "SIGINT", "SIGQUIT", "SIGILL", "SIGTRAP", "SIGABRT", "SIGBUS", "SIGFPE", "SIGKILL",
  "SIGUSR1", "SIGSEGV", "SIGUSR2", "SIGPIPE", "SIGALRM", "SIGTERM", "SIGSTKFLT", "SIGCHLD",
  "SIGCONT", "SIGSTOP", "SIGTSTP", "SIGTTIN", "SIGTTOU", "SIGURG", "SIGXCPU", "SIGXFSZ",
  "SIGVTALRM", "SIGPROF", "SIGWINCH", "SIGIO", "SIGPWR", "SIGSYS"]

/-- A signal by its number, and its name if it has one. -/
def signalText (signal : Nat) : String :=
  match signal with
  | 0 => "0"
  | n + 1 =>
    match signalNames[n]? with
    | some name => s!"{signal} ({name})"
    | none => toString signal

/-- A status in words. -/
def message (s : ExitStatus) : String :=
  match s.code?, s.signal?, s.stopSignal? with
  | some code, _, _ => s!"exit status: {code}"
  | none, some signal, _ =>
    s!"signal: {signalText signal}" ++ (if s.dumpedCore then " (core dumped)" else "")
  | none, none, some signal => s!"stopped (not terminated) by signal: {signalText signal}"
  | none, none, none =>
    if s.word = 0xFFFF then "continued (WIFCONTINUED)"
    else
      let hex := String.ofList (Nat.toDigits 16 s.word.toNat)
      s!"unrecognised wait status: {s.toInt} 0x{hex}"

end ExitStatus
end Container
