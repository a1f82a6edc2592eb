import Container.Rehearsal.Session

set_option autoImplicit false

/-!
# The command line

A command is rehearsed: the description of the container is read from where the command line
says, everything else happens on a host in memory, and what the command would show is printed.

## Main definitions

* `main` — the program.
-/

namespace Container.Terminal

/-- The variables of the environment that a command heeds. -/
def heeded : List String := [
  "PATH", "HOME", "SHROUD_SESSION_DIR", "SHROUD_FINAL_DIR", "SHROUD_HELPER_SOCKET"]

/-- The environment of this process, as far as a command heeds it. -/
def environment : IO Environment := do
  let given ← heeded.mapM fun name => do
    return (← IO.getEnv name).map fun value => (Utf8.bytes name, Utf8.bytes value)
  return ⟨given.filterMap id⟩

/-- The document that a task is about. -/
def documentOf : Task → Path
  | .create document _ | .start document | .run document _ | .cleanup document _ _ => document

/-- The document of a command line as a file, if it can be read. -/
def documentFile (arguments : List String) : IO (List Furnishing) := do
  match CommandLine.read arguments with
  | .task t =>
    try
      let content ← IO.FS.readBinFile (documentOf t).display
      return [.file (documentOf t) content.data.toList none]
    catch _ => return []
  | _ => return []

/-- A line of a transcript as it is printed. -/
def lineText : Transcript.Line → String
  | .event level source text => level.name ++ " " ++ source.name ++ ": " ++ text
  | .other text => text

end Container.Terminal

open Container in
/-- Rehearses the command that the arguments ask for. -/
def main (arguments : List String) : IO UInt32 := do
  let environment ← Terminal.environment
  let cwd ← IO.currentDir
  let host := Host.fresh (Location.ofText cwd.toString) environment
  let start := Rehearsal.start (host.furnish (← Terminal.documentFile arguments))
  let (code?, r) := start.runCommand environment arguments
  for line in r.host.transcript do
    IO.println (Terminal.lineText line)
  return UInt32.ofNat (code?.getD Rehearsal.breakdownCode)
