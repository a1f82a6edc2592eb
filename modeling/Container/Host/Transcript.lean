import Container.Host.Basic

set_option autoImplicit false

/-!
# Transcripts

What a program shows on its output, line by line: what processes wrote, and the events that are
important enough.

## Main definitions

* `Transcript.Line` — a line.
* `Host.transcript` — all lines of a host.
* `Host.written` — what processes wrote, without the events.
-/

namespace Container

/-- A line: of an event, with its level and the part it comes from, or any other. -/
inductive Transcript.Line where
  | event (level : Level) (source : LogSource) (text : String)
  | other (text : String)
  deriving DecidableEq

/-- Lines, the last of which has not ended if it is not empty. -/
structure Transcript where
  complete : Array Transcript.Line
  last : String

namespace Transcript

/-- No lines. -/
def empty : Transcript := ⟨#[], ""⟩

/-- Adds text. -/
def addText (t : Transcript) (s : String) : Transcript :=
  let parts := (t.last ++ s).splitOn "\n"
  ⟨t.complete ++ (parts.dropLast.map Line.other).toArray, parts.getLastD ""⟩

/-- Adds an event, which begins a line of its own if the last one has ended. -/
def addEvent (t : Transcript) (e : LogEvent) : Transcript :=
  if !e.isNotable then t
  else if !t.last.isEmpty then
    t.addText (e.level.name ++ " " ++ e.source.name ++ ": " ++ e.line ++ "\n")
  else
    match e.line.splitOn "\n" with
    | [] => t
    | first :: rest =>
      ⟨t.complete.push (.event e.level e.source first) ++ (rest.map Line.other).toArray, ""⟩

/-- All lines, whether the last one has ended or not. -/
def lines (t : Transcript) : List Line :=
  t.complete.toList ++ if t.last.isEmpty then [] else [.other t.last]

end Transcript

namespace Host

/-- What processes wrote. -/
def written (host : Host) : Bytes :=
  host.output.toList.flatMap fun piece => match piece with
    | .bytes bs => bs
    | .event _ => []

/-- The events in order. -/
def events (host : Host) : List LogEvent :=
  host.output.toList.filterMap fun piece => match piece with
    | .bytes _ => none
    | .event e => some e

/-- All lines of a host. -/
def transcript (host : Host) : List Transcript.Line :=
  (host.output.foldl (fun (t : Transcript) piece => match piece with
    | .bytes bs => t.addText (Utf8.lossy bs)
    | .event e => t.addEvent e) .empty).lines

end Host
end Container
