import Container.Text.Quoted

set_option autoImplicit false

/-!
# Paths

A path is a byte string in which slashes separate segments. The library keeps the exact bytes,
because they are what a system call is given, and reads them as a list of components where
the meaning of a path matters.

## Main definitions

* `Path` — a path, with `Path.join`, `Path.display` and `Path.text?`.
* `Path.Component`, `Path.components` — what a path names, step by step.
* `Path.fileName?`, `Path.parent?` — its last name, and the path up to it.

## Main results

* `Path.join_relative` — what joining a relative path gives, byte by byte.
-/

namespace Container

/-- A path: any byte string. -/
structure Path where
  bytes : Bytes
  deriving DecidableEq, Inhabited

namespace Path

/-- The byte that separates segments. -/
def slash : UInt8 := 0x2F

/-- The byte that the segments for this and the parent directory are made of. -/
def dot : UInt8 := 0x2E

/-- The path with the bytes of a text. -/
def ofText (s : String) : Path := ⟨Utf8.bytes s⟩

instance : Coe String Path := ⟨ofText⟩

/-- The text of a path, if its bytes are well-formed UTF-8. -/
def text? (p : Path) : Option String := Utf8.text? p.bytes

/-- A path for display in a message. -/
def display (p : Path) : String := Utf8.lossy p.bytes

/-- A path in quotes. -/
def quoted (p : Path) : String := Quoted.bytes p.bytes

@[simp] theorem text?_ofText (s : String) : (ofText s).text? = some s := by simp [text?, ofText]

@[simp] theorem display_ofText (s : String) : (ofText s).display = s := by simp [display, ofText]

/-- A path that starts at the root. -/
def isAbsolute (p : Path) : Bool := p.bytes.head? == some slash

/-- The empty path. -/
def empty : Path := ⟨[]⟩

/-- The path of `q` seen from `p`. An absolute `q` stands for itself; otherwise its bytes
follow those of `p`, after a slash unless `p` is empty or ends in one. -/
def join (p q : Path) : Path :=
  if q.isAbsolute then q
  else
    match p.bytes.getLast? with
    | none => q
    | some last => if last = slash then ⟨p.bytes ++ q.bytes⟩ else ⟨p.bytes ++ slash :: q.bytes⟩

/-- Joining a relative path to one that has bytes and does not end in a slash puts a slash
between them. -/
theorem join_relative {p q : Path} {last : UInt8} (hq : q.isAbsolute = false)
    (hp : p.bytes.getLast? = some last) (hl : last ≠ slash) :
    p.join q = ⟨p.bytes ++ slash :: q.bytes⟩ := by
  simp [join, hq, hp, hl]

/-! ## Components -/

/-- The segments between slashes, empty ones included. -/
def segments (bs : Bytes) : List Bytes :=
  bs.foldr (fun b segs =>
    if b = slash then [] :: segs
    else match segs with
      | [] => [[b]]
      | seg :: segs => (b :: seg) :: segs) [[]]

/-- One step of what a path names. -/
inductive Component where
  | root
  | current
  | parent
  | name (n : Bytes)
  deriving DecidableEq

/-- The component that a segment stands for; empty segments and those for the current
directory stand for none. -/
def Component.ofSegment? (seg : Bytes) : Option Component :=
  if seg = [] ∨ seg = [dot] then none
  else if seg = [dot, dot] then some .parent
  else some (.name seg)

/-- The segment that writes a component. -/
def Component.segment : Component → Bytes
  | .root => []
  | .current => [dot]
  | .parent => [dot, dot]
  | .name n => n

/-- What a path names, step by step. The current directory is a step only where a relative
path begins with it. -/
def components (p : Path) : List Component :=
  let named := (segments p.bytes).filterMap Component.ofSegment?
  if p.isAbsolute then .root :: named
  else if (segments p.bytes).head? = some [dot] then .current :: named
  else named

/-- The bytes of a list of segments with slashes between them. -/
def joinSegments : List Bytes → Bytes
  | [] => []
  | [seg] => seg
  | seg :: segs => seg ++ slash :: joinSegments segs

/-- The plainest path with these components. -/
def ofComponents : List Component → Path
  | .root :: steps => ⟨slash :: joinSegments (steps.map Component.segment)⟩
  | steps => ⟨joinSegments (steps.map Component.segment)⟩

/-- The last component of a path, if it is a name. -/
def fileName? (p : Path) : Option Bytes :=
  match p.components.getLast? with
  | some (.name n) => some n
  | _ => none

/-- The path up to its last component; the root and the empty path have none. -/
def parent? (p : Path) : Option Path :=
  match p.components.getLast? with
  | none | some .root => none
  | some _ => some (ofComponents p.components.dropLast)

/-- Whether a path holds a zero byte, which no system call takes. -/
def hasNul (p : Path) : Bool := p.bytes.contains 0

end Path
end Container
