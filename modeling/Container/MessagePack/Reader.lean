import Container.MessagePack.Marker
import Container.Datum.Reading

set_option autoImplicit false

/-!
# Reading MessagePack bytes

Bytes are read into a self-describing value. Where they go wrong, the value is broken there
and reading stops. Arrays, maps and extensions may lie inside one another only up to a bound.

## Main definitions

* `MessagePack.readValue` — the value that bytes begin with.
* `MessagePack.readRecord` — the same, the fields of a record with their markers.
* `MessagePack.decode`, `MessagePack.decodeRecord` — what a reader of values makes of it; bytes
  after it are ignored.
-/

namespace Container.MessagePack

/-- A value, and the bytes after it unless they go wrong within the value. -/
abbrev Read := Datum × Option Bytes

/-- The answer where the bytes go wrong. -/
def stray (f : Datum.Fault) : Read := (.broken f, none)

/-- The first `n` bytes and the rest, if there are so many. -/
def takeBytes? (n : Nat) (bs : Bytes) : Option (Bytes × Bytes) :=
  let taken := bs.take n
  if taken.length = n then some (taken, bs.drop n) else none

/-- The first `size` bytes are there to be taken. -/
theorem takeBytes?_append {n : Nat} {xs : Bytes} (h : xs.length = n) (bs : Bytes) :
    takeBytes? n (xs ++ bs) = some (xs, bs) := by
  subst h; simp [takeBytes?]

/-- The number with a sign that so many bits denote. -/
def signed (bits n : Nat) : Int := if n < 2 ^ (bits - 1) then n else (n : Int) - 2 ^ bits

/-- The width of a number of so many bytes. -/
def widthOf : Nat → Datum.Width
  | 1 => .w8
  | 2 => .w16
  | 4 => .w32
  | _ => .w64

/-- A number of so many bytes, and what follows it. -/
def readNumber (bytes : Nat) (bs : Bytes) (value : Nat → Datum) : Read :=
  match takeBytes? bytes bs with
  | some (taken, rest) => (value (bigEndian taken), some rest)
  | none => stray .shortNumber

/-- The size of something, and what follows it, for `next` to go on with. -/
def withExtent (size : Extent) (bs : Bytes) (next : Nat → Bytes → Read) : Read :=
  match size with
  | .known n => next n bs
  | .told bytes =>
    match takeBytes? bytes bs with
    | some (taken, rest) => next (bigEndian taken) rest
    | none => stray .shortNumber

/-- A run of `n` bytes, and what follows it. -/
def readRun (value : Bytes → Datum) (n : Nat) (bs : Bytes) : Read :=
  match takeBytes? n bs with
  | some (taken, rest) => (value taken, some rest)
  | none => stray .shortString

/-- The string that bytes hold, if they are well-formed text. -/
def textOrGarbled (bs : Bytes) : Datum :=
  match Utf8.text? bs with
  | some s => .text s
  | none => .garbled bs

/-- The content of an extension: one byte for its type, and its data. -/
def readExtension (n : Nat) (bs : Bytes) : Read :=
  match bs with
  | [] => (.extension (some .shortNumber), none)
  | _ :: bs =>
    match takeBytes? n bs with
    | some (_, rest) => (.extension none, some rest)
    | none => (.extension (some .shortString), none)

/-- So many items, each read by `item`, after those already read, which are in reverse. -/
def readItems (item : Bytes → Read) : Nat → List Datum → Bytes → Read
  | 0, items, bs => (.sequence items.reverse, some bs)
  | n + 1, items, bs =>
    match item bs with
    | (d, none) => (.sequence (d :: items).reverse, none)
    | (d, some rest) => readItems item n (d :: items) rest

/-- So many entries, their keys read by `key` and their values by `item`, after those already
read, which are in reverse. -/
def readEntries (key item : Bytes → Read) : Nat → List (Datum × Datum) → Bytes → Read
  | 0, entries, bs => (.map entries.reverse, some bs)
  | n + 1, entries, bs =>
    match key bs with
    | (d, none) => (.map ((d, .null) :: entries).reverse, none)
    | (d, some rest) =>
      match item rest with
      | (value, none) => (.map ((d, value) :: entries).reverse, none)
      | (value, some rest) => readEntries key item n ((d, value) :: entries) rest

/-- The value that bytes begin with, where at most `depth` values may lie around one another
in it. -/
def readValue (depth : Nat) : Bytes → Read
  | [] => stray .noMarker
  | b :: bs =>
    match Marker.of b with
    | .null => (.null, some bs)
    | .reserved => stray .reservedMarker
    | .bool value => (.bool value, some bs)
    | .smallNatural n => (.natural n .w8, some bs)
    | .smallNegative i => (.integer i, some bs)
    | .natural size => readNumber size bs fun n => .natural n (widthOf size)
    | .integer size => readNumber size bs fun n => .integer (signed (8 * size) n)
    | .single => readNumber 4 bs fun n =>
        .float (Float32.ofBits (UInt32.ofNat n)).toFloat.toBits
    | .double => readNumber 8 bs fun n => .float (UInt64.ofNat n)
    | .text size => withExtent size bs (readRun textOrGarbled)
    | .bytes size => withExtent size bs (readRun .bytes)
    | .extension size =>
      withExtent size bs fun n bs =>
        match depth with
        | 0 => stray .tooDeep
        | _ + 1 => readExtension n bs
    | .array size =>
      withExtent size bs fun n bs =>
        match depth with
        | 0 => stray .tooDeep
        | depth + 1 => readItems (readValue depth) n [] bs
    | .map size =>
      withExtent size bs fun n bs =>
        match depth with
        | 0 => stray .tooDeep
        | depth + 1 => readEntries (readValue depth) (readValue depth) n [] bs

/-- Where there are no bytes, a marker is missing. -/
theorem readValue_nil (depth : Nat) : readValue depth [] = stray .noMarker := by
  simp only [readValue]

/-- How many values may lie around one another. -/
def depthLimit : Nat := 1023

/-- The value that bytes begin with. -/
def read (bs : Bytes) : Read := readValue depthLimit bs

/-- The value that bytes begin with, together with its marker. -/
def readMarked (depth : Nat) : Bytes → Read
  | [] => stray .noMarker
  | b :: bs =>
    let (d, rest) := readValue depth (b :: bs)
    (.marked (Marker.of b) d, rest)

/-- The record that bytes begin with: its fields come with their markers. -/
def readRecord : Bytes → Read
  | [] => stray .noMarker
  | b :: bs =>
    let field := readMarked (depthLimit - 1)
    match Marker.of b with
    | .array size => withExtent size bs fun n bs => readItems field n [] bs
    | .map size =>
      withExtent size bs fun n bs => readEntries (readValue (depthLimit - 1)) field n [] bs
    | _ => read (b :: bs)

/-- How a mismatch is worded for MessagePack bytes. -/
def wording : Datum.Wording := ⟨"unit value", .plain⟩

/-- Reads what `reader` makes of the value that bytes begin with. -/
def decode {α : Type} (reader : Datum → Datum.Reading α) (bs : Bytes) : Datum.Reading α :=
  reader (read bs).1

/-- Reads what `reader` makes of the record that bytes begin with. -/
def decodeRecord {α : Type} (reader : Datum → Datum.Reading α) (bs : Bytes) :
    Datum.Reading α :=
  reader (readRecord bs).1

end Container.MessagePack
