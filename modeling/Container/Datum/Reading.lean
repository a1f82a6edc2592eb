import Container.Datum
import Container.Path
import Container.Text.Double

set_option autoImplicit false

/-!
# Why a value does not fit

Taking a record of the library out of a self-describing value fails at the first thing that
does not fit. This module names the ways not to fit and words them. The two document formats
word the same mismatch alike but for two details, which a `Wording` holds.

## Main definitions

* `Datum.Found`, `Datum.Expected` — what is there, and what should be.
* `Datum.Mismatch` — why a value does not fit.
* `Datum.Wording`, `Datum.Mismatch.message` — the wording of a mismatch.
-/

namespace Container.Datum

/-- What is there, as a message names it. -/
inductive Found where
  | null
  | bool (b : Bool)
  | integer (i : Int)
  | float (bits : UInt64)
  | text (s : String)
  | bytes
  | sequence
  | map
  | extension
  deriving DecidableEq

/-- What should be there. -/
inductive Expected where
  | text
  | path
  | bool
  | sequence
  | map
  | u32
  | u64
  | i32
  /-- A record, named as in `struct Layout`. -/
  | record (name : String)
  /-- A record given as an array of its fields. -/
  | recordOf (name : String) (fields : Nat)
  /-- An array of exactly so many items. -/
  | items (count : Nat)
  /-- A record whose `type` field says which of several kinds it is. -/
  | tagged (name : String)
  | variant
  | variantIndex (count : Nat)
  | field
  deriving DecidableEq

/-- Why a value does not fit. -/
inductive Mismatch where
  /-- The document goes wrong here. -/
  | fault (f : Fault)
  | wrongType (found : Found) (expected : Expected)
  | wrongValue (found : Found) (expected : Expected)
  | wrongLength (length : Nat) (expected : Expected)
  | missingField (name : String)
  | duplicateField (name : String)
  | unknownVariant (name : String) (known : List String)
  /-- A number is wanted of a packed value whose marker rules one out. -/
  | wrongMarker (marker : MessagePack.Marker)
  deriving DecidableEq

/-! ## Wording -/

/-- The details in which the formats word a mismatch differently. -/
structure Wording where
  /-- The word for the value that stands for nothing. -/
  null : String
  /-- The style in which a fractional number is shown. -/
  float : Double.Style

/-- How many fields a record has, in words. -/
def fieldCount (n : Nat) : String := if n = 1 then "1 element" else s!"{n} elements"

/-- The words for what should be there. -/
def Expected.words : Expected → String
  | .text => "a string"
  | .path => "path string"
  | .bool => "a boolean"
  | .sequence => "a sequence"
  | .map => "a map"
  | .u32 => "u32"
  | .u64 => "u64"
  | .i32 => "i32"
  | .record name => name
  | .recordOf name n => s!"{name} with {fieldCount n}"
  | .items n => s!"{fieldCount n} in sequence"
  | .tagged name => s!"internally tagged enum {name}"
  | .variant => "variant identifier"
  | .variantIndex n => s!"variant index 0 <= i < {n}"
  | .field => "field identifier"

/-- The words for what is there. -/
def Found.words (w : Wording) : Found → String
  | .null => w.null
  | .bool b => "boolean `" ++ (if b then "true" else "false") ++ "`"
  | .integer i => s!"integer `{i}`"
  | .float bits => "floating point `" ++ w.float.render bits ++ "`"
  | .text s => "string " ++ Quoted.text s
  | .bytes => "byte array"
  | .sequence => "sequence"
  | .map => "map"
  | .extension => "newtype struct"

/-- The wording for a marker that begins no value, or not one of the type asked for. -/
def wrongMarkerMessage (marker : MessagePack.Marker) : String :=
  "wrong msgpack marker " ++ marker.name

/-- The wording of a fault of a document. -/
def Fault.message : Fault → String
  | .malformed => "malformed document"
  | .noMarker => "IO error while reading marker: failed to fill whole buffer"
  | .shortNumber => "IO error while reading data: failed to fill whole buffer"
  | .shortString => "IO error while reading data: unexpected end of file"
  | .reservedMarker => wrongMarkerMessage .reserved
  | .tooDeep => "depth limit exceeded"
  | .illFormedText f => "string found to be invalid utf8: " ++ f.message
  | .longArray n => s!"array had incorrect length, expected {n}"

/-- The wording of a mismatch. -/
def Mismatch.message (w : Wording) : Mismatch → String
  | .fault f => f.message
  | .wrongType found expected => s!"invalid type: {found.words w}, expected {expected.words}"
  | .wrongValue found expected => s!"invalid value: {found.words w}, expected {expected.words}"
  | .wrongLength n expected => s!"invalid length {n}, expected {expected.words}"
  | .missingField name => s!"missing field `{name}`"
  | .duplicateField name => s!"duplicate field `{name}`"
  | .unknownVariant name known =>
    s!"unknown variant `{name}`, expected " ++ variants known
  | .wrongMarker marker => wrongMarkerMessage marker
where
  /-- The kinds there are, in words. -/
  variants : List String → String
    | [] => "there are no variants"
    | [a] => s!"`{a}`"
    | [a, b] => s!"`{a}` or `{b}`"
    | known => "one of " ++ ", ".intercalate (known.map fun name => s!"`{name}`")

/-! ## Reading scalars -/

/-- The result of taking something out of a value. -/
abbrev Reading := Except Mismatch

/-- What a message calls a value that is not what was asked for. Where the value is no value
at all, the fault of the document is reported instead. -/
def found : Datum → Reading Found
  | .null => .ok .null
  | .bool b => .ok (.bool b)
  | .natural n _ => .ok (.integer n)
  | .integer i => .ok (.integer i)
  | .float bits => .ok (.float bits)
  | .text s => .ok (.text s)
  | .garbled bs => .error (.fault (.illFormedText ((Utf8.fault? bs).getD ⟨0, none⟩)))
  | .bytes _ => .ok .bytes
  | .extension _ => .ok .extension
  | .sequence _ => .ok .sequence
  | .map _ => .ok .map
  | .marked _ d => d.found
  | .illegible => .error (.fault .malformed)
  | .broken f => .error (.fault f)

/-- Reports that a value is not of the type asked for. -/
def refuse {α : Type} (d : Datum) (expected : Expected) : Reading α := do
  throw (.wrongType (← d.found) expected)

/-- A text; bytes count as the text they hold. -/
def readTextAs (expected : Expected) : Datum → Reading String
  | .text s => .ok s
  | .bytes bs =>
    match Utf8.text? bs with
    | some s => .ok s
    | none => .error (.wrongValue .bytes expected)
  | .marked _ d => readTextAs expected d
  | d => d.refuse expected

/-- A text. -/
def readText : Datum → Reading String := readTextAs .text

/-- A path, given as its text. -/
def readPath (d : Datum) : Reading Path := Path.ofText <$> readTextAs .path d

/-- The value that stands for a path. Only a path that is text has one. -/
def ofPath? (p : Path) : Option Datum := p.text?.map .text

/-- A path that has a value is read back from it. -/
theorem readPath_of_ofPath? {p : Path} {d : Datum} (h : ofPath? p = some d) :
    readPath d = .ok p := by
  obtain ⟨s, hs, rfl⟩ := Option.map_eq_some_iff.1 h
  simp only [readPath, readTextAs, Functor.map, Except.map, Path.ofText]
  rw [Utf8.bytes_of_text? hs]

/-- A truth value. -/
def readBool : Datum → Reading Bool
  | .bool b => .ok b
  | .marked _ d => readBool d
  | d => d.refuse .bool

/-- A whole number between two bounds. The marker of a packed field is looked at before the
field itself. -/
def readInt (low high : Int) (expected : Expected) : Datum → Reading Int
  | .natural n _ => check n
  | .integer i => check i
  | .marked marker d =>
    if marker.mayBeNumber then readInt low high expected d else .error (.wrongMarker marker)
  | d => d.refuse expected
where
  /-- Refuses a number outside the bounds. -/
  check (i : Int) : Reading Int :=
    if low ≤ i ∧ i ≤ high then .ok i else .error (.wrongValue (.integer i) expected)

/-- A natural number of sixty-four bits. -/
def readUInt64 (d : Datum) : Reading UInt64 :=
  (fun i => UInt64.ofNat i.toNat) <$> readInt 0 (2 ^ 64 - 1) .u64 d

/-- A natural number of thirty-two bits. -/
def readUInt32 (d : Datum) : Reading UInt32 :=
  (fun i => UInt32.ofNat i.toNat) <$> readInt 0 (2 ^ 32 - 1) .u32 d

/-- A whole number of thirty-two bits. -/
def readInt32 (d : Datum) : Reading Int32 :=
  Int32.ofInt <$> readInt (-2 ^ 31) (2 ^ 31 - 1) .i32 d

/-- The items of a sequence, each read as `item` says. -/
def readSequence {α : Type} (item : Datum → Reading α) : Datum → Reading (List α)
  | .sequence items => items.mapM item
  | .marked _ d => readSequence item d
  | d => d.refuse .sequence

/-- A value that may be absent. -/
def readOptional {α : Type} (value : Datum → Reading α) : Datum → Reading (Option α)
  | .null | .marked _ .null => .ok none
  | d => some <$> value d

end Container.Datum
