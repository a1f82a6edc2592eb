import Container.Datum.Reading

set_option autoImplicit false

/-!
# Reading records

A record is given either as a map from field names to values or as an array of its values in
order. Entries are looked at one after the other, and the first that does not fit decides:
fields nobody knows are passed over, a known field that comes twice is refused, and what is
missing is noticed at the end.

The fields are first collected by name, each checked to be readable, and then read from that
collection. So the order in which a document gives them can matter only for which of several
mismatches is reported.

## Main definitions

* `Datum.Source` — how a value came to its reader.
* `Datum.Field`, `Datum.Shape` — what a record looks like.
* `Datum.Shape.collect` — the fields of a record found in a value.
* `Datum.Fields.required`, `Datum.Fields.optional`, `Datum.Fields.withDefault` — a collected field.
* `Datum.Variants.read` — a record whose `type` field says which of several kinds it is.
-/

namespace Container.Datum

/-- How a value came to its reader: straight out of a document in one of the formats, or after
being held back until the kind of the record around it was known. -/
inductive Source where
  | json
  | packed
  | held
  deriving DecidableEq

/-- What the absence of a field from an array of fields means. -/
inductive Absence where
  /-- The array is too short. -/
  | refused
  /-- The field has its default, as has any field after it. -/
  | defaulted
  deriving DecidableEq

/-- A field of a record: its name, what its absence means, and which values it takes. -/
structure Field where
  name : String
  absence : Absence
  check : Datum → Reading Unit

/-- A field that takes the values that `read` reads. -/
def Field.of {α : Type} (name : String) (read : Datum → Reading α)
    (absence : Absence := .refused) : Field :=
  ⟨name, absence, fun d => (fun _ => ()) <$> read d⟩

/-- What a record looks like. -/
structure Shape where
  name : String
  fields : List Field

/-- The names of the fields of a shape. -/
def Shape.names (shape : Shape) : List String := shape.fields.map (·.name)

/-- Fields found in a value, by name. -/
abbrev Fields := List (String × Datum)

/-- Which of some names a key stands for, if any. A key is a name or, in packed documents, its
bytes or its index; an index that was held back must have been written in eight or in
sixty-four bits. -/
def keyIndex? (source : Source) (names : List String) (key : Datum) : Reading (Option Nat) :=
  match key with
  | .text s => .ok (names.idxOf? s)
  | .bytes bs | .garbled bs => .ok (names.findIdx? fun name => Utf8.bytes name = bs)
  | .natural n width =>
    if source = .held ∧ (width = .w16 ∨ width = .w32) then key.refuse .field
    else .ok (if n < names.length then some n else none)
  | _ => key.refuse .field

/-! ## Collecting fields -/

/-- Collects the fields of a record from entries, after those already found. -/
def Shape.collectEntries (shape : Shape) (source : Source) :
    Fields → List (Datum × Datum) → Reading Fields
  | found, [] => .ok found
  | found, (key, value) :: entries => do
    let index? ← keyIndex? source shape.names key
    match index?.bind (shape.fields[·]?) with
    | none =>
      match value.fault? with
      | some f => throw (.fault f)
      | none => shape.collectEntries source found entries
    | some field =>
      if found.any (fun (name, _) => name = field.name) then throw (.duplicateField field.name)
      field.check value
      shape.collectEntries source (found ++ [(field.name, value)]) entries

/-- What a record with `length` items, the last of them not wanted, is refused with. -/
def tooLong (source : Source) (wanted length : Nat) : Mismatch :=
  match source with
  | .json => .fault .malformed
  | .packed => .fault (.longArray wanted)
  | .held => .wrongLength length (.items wanted)

/-- Collects the fields of a record from items in the order of the fields, of which `found`
are there already. -/
def Shape.collectItems (shape : Shape) (source : Source) :
    Fields → List Field → List Datum → Reading Fields
  | found, [], [] => .ok found
  | found, [], extra => throw (tooLong source found.length (found.length + extra.length))
  | found, field :: fields, [] =>
    match field.absence with
    | .refused => throw (.wrongLength found.length (.recordOf shape.name shape.fields.length))
    | .defaulted => shape.collectItems source found fields []
  | found, field :: fields, item :: items => do
    field.check item
    shape.collectItems source (found ++ [(field.name, item)]) fields items

/-- The fields of a record found in a value. Packed bytes count as the array of their
numbers. -/
def Shape.collect (shape : Shape) (source : Source) : Datum → Reading Fields
  | .map entries => shape.collectEntries source [] entries
  | .sequence items => shape.collectItems source [] shape.fields items
  | .bytes bs =>
    if source = .packed then
      shape.collectItems source [] shape.fields (bs.map fun b => .natural b.toNat .w8)
    else refuse (.bytes bs) (.record shape.name)
  | .marked _ d => shape.collect source d
  | d => d.refuse (.record shape.name)

namespace Fields

/-- The value of a field, if it was found. -/
def value? (found : Fields) (name : String) : Option Datum := found.lookup name

/-- A field that has to be there. -/
def required {α : Type} (found : Fields) (name : String) (read : Datum → Reading α) :
    Reading α :=
  match found.value? name with
  | some d => read d
  | none => throw (.missingField name)

/-- A field that may be missing and then has a default. -/
def withDefault {α : Type} (found : Fields) (name : String) (default : α)
    (read : Datum → Reading α) : Reading α :=
  match found.value? name with
  | some d => read d
  | none => .ok default

/-- A field that may be missing, or null. -/
def optional {α : Type} (found : Fields) (name : String) (read : Datum → Reading α) :
    Reading (Option α) :=
  found.withDefault name none (readOptional read)

end Fields

/-! ## Holding a value back -/

/-- How many values may lie inside one another in a value that is held back, where the reader
of the format has not seen to that already. -/
def heldDepth : Source → Option Nat
  | .json => some 127
  | _ => none

mutual

/-- Holds a value back: every part of it has to be legible, and with a bound on the depth no
more than that many values may lie inside one another. -/
def hold (depth : Option Nat) : Datum → Reading Datum
  | .sequence items =>
    if depth = some 0 then throw (.fault .malformed)
    else return .sequence (← holdItems (depth.map (· - 1)) items [])
  | .map entries =>
    if depth = some 0 then throw (.fault .malformed)
    else return .map (← holdEntries (depth.map (· - 1)) entries [])
  | .garbled bs => .ok (.bytes bs)
  | .marked _ d => d.hold depth
  | .extension none => .ok (.extension none)
  | .extension (some f) => throw (.fault f)
  | .illegible => throw (.fault .malformed)
  | .broken f => throw (.fault f)
  | d => .ok d

/-- Holds items back, after those in `held`, which are in reverse. -/
def holdItems (depth : Option Nat) : List Datum → List Datum → Reading (List Datum)
  | [], held => .ok held.reverse
  | item :: items, held => do
    let item ← item.hold depth
    holdItems depth items (item :: held)

/-- Holds entries back, after those in `held`, which are in reverse. -/
def holdEntries (depth : Option Nat) :
    List (Datum × Datum) → List (Datum × Datum) → Reading (List (Datum × Datum))
  | [], held => .ok held.reverse
  | (key, value) :: entries, held => do
    let key ← key.hold depth
    let value ← value.hold depth
    holdEntries depth entries ((key, value) :: held)

end

/-! ## Records of several kinds -/

/-- The kinds of a tagged record: the name of the record, the names of its kinds, and how the
content of each is read once it has been held back. -/
structure Variants (α : Type) where
  name : String
  kinds : List (String × (Datum → Reading α))

namespace Variants

variable {α : Type}

/-- The name of the field that says of which kind a record is. -/
def tag : String := "type"

/-- The names of the kinds. -/
def names (variants : Variants α) : List String := variants.kinds.map (·.1)

/-- Which kind a tag names. In a packed document it may do so by index. -/
def kindIndex (variants : Variants α) (source : Source) (d : Datum) : Reading Nat :=
  match d with
  | .text s =>
    match variants.names.idxOf? s with
    | some i => .ok i
    | none => throw (.unknownVariant s variants.names)
  | .bytes bs =>
    match variants.names.findIdx? fun name => Utf8.bytes name = bs with
    | some i => .ok i
    | none => throw (.unknownVariant (Utf8.lossy bs) variants.names)
  | .natural n _ =>
    if source = .json then d.refuse .variant
    else if n < variants.kinds.length then .ok n
    else throw (.wrongValue (.integer n) (.variantIndex variants.kinds.length))
  | _ => d.refuse .variant

/-- Whether a key is that of the tag. -/
def isTag : Datum → Bool
  | .text s => s = tag
  | .bytes bs | .garbled bs => Utf8.bytes tag = bs
  | _ => false

/-- Finds the kind of a record among its entries and holds the other entries back, in
reverse. -/
def split (variants : Variants α) (source : Source) :
    Option Nat → List (Datum × Datum) → List (Datum × Datum) →
    Reading (Option Nat × List (Datum × Datum))
  | kind, held, [] => .ok (kind, held.reverse)
  | kind, held, (key, value) :: entries => do
    let depth := (heldDepth source).map (· - 1)
    if isTag key then
      if kind.isSome then throw (.duplicateField tag)
      let i ← variants.kindIndex source value
      variants.split source (some i) held entries
    else
      let key ← key.hold depth
      let value ← value.hold depth
      variants.split source kind ((key, value) :: held) entries

/-- Reads the content of a record of the kind with this index. -/
def content (variants : Variants α) (kind : Nat) (d : Datum) : Reading α :=
  match variants.kinds[kind]? with
  | some (_, read) => read d
  | none => throw (.missingField tag)

/-- A record of one of several kinds: a map with the tag among its entries, or an array that
begins with it. -/
def read (variants : Variants α) (source : Source) (d : Datum) : Reading α := do
  match d with
  | .map entries =>
    match ← variants.split source none [] entries with
    | (none, _) => throw (.missingField tag)
    | (some kind, held) => variants.content kind (.map held)
  | .sequence [] => throw (.missingField tag)
  | .sequence (kind :: items) =>
    let kind ← variants.kindIndex source kind
    let held ← holdItems ((heldDepth source).map (· - 1)) items []
    variants.content kind (.sequence held)
  | _ => d.refuse (.tagged variants.name)

/-- The content of a kind that has no fields: any map, or an empty array. -/
def noContent (value : α) : Datum → Reading α
  | .sequence [] => .ok value
  | .sequence items => throw (.wrongLength items.length (.items 0))
  | _ => .ok value

end Variants
end Container.Datum
