import Container.MessagePack.Marker

set_option autoImplicit false

/-!
# Self-describing values

Both document formats of this library, JSON text and MessagePack bytes, are read into one type
of self-describing values and written from it. A document that goes wrong somewhere is still
read up to that place: the value then holds a `broken` part there. Whoever takes the value
apart from left to right so meets the first fault of the document exactly where it is, after
everything that is wrong for another reason before it.

## Main definitions

* `Datum` — a self-describing value.
* `Datum.Width` — how wide a natural number was written.
* `Datum.Fault` — why a document cannot be read beyond a place.
* `Datum.fault?` — the first fault of a value that is passed over unread.
-/

namespace Container

namespace Datum

/-- How many bits a natural number was written with. -/
inductive Width where
  | w8 | w16 | w32 | w64
  deriving DecidableEq, Repr

/-- The least width that holds a number. -/
def Width.least (n : Nat) : Width :=
  if n < 2 ^ 8 then .w8 else if n < 2 ^ 16 then .w16 else if n < 2 ^ 32 then .w32 else .w64

/-- Why a document cannot be read beyond a place. -/
inductive Fault where
  /-- The text breaks the grammar of its format. -/
  | malformed
  /-- The bytes end where a value should begin. -/
  | noMarker
  /-- The bytes end inside a number. -/
  | shortNumber
  /-- The bytes end inside a string. -/
  | shortString
  /-- A value begins with the one byte that begins none. -/
  | reservedMarker
  /-- Too many values lie inside one another. -/
  | tooDeep
  /-- A string is not well-formed text. -/
  | illFormedText (f : Utf8.Fault)
  /-- An array has more items than its reader takes. -/
  | longArray (expected : Nat)
  deriving DecidableEq, Repr

end Datum

/-- A self-describing value. -/
inductive Datum where
  | null
  | bool (b : Bool)
  /-- A number that was written without a sign. -/
  | natural (n : Nat) (width : Datum.Width)
  /-- A number that was written with a sign. -/
  | integer (i : Int)
  /-- A binary64 number, by its bits. -/
  | float (bits : UInt64)
  | text (s : String)
  /-- A string that is not well-formed text. -/
  | garbled (bs : Bytes)
  | bytes (bs : Bytes)
  /-- A value of a type that the format leaves to its users, with the fault of its content. -/
  | extension (content : Option Datum.Fault)
  | sequence (items : List Datum)
  | map (entries : List (Datum × Datum))
  /-- A field of a packed record, with the marker that it begins with. -/
  | marked (marker : MessagePack.Marker) (value : Datum)
  /-- A well-formed string or number that denotes no text or number. -/
  | illegible
  /-- The place where the document goes wrong. -/
  | broken (f : Datum.Fault)

namespace Datum

instance : Inhabited Datum := ⟨.null⟩

/-- A natural number in its least width. -/
def nat (n : Nat) : Datum := .natural n (.least n)

/-- A whole number: without a sign unless it is negative. -/
def int (i : Int) : Datum := if 0 ≤ i then nat i.toNat else .integer i

/-- A record: its fields by name, in order. -/
def record (fields : List (String × Datum)) : Datum :=
  .map (fields.map fun (name, value) => (.text name, value))

mutual

/-- The fault of a value that is passed over: anything well-formed may be. -/
def fault? : Datum → Option Fault
  | .broken f => some f
  | .extension content => content
  | .marked _ value => value.fault?
  | .sequence items => faultOfItems? items
  | .map entries => faultOfEntries? entries
  | _ => none

/-- The first fault among items. -/
def faultOfItems? : List Datum → Option Fault
  | [] => none
  | item :: items =>
    match item.fault? with
    | some f => some f
    | none => faultOfItems? items

/-- The first fault among entries, a key before its value. -/
def faultOfEntries? : List (Datum × Datum) → Option Fault
  | [] => none
  | (key, value) :: entries =>
    match key.fault?, value.fault? with
    | some f, _ | none, some f => some f
    | none, none => faultOfEntries? entries

end

end Datum
end Container
