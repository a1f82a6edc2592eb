import Container.MessagePack.Marker
import Container.Datum

set_option autoImplicit false

/-!
# Writing MessagePack bytes

Numbers, strings and sizes are written in the shortest form that holds them.

## Main definitions

* `MessagePack.encode` — the bytes of a value.
-/

namespace Container.MessagePack

/-- A natural number. -/
def encodeNatural (n : Nat) : Bytes :=
  if n < 2 ^ 7 then [UInt8.ofNat n]
  else if n < 2 ^ 8 then 0xCC :: bigEndianBytes 1 n
  else if n < 2 ^ 16 then 0xCD :: bigEndianBytes 2 n
  else if n < 2 ^ 32 then 0xCE :: bigEndianBytes 4 n
  else 0xCF :: bigEndianBytes 8 n

/-- A negative number, by its magnitude. -/
def encodeNegative (n : Nat) : Bytes :=
  if n ≤ 2 ^ 5 then [UInt8.ofNat (2 ^ 8 - n)]
  else if n ≤ 2 ^ 7 then 0xD0 :: bigEndianBytes 1 (2 ^ 8 - n)
  else if n ≤ 2 ^ 15 then 0xD1 :: bigEndianBytes 2 (2 ^ 16 - n)
  else if n ≤ 2 ^ 31 then 0xD2 :: bigEndianBytes 4 (2 ^ 32 - n)
  else 0xD3 :: bigEndianBytes 8 (2 ^ 64 - n)

/-- A whole number. One that is not negative is written without a sign. -/
def encodeInteger (i : Int) : Bytes :=
  if 0 ≤ i then encodeNatural i.toNat else encodeNegative i.natAbs

/-- The head of a string of so many bytes. -/
def textHead (size : Nat) : Bytes :=
  if size < 2 ^ 5 then [UInt8.ofNat (0xA0 + size)]
  else if size < 2 ^ 8 then 0xD9 :: bigEndianBytes 1 size
  else if size < 2 ^ 16 then 0xDA :: bigEndianBytes 2 size
  else 0xDB :: bigEndianBytes 4 size

/-- The head of a byte string of so many bytes. -/
def bytesHead (size : Nat) : Bytes :=
  if size < 2 ^ 8 then 0xC4 :: bigEndianBytes 1 size
  else if size < 2 ^ 16 then 0xC5 :: bigEndianBytes 2 size
  else 0xC6 :: bigEndianBytes 4 size

/-- The head of an array of so many items. -/
def arrayHead (size : Nat) : Bytes :=
  if size < 2 ^ 4 then [UInt8.ofNat (0x90 + size)]
  else if size < 2 ^ 16 then 0xDC :: bigEndianBytes 2 size
  else 0xDD :: bigEndianBytes 4 size

/-- The head of a map of so many entries. -/
def mapHead (size : Nat) : Bytes :=
  if size < 2 ^ 4 then [UInt8.ofNat (0x80 + size)]
  else if size < 2 ^ 16 then 0xDE :: bigEndianBytes 2 size
  else 0xDF :: bigEndianBytes 4 size

mutual

/-- The bytes of a value. Values that the format has no form for are written as null. -/
def encode : Datum → Bytes
  | .bool b => [if b then 0xC3 else 0xC2]
  | .natural n _ => encodeNatural n
  | .integer i => encodeInteger i
  | .float bits => 0xCB :: bigEndianBytes 8 bits.toNat
  | .text s => let bs := Utf8.bytes s; textHead bs.length ++ bs
  | .garbled bs => textHead bs.length ++ bs
  | .bytes bs => bytesHead bs.length ++ bs
  | .sequence items => arrayHead items.length ++ encodeItems items
  | .map entries => mapHead entries.length ++ encodeEntries entries
  | .marked _ d => encode d
  | _ => [0xC0]

/-- The bytes of items, one after the other. -/
def encodeItems : List Datum → Bytes
  | [] => []
  | item :: items => encode item ++ encodeItems items

/-- The bytes of entries, one after the other, each key before its value. -/
def encodeEntries : List (Datum × Datum) → Bytes
  | [] => []
  | (key, value) :: entries => encode key ++ (encode value ++ encodeEntries entries)

end

end Container.MessagePack
