import Container.Text.Utf8

set_option autoImplicit false

/-!
# MessagePack markers

The first byte of a MessagePack value says what the value is and either how large it is or how
many bytes after it say so.

## Main definitions

* `MessagePack.Extent` — a size, given at once or by the bytes that follow.
* `MessagePack.Marker` — what a first byte announces.
* `MessagePack.Marker.of` — the marker that a byte stands for.
* `MessagePack.Marker.mayBeNumber` — whether a value that begins with a marker is a scalar.
* `MessagePack.Marker.name` — the name of a marker.
* `MessagePack.bigEndian`, `MessagePack.bigEndianBytes` — numbers as bytes, the highest first.

## Main results

* `MessagePack.bigEndian_bigEndianBytes` — what was written in enough bytes is read back.
-/

namespace Container.MessagePack

/-- The number that bytes denote, the highest byte first. -/
def bigEndian (bs : Bytes) : Nat := bs.foldl (fun n b => n * 256 + b.toNat) 0

/-- The lowest `size` bytes of a number, the highest of them first. -/
def bigEndianBytes : Nat → Nat → Bytes
  | 0, _ => []
  | size + 1, n => bigEndianBytes size (n / 256) ++ [UInt8.ofNat n]

@[simp] theorem length_bigEndianBytes (size n : Nat) : (bigEndianBytes size n).length = size := by
  induction size generalizing n with
  | zero => rfl
  | succ size ih => simp [bigEndianBytes, ih]

/-- What was written in enough bytes is read back. -/
theorem bigEndian_bigEndianBytes {size n : Nat} (h : n < 256 ^ size) :
    bigEndian (bigEndianBytes size n) = n := by
  induction size generalizing n with
  | zero => simp at h; simp [bigEndianBytes, bigEndian, h]
  | succ size ih =>
    have hn : n / 256 < 256 ^ size :=
      Nat.div_lt_of_lt_mul (by rw [Nat.pow_succ] at h; omega)
    have := ih hn
    simp only [bigEndian, bigEndianBytes, List.foldl_append, List.foldl_cons, List.foldl_nil] at *
    rw [this]
    simp
    omega

/-- How large something is: known at once, or told by so many bytes that follow. -/
inductive Extent where
  | known (size : Nat)
  | told (bytes : Nat)
  deriving DecidableEq, Repr

/-- What a first byte announces. -/
inductive Marker where
  | null
  | reserved
  | bool (b : Bool)
  /-- A natural number below 128, which is the byte itself. -/
  | smallNatural (n : Nat)
  /-- A negative number from -32 up. -/
  | smallNegative (i : Int)
  /-- A natural number in so many bytes. -/
  | natural (bytes : Nat)
  /-- A number with a sign in so many bytes. -/
  | integer (bytes : Nat)
  /-- A binary32 number. -/
  | single
  /-- A binary64 number. -/
  | double
  | text (size : Extent)
  | bytes (size : Extent)
  | extension (size : Extent)
  | array (size : Extent)
  | map (size : Extent)
  deriving DecidableEq, Repr

/-- The marker that a byte stands for. -/
def Marker.of (b : UInt8) : Marker :=
  let n := b.toNat
  if n < 0x80 then .smallNatural n
  else if n < 0x90 then .map (.known (n - 0x80))
  else if n < 0xA0 then .array (.known (n - 0x90))
  else if n < 0xC0 then .text (.known (n - 0xA0))
  else if 0xE0 ≤ n then .smallNegative ((n : Int) - 256)
  else match n with
    | 0xC0 => .null
    | 0xC2 => .bool false
    | 0xC3 => .bool true
    | 0xC4 => .bytes (.told 1)
    | 0xC5 => .bytes (.told 2)
    | 0xC6 => .bytes (.told 4)
    | 0xC7 => .extension (.told 1)
    | 0xC8 => .extension (.told 2)
    | 0xC9 => .extension (.told 4)
    | 0xCA => .single
    | 0xCB => .double
    | 0xCC => .natural 1
    | 0xCD => .natural 2
    | 0xCE => .natural 4
    | 0xCF => .natural 8
    | 0xD0 => .integer 1
    | 0xD1 => .integer 2
    | 0xD2 => .integer 4
    | 0xD3 => .integer 8
    | 0xD4 => .extension (.known 1)
    | 0xD5 => .extension (.known 2)
    | 0xD6 => .extension (.known 4)
    | 0xD7 => .extension (.known 8)
    | 0xD8 => .extension (.known 16)
    | 0xD9 => .text (.told 1)
    | 0xDA => .text (.told 2)
    | 0xDB => .text (.told 4)
    | 0xDC => .array (.told 2)
    | 0xDD => .array (.told 4)
    | 0xDE => .map (.told 2)
    | 0xDF => .map (.told 4)
    | _ => .reserved

/-- Whether a value that begins with the marker is looked at where a number is wanted. Strings,
containers and extensions are not: their marker alone tells that they are none. -/
def Marker.mayBeNumber : Marker → Bool
  | .reserved | .text .. | .bytes .. | .extension .. | .array .. | .map .. => false
  | _ => true

/-- The name of a marker with a size. A size known at once stands in parentheses, unless the
name is made for that `single` size. -/
def sizedName (name : String) (single : Bool) : Extent → String
  | .known n => "Fix" ++ name ++ (if single then toString n else s!"({n})")
  | .told bytes => name ++ toString (8 * bytes)

/-- The name of a marker. -/
def Marker.name : Marker → String
  | .null => "Null"
  | .reserved => "Reserved"
  | .bool b => if b then "True" else "False"
  | .smallNatural n => s!"FixPos({n})"
  | .smallNegative i => s!"FixNeg({i})"
  | .natural count => s!"U{8 * count}"
  | .integer count => s!"I{8 * count}"
  | .single => "F32"
  | .double => "F64"
  | .text size => sizedName "Str" false size
  | .bytes size => sizedName "Bin" false size
  | .extension size => sizedName "Ext" true size
  | .array size => sizedName "Array" false size
  | .map size => sizedName "Map" false size

end Container.MessagePack
