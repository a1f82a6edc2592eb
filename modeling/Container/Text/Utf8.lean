import Container.Powers

set_option autoImplicit false

/-!
# UTF-8 text in byte strings

Paths and documents are byte strings. This module reads text out of them: strictly, where
only well-formed UTF-8 counts as text, and leniently, where each ill-formed part is shown as
one replacement character.

## Main definitions

* `Utf8.bytes` — the bytes of a text.
* `Utf8.text?` — the text that a byte string holds, if it is well-formed.
* `Utf8.pieces` — a byte string cut into characters and ill-formed parts.
* `Utf8.lossy` — a byte string for display.
* `Utf8.fault?` — where and how a byte string stops being well-formed.

## Main results

* `Utf8.text?_bytes` — the bytes of a text hold that text.
* `Utf8.bytes_of_text?` — and no other byte string holds it.
-/

namespace Container

/-- A byte string. -/
abbrev Bytes := List UInt8

namespace Utf8

/-! ## Strict reading -/

/-- The bytes of a text. -/
def bytes (s : String) : Bytes := s.toByteArray.data.toList

/-- The text that a byte string holds, if the bytes are well-formed UTF-8. -/
def text? (bs : Bytes) : Option String := String.fromUTF8? (ByteArray.mk bs.toArray)

/-- The bytes of a text hold that text. -/
@[simp] theorem text?_bytes (s : String) : text? (bytes s) = some s := by
  have h : (ByteArray.mk (bytes s).toArray) = s.toByteArray := by simp [bytes]
  rw [text?, h, String.fromUTF8?, dif_pos s.isValidUTF8]
  rfl

/-- A text found in a byte string has exactly these bytes. -/
theorem bytes_of_text? {bs : Bytes} {s : String} (h : text? bs = some s) : bytes s = bs := by
  simp only [text?, String.fromUTF8?] at h
  split at h
  · cases h; simp [bytes, String.fromUTF8]
  · cases h

/-- A byte string holds a text exactly when it is that text's byte string. -/
theorem text?_eq_some_iff {bs : Bytes} {s : String} : text? bs = some s ↔ bytes s = bs :=
  ⟨bytes_of_text?, fun h => h ▸ text?_bytes s⟩

/-! ## Lenient reading -/

/-- Part of a byte string: a character, or bytes that belong to none. -/
inductive Piece where
  | char (c : Char)
  | broken (bs : Bytes)

/-- What a leading byte announces: how many bytes follow it, and the range the first of these
lies in, which is narrower than that of the others where a longer or a surrogate form would
begin. -/
def lead? (b : UInt8) : Option (Nat × UInt8 × UInt8) :=
  if b < 0x80 then some (0, 0x80, 0xBF)
  else if b < 0xC2 then none
  else if b < 0xE0 then some (1, 0x80, 0xBF)
  else if b = 0xE0 then some (2, 0xA0, 0xBF)
  else if b = 0xED then some (2, 0x80, 0x9F)
  else if b < 0xF0 then some (2, 0x80, 0xBF)
  else if b = 0xF0 then some (3, 0x90, 0xBF)
  else if b < 0xF4 then some (3, 0x80, 0xBF)
  else if b = 0xF4 then some (3, 0x80, 0x8F)
  else none

/-- The longest run of at most `n` following bytes, the first of them between `lo` and `hi`. -/
def following : Nat → UInt8 → UInt8 → Bytes → Bytes × Bytes
  | n + 1, lo, hi, b :: rest =>
    if lo ≤ b && b ≤ hi then
      let (run, rest') := following n 0x80 0xBF rest
      (b :: run, rest')
    else ([], b :: rest)
  | _, _, _, bs => ([], bs)

/-- The code point of a complete sequence of `1 + tail.length` bytes. -/
def codePoint (b : UInt8) (tail : Bytes) : Nat :=
  let top := match tail.length with
    | 0 => b.toNat
    | 1 => b.toNat % 32
    | 2 => b.toNat % 16
    | _ => b.toNat % 8
  tail.foldl (fun acc t => acc * 64 + t.toNat % 64) top

/-- The piece a byte string opens with, and the bytes after it. A sequence that is cut short
or interrupted is one broken piece, as far as it was well-formed. -/
def first (b : UInt8) (rest : Bytes) : Piece × Bytes :=
  match lead? b with
  | none => (.broken [b], rest)
  | some (n, lo, hi) =>
    let (run, rest') := following n lo hi rest
    if run.length = n then (.char (Char.ofNat (codePoint b run)), rest')
    else (.broken (b :: run), rest')

/-- The pieces of a byte string, at most `fuel` of them, after those already found. -/
def piecesWithin : Nat → Array Piece → Bytes → Array Piece
  | fuel + 1, found, b :: rest =>
    let (piece, rest') := first b rest
    piecesWithin fuel (found.push piece) rest'
  | _, found, _ => found

/-- A byte string cut into characters and ill-formed parts. Each piece has at least one byte,
so there are no more pieces than bytes. -/
def pieces (bs : Bytes) : List Piece := (piecesWithin bs.length #[] bs).toList

/-- The replacement character, shown for each ill-formed part. -/
def replacement : Char := Char.ofNat 0xFFFD

/-- A byte string for display. Well-formed text is shown as it is. -/
def lossy (bs : Bytes) : String :=
  match text? bs with
  | some s => s
  | none => (pieces bs).foldl (fun shown piece =>
      match piece with
      | .char c => shown.push c
      | .broken _ => shown.push replacement) ""

/-- A text is shown as it is. -/
@[simp] theorem lossy_bytes (s : String) : lossy (bytes s) = s := by simp [lossy]

/-- Where a byte string stops being well-formed: the bytes before that place, and the length
of the ill-formed part, or none where the bytes merely end too early. -/
structure Fault where
  offset : Nat
  length? : Option Nat
  deriving DecidableEq, Repr

/-- The first fault of a byte string among its first `fuel` pieces, counting offsets from
`offset`. -/
def faultWithin : Nat → Nat → Bytes → Option Fault
  | fuel + 1, offset, b :: rest =>
    match lead? b with
    | none => some ⟨offset, some 1⟩
    | some (n, lo, hi) =>
      let (run, rest') := following n lo hi rest
      if run.length = n then faultWithin fuel (offset + 1 + n) rest'
      else some ⟨offset, if rest'.isEmpty then none else some (1 + run.length)⟩
  | _, _, _ => none

/-- The first fault of a byte string, if it has one. -/
def fault? (bs : Bytes) : Option Fault := faultWithin bs.length 0 bs

/-- What is wrong at a fault, in words. -/
def Fault.message (f : Fault) : String :=
  match f.length? with
  | some n => s!"invalid utf-8 sequence of {n} bytes from index {f.offset}"
  | none => s!"incomplete utf-8 byte sequence from index {f.offset}"

end Utf8
end Container
