import Container.Json.Number
import Container.Datum.Reading

set_option autoImplicit false

/-!
# Reading JSON text

A text is read into a self-describing value. Where it breaks the grammar, the value is broken
there and reading stops; a string or number that keeps the grammar but denotes nothing, such
as half of a surrogate pair, is illegible. So a reader that passes such a value over never
notices, while one that wants it does.

## Main definitions

* `Json.readString` — a string after its opening quote.
* `Json.readValue` — the value a text begins with.
* `Json.parse` — a whole text, taken apart by a reader of values.
* `Json.Error` — why a text is refused.
-/

namespace Container.Json

/-- The bytes of the marks of the grammar. -/
def quote : UInt8 := 0x22
def backslash : UInt8 := 0x5C
def comma : UInt8 := 0x2C
def colon : UInt8 := 0x3A
def openBracket : UInt8 := 0x5B
def closeBracket : UInt8 := 0x5D
def openBrace : UInt8 := 0x7B
def closeBrace : UInt8 := 0x7D

/-- Whether a byte is blank between tokens. -/
def isBlank (b : UInt8) : Bool := b == 0x20 || b == 0x0A || b == 0x0D || b == 0x09

/-- A text after its leading blanks. -/
def skipBlanks (bs : Bytes) : Bytes := bs.dropWhile isBlank

/-! ## Strings -/

/-- The value of a hexadecimal digit. -/
def hexValue? (b : UInt8) : Option Nat :=
  if 0x30 ≤ b && b ≤ 0x39 then some (b.toNat - 0x30)
  else if 0x41 ≤ b && b ≤ 0x46 then some (b.toNat - 0x37)
  else if 0x61 ≤ b && b ≤ 0x66 then some (b.toNat - 0x57)
  else none

/-- The value of four hexadecimal digits. -/
def hexQuad? (a b c d : UInt8) : Option Nat := do
  let a ← hexValue? a
  let b ← hexValue? b
  let c ← hexValue? c
  let d ← hexValue? d
  return ((a * 16 + b) * 16 + c) * 16 + d

/-- The byte that a one-letter escape stands for. -/
def simpleEscape? (b : UInt8) : Option UInt8 :=
  match b with
  | 0x22 => some 0x22
  | 0x5C => some 0x5C
  | 0x2F => some 0x2F
  | 0x62 => some 0x08
  | 0x66 => some 0x0C
  | 0x6E => some 0x0A
  | 0x72 => some 0x0D
  | 0x74 => some 0x09
  | _ => none

/-- What has been read of a string: its bytes in reverse, the first half of a surrogate pair
that waits for the second, and whether everything so far denotes text. -/
structure Gathered where
  reversed : Bytes
  waiting : Option Nat
  legible : Bool

namespace Gathered

/-- Nothing read yet. -/
def start : Gathered := ⟨[], none, true⟩

/-- Adds bytes. A half pair that waits has waited in vain. -/
def add (p : Gathered) (bs : Bytes) : Gathered :=
  ⟨bs.reverse ++ p.reversed, none, p.legible && p.waiting.isNone⟩

/-- Adds the unit of an escape. -/
def addUnit (p : Gathered) (unit : Nat) : Gathered :=
  if 0xDC00 ≤ unit ∧ unit < 0xE000 then
    match p.waiting with
    | some high =>
      let c := Char.ofNat (0x10000 + (high - 0xD800) * 0x400 + (unit - 0xDC00))
      { p with waiting := none }.add (Utf8.bytes c.toString)
    | none => { p with legible := false }
  else if 0xD800 ≤ unit ∧ unit < 0xDC00 then
    ⟨p.reversed, some unit, p.legible && p.waiting.isNone⟩
  else p.add (Utf8.bytes (Char.ofNat unit).toString)

/-- The string read. -/
def finish (p : Gathered) : Datum :=
  if p.legible && p.waiting.isNone then
    match Utf8.text? p.reversed.reverse with
    | some s => .text s
    | none => .illegible
  else .illegible

end Gathered

/-- A value, and the text after it unless the text goes wrong within the value. -/
abbrev Read := Datum × Option Bytes

/-- The answer where a text goes wrong. -/
def stray : Read := (.broken .malformed, none)

/-- The rest of a string, up to its closing quote. -/
def readString (p : Gathered) : Bytes → Read
  | [] => stray
  | b :: bs =>
    if b = quote then (p.finish, some bs)
    else if b = backslash then
      match bs with
      | [] => stray
      | 0x75 :: h1 :: h2 :: h3 :: h4 :: bs =>
        match hexQuad? h1 h2 h3 h4 with
        | some unit => readString (p.addUnit unit) bs
        | none => stray
      | e :: bs =>
        match simpleEscape? e with
        | some b => readString (p.add [b]) bs
        | none => stray
    else if b < 0x20 then stray
    else readString (p.add [b]) bs

/-! ## Values -/

/-- A word of the grammar and its value. -/
def readWord (word : String) (value : Datum) (bs : Bytes) : Read :=
  let letters := Utf8.bytes word
  if letters.isPrefixOf bs then (value, some (bs.drop letters.length)) else stray

/-- A value that is neither a sequence nor a map. -/
def readScalar (bs : Bytes) : Read :=
  match bs with
  | [] => stray
  | b :: rest =>
    if b = quote then readString .start rest
    else if b = 0x6E then readWord "null" .null bs
    else if b = 0x74 then readWord "true" (.bool true) bs
    else if b = 0x66 then readWord "false" (.bool false) bs
    else
      match Numeral.scan bs with
      | some (x, rest) => (x.value, some rest)
      | none => stray

/-- The key of an entry. -/
def readKey : Bytes → Read
  | [] => stray
  | b :: bs => if b = quote then readString .start bs else stray

/-- What stands after an item or an entry: its end, another one, or nothing that may. -/
inductive Follow where
  | closed (rest : Bytes)
  | another (rest : Bytes)
  | wrong

/-- What stands after an item or an entry of something that `close` ends. -/
def follow (close : UInt8) (bs : Bytes) : Follow :=
  match skipBlanks bs with
  | [] => .wrong
  | b :: bs =>
    if b = close then .closed bs
    else if b = comma then .another (skipBlanks bs)
    else .wrong

mutual

/-- The value a text begins with, where at most `fuel` values may be begun. -/
def readValue : Nat → Bytes → Read
  | 0, _ => stray
  | fuel + 1, bs =>
    match bs with
    | [] => stray
    | b :: rest =>
      if b = openBracket then
        match skipBlanks rest with
        | [] => (.sequence [.broken .malformed], none)
        | c :: rest' =>
          if c = closeBracket then (.sequence [], some rest')
          else readItems fuel [] (c :: rest')
      else if b = openBrace then
        match skipBlanks rest with
        | [] => (.map [(.broken .malformed, .null)], none)
        | c :: rest' =>
          if c = closeBrace then (.map [], some rest')
          else readEntries fuel [] (c :: rest')
      else readScalar (b :: rest)

/-- The items of a sequence, after those already read, which are in reverse. -/
def readItems : Nat → List Datum → Bytes → Read
  | 0, items, _ => (.sequence (.broken .malformed :: items).reverse, none)
  | fuel + 1, items, bs =>
    match readValue fuel bs with
    | (item, none) => (.sequence (item :: items).reverse, none)
    | (item, some rest) =>
      match follow closeBracket rest with
      | .closed rest => (.sequence (item :: items).reverse, some rest)
      | .another rest => readItems fuel (item :: items) rest
      | .wrong => (.sequence (.broken .malformed :: item :: items).reverse, none)

/-- The entries of a map, after those already read, which are in reverse. -/
def readEntries : Nat → List (Datum × Datum) → Bytes → Read
  | 0, entries, _ => (.map ((.broken .malformed, .null) :: entries).reverse, none)
  | fuel + 1, entries, bs =>
    match readKey bs with
    | (key, none) => (.map ((key, .null) :: entries).reverse, none)
    | (key, some rest) =>
      match skipBlanks rest with
      | [] => (.map ((key, .broken .malformed) :: entries).reverse, none)
      | c :: rest =>
        if c = colon then
          match readValue fuel (skipBlanks rest) with
          | (value, none) => (.map ((key, value) :: entries).reverse, none)
          | (value, some rest) =>
            match follow closeBrace rest with
            | .closed rest => (.map ((key, value) :: entries).reverse, some rest)
            | .another rest => readEntries fuel ((key, value) :: entries) rest
            | .wrong =>
              (.map ((.broken .malformed, .null) :: (key, value) :: entries).reverse, none)
        else (.map ((key, .broken .malformed) :: entries).reverse, none)

end

/-- The value a text begins with. Every value and every item takes at least one byte, so the
bound on their number is never reached. -/
def read (bs : Bytes) : Read := readValue (2 * bs.length + 2) (skipBlanks bs)

/-! ## Whole texts -/

/-- Why a text is refused: it is not JSON, or it does not hold what was asked for. -/
inductive Error where
  | malformed
  | unfit (m : Datum.Mismatch)
  deriving DecidableEq

/-- Sorts a mismatch: one with a fault of the text means that the text is not JSON. -/
def Error.of : Datum.Mismatch → Error
  | .fault _ => .malformed
  | m => .unfit m

/-- How a mismatch is worded for JSON text. -/
def wording : Datum.Wording := ⟨"null", .scientific⟩

/-- The message of an error. -/
def Error.message : Error → String
  | .malformed => "malformed JSON"
  | .unfit m => m.message wording

/-- Reads what `reader` makes of the value of a whole text. What is wrong with the value comes
before anything that follows it. -/
def parse {α : Type} (reader : Datum → Datum.Reading α) (bs : Bytes) : Except Error α :=
  let (d, rest) := read bs
  match reader d, rest with
  | .error m, _ => .error (Error.of m)
  | .ok _, none => .error .malformed
  | .ok a, some rest => if (skipBlanks rest).isEmpty then .ok a else .error .malformed

end Container.Json
