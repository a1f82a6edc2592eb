import Container.Datum

set_option autoImplicit false

/-!
# Numbers in JSON text

A number without a fraction and without an exponent is kept whole while it fits in sixty-four
bits. Any other is a binary64 number, reached in two steps: the digits are collected into a
natural number of at most sixty-four bits, further digits only moving the decimal point, and
the result is scaled by a power of ten.

## Main definitions

* `Json.Numeral` — the parts of a number as written.
* `Json.Numeral.scan` — the numeral a text begins with.
* `Json.Numeral.value` — the value it denotes.
-/

namespace Container.Json

/-- The first byte value that stands for a digit. -/
def zeroDigit : UInt8 := 0x30

/-- Whether a byte is a decimal digit. -/
def isDigit (b : UInt8) : Bool := 0x30 ≤ b && b ≤ 0x39

/-- The value of a digit. -/
def digitValue (b : UInt8) : Nat := b.toNat - 0x30

/-- The parts of a number as written: its sign, the digits before and after the point, and
the exponent with its own sign. -/
structure Numeral where
  negative : Bool
  whole : Bytes
  fraction : Option Bytes
  exponent : Option (Bool × Bytes)

namespace Numeral

/-- A run of at least one digit, and what follows it. -/
def scanDigits (bs : Bytes) : Option (Bytes × Bytes) :=
  match bs.span isDigit with
  | ([], _) => none
  | (digits, rest) => some (digits, rest)

/-- The digits before the point. Only a lone zero may begin with one. -/
def scanWhole (bs : Bytes) : Option (Bytes × Bytes) :=
  match scanDigits bs with
  | some (digits, rest) =>
    if digits.head? = some zeroDigit ∧ 1 < digits.length then none else some (digits, rest)
  | none => none

/-- The digits after the point, if there is a point. -/
def scanFraction : Bytes → Option (Option Bytes × Bytes)
  | 0x2E :: bs => (scanDigits bs).map fun (digits, rest) => (some digits, rest)
  | bs => some (none, bs)

/-- The sign of an exponent, positive where none is written. -/
def scanSign : Bytes → Bool × Bytes
  | 0x2B :: bs => (false, bs)
  | 0x2D :: bs => (true, bs)
  | bs => (false, bs)

/-- The exponent, if there is one. -/
def scanExponent : Bytes → Option (Option (Bool × Bytes) × Bytes)
  | [] => some (none, [])
  | b :: bs =>
    if b = 0x65 ∨ b = 0x45 then
      let (negative, bs) := scanSign bs
      (scanDigits bs).map fun (digits, rest) => (some (negative, digits), rest)
    else some (none, b :: bs)

/-- The numeral a text begins with, and what follows it. -/
def scan (bs : Bytes) : Option (Numeral × Bytes) := do
  let (negative, bs) := match bs with
    | 0x2D :: bs => (true, bs)
    | bs => (false, bs)
  let (whole, bs) ← scanWhole bs
  let (fraction, bs) ← scanFraction bs
  let (exponent, bs) ← scanExponent bs
  return (⟨negative, whole, fraction, exponent⟩, bs)

/-! ## Values -/

/-- The natural number that digits denote. -/
def natural (digits : Bytes) : Nat := digits.foldl (fun n b => n * 10 + digitValue b) 0

/-- The least number that does not fit in sixty-four bits. -/
def limit : Nat := 2 ^ 64

/-- The longest beginning of the digits that keeps the number after `n` below the limit, as
that number, with the count of digits taken and the digits left. -/
def gather : Nat → Nat → Bytes → Nat × Nat × Bytes
  | n, taken, [] => (n, taken, [])
  | n, taken, b :: bs =>
    let n' := n * 10 + digitValue b
    if n' < limit then gather n' (taken + 1) bs else (n, taken, b :: bs)

/-- The number `1e308`. -/
def hugePower : Float := Float.ofScientific 1 false 308

/-- A number scaled by a power of ten, unless it becomes too large. A power beyond the
largest that is a number itself is taken in steps of it, at most `fuel` of them. -/
def scale : Nat → Float → Int → Option Float
  | 0, f, _ => some f
  | fuel + 1, f, e =>
    if e.natAbs ≤ 308 then
      let power := Float.ofScientific 1 false e.natAbs
      if 0 ≤ e then
        let scaled := f * power
        if scaled.isInf then none else some scaled
      else some (f / power)
    else if f == 0.0 then some f
    else if 0 ≤ e then none
    else scale fuel (f / hugePower) (e + 308)

/-- The largest exponent that is not beyond all bounds. -/
def exponentLimit : Nat := 2 ^ 31 - 1

/-- The magnitude of a numeral in binary64, unless it is too large. -/
def magnitude? (x : Numeral) : Option Float :=
  let (n, _, left) := gather 0 0 x.whole
  let dropped := left.length
  let (n, shift) := match x.fraction with
    | none => (n, 0)
    | some digits =>
      let (n, taken, _) := gather n 0 digits
      (n, taken)
  let point := (dropped : Int) - shift
  match x.exponent with
  | none => scale 8 n.toUInt64.toFloat point
  | some (negative, digits) =>
    let e := natural digits
    if e ≤ exponentLimit then
      let e := if negative then point - e else point + e
      scale 8 n.toUInt64.toFloat e
    else if n ≠ 0 ∧ ¬ negative then none
    else some 0.0

/-- The value a numeral denotes. One that is too large for binary64 denotes none. -/
def value (x : Numeral) : Datum :=
  let n := natural x.whole
  let whole := x.fraction.isNone && x.exponent.isNone
  if whole ∧ ¬ x.negative ∧ n < limit then Datum.nat n
  else if whole ∧ x.negative ∧ 0 < n ∧ n ≤ 2 ^ 63 then .integer (-n)
  else
    match x.magnitude? with
    | none => .illegible
    | some f => .float (if x.negative then -f else f).toBits

end Numeral
end Container.Json
