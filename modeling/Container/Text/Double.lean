import Container.Powers

set_option autoImplicit false

/-!
# Decimal text of binary64 numbers

A number is written with the fewest significant digits that still read back as that number,
and of several such digit strings with the one nearest to it. Everything is exact natural
number arithmetic on the parts of the number.

## Main definitions

* `Double.Finite` — sign, mantissa and exponent of a finite number.
* `Double.shortest` — its shortest digits.
* `Double.Style` — the choices of a written form, and `Double.Style.render`, which applies it.
-/

namespace Container.Double

/-- The parts of a finite number: its magnitude is `mantissa * 2 ^ exponent`. The lower
neighbour is only half as far away as the upper one where `halfGap` is set. -/
structure Finite where
  negative : Bool
  mantissa : Nat
  exponent : Int
  halfGap : Bool

/-- What the bits of a number say. -/
inductive Parts where
  | finite (f : Finite)
  | infinite (negative : Bool)
  | notANumber

/-- The parts of the number with these bits. -/
def parts (bits : UInt64) : Parts :=
  let n : Nat := bits.toNat
  let negative := decide (2 ^ 63 ≤ n)
  let field : Nat := n / 2 ^ 52 % 2 ^ 11
  let fraction : Nat := n % 2 ^ 52
  if field = 2047 then
    if fraction = 0 then .infinite negative else .notANumber
  else if field = 0 then .finite ⟨negative, fraction, -1074, false⟩
  else .finite ⟨negative, 2 ^ 52 + fraction, (field : Int) - 1075,
    decide (fraction = 0 ∧ 1 < field)⟩

/-- A positive rational number. -/
structure Ratio where
  num : Nat
  den : Nat

/-- `n * 2 ^ e`. -/
def scaleTwo (n : Nat) (e : Int) : Ratio :=
  if 0 ≤ e then ⟨n * 2 ^ e.toNat, 1⟩ else ⟨n, 2 ^ (-e).toNat⟩

/-- The ratio divided by `10 ^ e`. -/
def Ratio.divTen (r : Ratio) (e : Int) : Ratio :=
  if 0 ≤ e then ⟨r.num, r.den * 10 ^ e.toNat⟩ else ⟨r.num * 10 ^ (-e).toNat, r.den⟩

/-- The decimal exponent of a ratio, found by stepping at most `fuel` times from `guess` until
the ratio divided by that power of ten is at least one and less than ten. -/
def Ratio.decimalExponent (r : Ratio) : Nat → Int → Int
  | 0, guess => guess
  | fuel + 1, guess =>
    let s := r.divTen guess
    if s.num < s.den then r.decimalExponent fuel (guess - 1)
    else if 10 * s.den ≤ s.num then r.decimalExponent fuel (guess + 1)
    else guess

/-- Digits and the power of ten they are multiplied by. -/
structure Decimal where
  digits : Nat
  exponent : Int

/-- Moves at most `fuel` trailing zeros of the digits into the exponent. -/
def Decimal.strip (d : Decimal) : Nat → Decimal
  | 0 => d
  | fuel + 1 =>
    if d.digits % 10 = 0 then (Decimal.mk (d.digits / 10) (d.exponent + 1)).strip fuel else d

/-- Tries grids of more and more digits, `fuel` of them, beginning at the power of ten `e`, and
answers the point of the first grid that reads back as the number. -/
def search (value low high : Ratio) (closed : Bool) : Nat → Int → Decimal
  | 0, e => ⟨0, e⟩
  | fuel + 1, e =>
    let v := value.divTen e
    let lo := low.divTen e
    let hi := high.divTen e
    let inside (c : Nat) : Bool :=
      if closed then decide (lo.num ≤ c * lo.den ∧ c * hi.den ≤ hi.num)
      else decide (lo.num < c * lo.den ∧ c * hi.den < hi.num)
    let down := v.num / v.den
    let nearDown := decide (2 * (v.num - down * v.den) < v.den)
    match inside down, inside (down + 1) with
    | true, true => ⟨if nearDown then down else down + 1, e⟩
    | true, false => ⟨down, e⟩
    | false, true => ⟨down + 1, e⟩
    | false, false => search value low high closed fuel (e - 1)

/-- The shortest digits of a finite number that read back as it. -/
def shortest (f : Finite) : Decimal :=
  if f.mantissa = 0 then ⟨0, 0⟩
  else
    let at4 (n : Nat) := scaleTwo n (f.exponent - 2)
    let value := at4 (4 * f.mantissa)
    let low := at4 (4 * f.mantissa - (if f.halfGap then 1 else 2))
    let high := at4 (4 * f.mantissa + 2)
    let e := value.decimalExponent 700 0
    (search value low high (f.mantissa % 2 = 0) 18 e).strip 20

/-- The choices of a written form. A number whose point falls within `positional` places of
its first digit is written out in full; any other has one digit before the point and an exponent
with its sign. -/
structure Style where
  positional : Int → Bool

/-- A run of zeros. -/
def zeros (n : Nat) : String := String.ofList (List.replicate n '0')

/-- The digits written out in full, with at least one digit after the point. -/
def positionalText (digits : String) (exponent : Int) : String :=
  let point := (digits.length : Int) + exponent
  if 0 ≤ exponent then digits ++ zeros exponent.toNat ++ ".0"
  else if 0 < point then
    (digits.take point.toNat).toString ++ "." ++ (digits.drop point.toNat).toString
  else "0." ++ zeros (-point).toNat ++ digits

/-- The digits with one of them before the point, and an exponent. -/
def scientificText (digits : String) (exponent : Int) : String :=
  let e := (digits.length : Int) + exponent - 1
  let tail := (digits.drop 1).toString
  let mark := if e < 0 then "e-" else "e+"
  (digits.take 1).toString ++ (if tail.isEmpty then "" else "." ++ tail) ++ mark ++
    toString e.natAbs

/-- The text of a number in a style. -/
def Style.render (style : Style) (bits : UInt64) : String :=
  match parts bits with
  | .notANumber => "NaN"
  | .infinite negative => if negative then "-inf" else "inf"
  | .finite f =>
    let d := shortest f
    let digits := toString d.digits
    let point := (digits.length : Int) + d.exponent
    let shown :=
      if f.mantissa = 0 then "0.0"
      else if style.positional point then positionalText digits d.exponent
      else scientificText digits d.exponent
    if f.negative then "-" ++ shown else shown

/-- Numbers from a hundred-thousandth up to ten quadrillion are written out, others have an
exponent. -/
def Style.scientific : Style := ⟨fun point => decide (-5 < point ∧ point ≤ 16)⟩

/-- Every number is written out. -/
def Style.plain : Style := ⟨fun _ => true⟩

end Container.Double
