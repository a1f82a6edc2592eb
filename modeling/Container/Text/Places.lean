import Container.Text.Double

set_option autoImplicit false

/-!
# Binary64 numbers with a fixed number of places

A number is written with so many digits after the point, or with so many digits in all, rounded
to the nearest such number and from halfway to the even neighbour.

## Main definitions

* `Double.Ratio.round` — the whole number nearest to a ratio.
* `Double.fixed`, `Double.exponential`, `Double.general` — the written forms.
-/

namespace Container.Double

/-- The whole number nearest to a ratio; from halfway, the even one. -/
def Ratio.round (r : Ratio) : Nat :=
  let below := r.num / r.den
  let rest := r.num % r.den
  if 2 * rest < r.den then below
  else if r.den < 2 * rest then below + 1
  else below + below % 2

/-- The magnitude of a finite number. -/
def Finite.magnitude (f : Finite) : Ratio := scaleTwo f.mantissa f.exponent

/-- The digits of a number, at least so many. -/
def paddedDigits (least n : Nat) : String :=
  let digits := toString n
  zeros (least - digits.length) ++ digits

/-- Digits with a point before the last `places` of them. -/
def pointed (places : Nat) (digits : String) : String :=
  if places = 0 then digits
  else
    let whole := digits.length - places
    (digits.take whole).toString ++ "." ++ (digits.drop whole).toString

/-- A magnitude with so many digits after the point. -/
def fixed (places : Nat) (r : Ratio) : String :=
  pointed places (paddedDigits (places + 1) (r.divTen (-(places : Int))).round)

/-- The digits of a magnitude, one and so many more, and the power of ten of the first of them. -/
def leadingDigits (places : Nat) (r : Ratio) : Nat × Int :=
  if r.num = 0 then (0, 0)
  else
    let e := r.decimalExponent 700 0
    let n := (r.divTen (e - places)).round
    if n = 10 ^ (places + 1) then (n / 10, e + 1) else (n, e)

/-- The text of an exponent, with its sign and at least two digits. -/
def exponentText (e : Int) : String :=
  (if e < 0 then "e-" else "e+") ++ paddedDigits 2 e.natAbs

/-- A magnitude with one digit before the point, so many after it, and an exponent. -/
def exponential (places : Nat) (r : Ratio) : String :=
  let (n, e) := leadingDigits places r
  pointed places (paddedDigits (places + 1) n) ++ exponentText e

/-- A text with a point, without the zeros at its end. -/
def withoutZeros (s : String) : String :=
  if s.contains '.' then
    let kept := (s.toList.reverse.dropWhile (· = '0')).dropWhile (· = '.')
    String.ofList kept.reverse
  else s

/-- A magnitude with so many digits in all, in the form that suits its size. -/
def general (digits : Nat) (r : Ratio) : String :=
  let digits := max 1 digits
  let (n, e) := leadingDigits (digits - 1) r
  if -4 ≤ e ∧ e < digits then withoutZeros (fixed ((digits : Int) - 1 - e).toNat r)
  else withoutZeros (pointed (digits - 1) (paddedDigits digits n)) ++ exponentText e

end Container.Double
