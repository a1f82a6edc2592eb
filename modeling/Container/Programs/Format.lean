import Container.Shell.Text
import Container.Text.Places

set_option autoImplicit false

/-!
# Formatted text

Backslash escapes, and formats into which arguments are put.

## Main definitions

* `Format.unescape` — a text with its escapes replaced.
* `Format.wholeNumber`, `Format.realNumber` — the numbers that arguments denote.
* `Format.render` — a format with arguments put in, as often as they last.
-/

namespace Container.Programs.Format

/-! ## Escapes -/

/-- The value of a digit. -/
def digitValue? (base : Nat) (c : Char) : Option Nat :=
  let value :=
    if c.isDigit then c.toNat - 48
    else if 'a'.toNat ≤ c.toNat ∧ c.toNat ≤ 'f'.toNat then c.toNat - 87
    else if 'A'.toNat ≤ c.toNat ∧ c.toNat ≤ 'F'.toNat then c.toNat - 55
    else base
  if value < base then some value else none

/-- Up to so many digits of a base, as a number, and what follows them. -/
def digits (base : Nat) : Nat → Nat → Chars → Nat × Chars
  | 0, n, cs => (n, cs)
  | _, n, [] => (n, [])
  | count + 1, n, c :: cs =>
    match digitValue? base c with
    | some value => digits base count (n * base + value) cs
    | none => (n, c :: cs)

/-- The character of an escape by a letter. -/
def letter? : Char → Option Char
  | 'a' => some (Char.ofNat 7)
  | 'b' => some (Char.ofNat 8)
  | 'e' => some (Char.ofNat 27)
  | 'f' => some (Char.ofNat 12)
  | 'n' => some '\n'
  | 'r' => some (Char.ofNat 13)
  | 't' => some '\t'
  | 'v' => some (Char.ofNat 11)
  | '\\' => some '\\'
  | _ => none

/-- What an escape stands for, given what follows its backslash, and what comes after it. An octal
number follows a zero if `zero` is set. -/
def escape (zero : Bool) (c : Char) (cs : Chars) : Chars × Chars :=
  match letter? c with
  | some d => ([d], cs)
  | none =>
    if zero ∧ c = '0' then
      let (n, rest) := digits 8 3 0 cs
      ([Char.ofNat (n % 256)], rest)
    else if ¬ zero ∧ c.isDigit ∧ c.toNat < 56 then
      let (n, rest) := digits 8 3 0 (c :: cs)
      ([Char.ofNat (n % 256)], rest)
    else (['\\', c], cs)

/-- A text with its escapes replaced, after what is shown already in reverse, and whether it goes
on after it: one escape says that nothing more is to be written. -/
def unescape (zero : Bool) : Nat → Chars → Chars → Chars × Bool
  | 0, shown, _ => (shown.reverse, true)
  | _, shown, [] => (shown.reverse, true)
  | fuel + 1, shown, '\\' :: c :: cs =>
    if c = 'c' ∧ zero then (shown.reverse, false)
    else
      let (cs', rest) := escape zero c cs
      unescape zero fuel (cs'.reverse ++ shown) rest
  | fuel + 1, shown, c :: cs => unescape zero fuel (c :: shown) cs

/-- A text with its escapes replaced, and whether anything may follow. -/
def unescaped (zero : Bool) (cs : Chars) : Chars × Bool := unescape zero (cs.length + 1) [] cs

/-! ## Numbers -/

/-- What is wrong with an argument that is to be a number. -/
inductive NumberFault where
  | notNumeric
  | notConverted
  | outOfRange
  deriving DecidableEq

/-- The words for what is wrong with a number. -/
def NumberFault.words : NumberFault → String
  | .notNumeric => "expected numeric value"
  | .notConverted => "not completely converted"
  | .outOfRange => "Numerical result out of range"

/-- A sign, and what follows it. -/
def signOf : Chars → Bool × Chars
  | '-' :: cs => (true, cs)
  | '+' :: cs => (false, cs)
  | cs => (false, cs)

/-- A text without the blanks before it. -/
def withoutBlanks (cs : Chars) : Chars := cs.dropWhile fun c => Chars.isBlank c || c = '\n'

/-- The whole number that an argument denotes, between two bounds, and what is wrong with it. A
quote makes it the number of the character that follows. -/
def wholeNumber (low high : Int) (argument : Chars) : Int × Option NumberFault :=
  match argument with
  | [] => (0, none)
  | q :: c :: rest =>
    if q = Chars.singleQuote ∨ q = Chars.doubleQuote then ((c.toNat : Int), none)
    else ofText (q :: c :: rest)
  | cs => ofText cs
where
  /-- The number that a text denotes: a zero announces an octal one, and a zero with the letter x
  a hexadecimal one. -/
  ofText (cs : Chars) : Int × Option NumberFault :=
    let (negative, cs) := signOf (withoutBlanks cs)
    let (base, body) : Nat × Chars := match cs with
      | '0' :: x :: d :: rest =>
        if (x = 'x' ∨ x = 'X') ∧ (digitValue? 16 d).isSome then (16, d :: rest) else (8, cs)
      | '0' :: _ => (8, cs)
      | cs => (10, cs)
    let (n, rest) := digits base body.length 0 body
    let value : Int := if negative then -n else n
    if rest.length = body.length then (0, some .notNumeric)
    else if value < low then (low, some .outOfRange)
    else if high < value then (high, some .outOfRange)
    else (value, if rest.isEmpty then none else some .notConverted)

/-- The binary64 number that an argument denotes, by its bits, and what is wrong with it. -/
def realNumber (argument : Chars) : UInt64 × Option NumberFault :=
  match argument with
  | [] => (0, none)
  | q :: c :: rest =>
    if q = Chars.singleQuote ∨ q = Chars.doubleQuote then (Float.ofNat c.toNat |>.toBits, none)
    else ofText (q :: c :: rest)
  | cs => ofText cs
where
  /-- The number that a decimal numeral denotes. -/
  ofText (cs : Chars) : UInt64 × Option NumberFault :=
    let (negative, cs) := signOf (withoutBlanks cs)
    let signed (f : Float) : UInt64 := (if negative then -f else f).toBits
    let word := String.ofList (cs.map Char.toLower)
    if word = "inf" ∨ word = "infinity" then (signed (1.0 / 0.0), none)
    else if word = "nan" then ((0.0 / 0.0 : Float).toBits, none)
    else
      let (whole, rest) := cs.span Char.isDigit
      let (fraction, rest) := match rest with
        | '.' :: rest => rest.span Char.isDigit
        | rest => ([], rest)
      let (exponent, rest) : Int × Chars := match rest with
        | e :: rest' =>
          let (down, body) := signOf rest'
          let (digits, after) := body.span Char.isDigit
          if (e = 'e' ∨ e = 'E') ∧ ¬ digits.isEmpty then
            let n : Nat := min 100000 ((Chars.toNat? digits).getD 0)
            (if down then -(n : Int) else n, after)
          else (0, rest)
        | [] => (0, [])
      if whole.isEmpty ∧ fraction.isEmpty then (0, some .notNumeric)
      else
        let mantissa := (Chars.toNat? (whole ++ fraction)).getD 0
        let e := exponent - fraction.length
        let f := Float.ofScientific mantissa (decide (e < 0)) e.natAbs
        let isSmall := mantissa ≠ 0 ∧ f.toBits.toNat / 2 ^ 52 % 2 ^ 11 = 0
        (signed f, if f.isInf ∨ isSmall then some .outOfRange
          else if rest.isEmpty then none else some .notConverted)

/-! ## Directives -/

/-- A directive of a format: its flags, its least width, its precision and its letter. -/
structure Directive where
  flags : Chars
  width : Nat
  precision? : Option Nat
  letter : Char

/-- A text filled up to the width of a directive. -/
def Directive.fill (d : Directive) (cs : Chars) : Chars :=
  let missing := d.width - cs.length
  if d.flags.contains '-' then cs ++ List.replicate missing ' '
  else List.replicate missing ' ' ++ cs

/-- A number filled up to the width of a directive, from its sign and its digits; with zeros if
the flags say so and `zeros` allows it. -/
def Directive.fillNumber (d : Directive) (zeros : Bool) (sign digits : Chars) : Chars :=
  if d.flags.contains '0' ∧ ¬ d.flags.contains '-' ∧ zeros then
    sign ++ List.replicate (d.width - sign.length - digits.length) '0' ++ digits
  else d.fill (sign ++ digits)

/-- The sign of a number as the flags of a directive want it. -/
def Directive.sign (d : Directive) (negative : Bool) : Chars :=
  if negative then ['-'] else if d.flags.contains '+' then ['+']
  else if d.flags.contains ' ' then [' '] else []

/-- A whole number as a directive writes it. -/
def Directive.whole (d : Directive) (i : Int) : Chars :=
  let unsigned : Nat := (if i < 0 then i + 2 ^ 64 else i).toNat
  let least (cs : Chars) : Chars := List.replicate (d.precision?.getD 1 - cs.length) '0' ++ cs
  let marked (mark : String) : Chars :=
    if d.flags.contains '#' ∧ unsigned ≠ 0 then mark.toList else []
  let zeros := d.precision?.isNone
  match d.letter with
  | 'x' => d.fillNumber zeros (marked "0x") (least (Nat.toDigits 16 unsigned))
  | 'X' => d.fillNumber zeros (marked "0X") (least ((Nat.toDigits 16 unsigned).map Char.toUpper))
  | 'o' => d.fillNumber zeros (marked "0") (least (Nat.toDigits 8 unsigned))
  | 'u' => d.fillNumber zeros [] (least (Chars.ofNat unsigned))
  | _ => d.fillNumber zeros (d.sign (i < 0)) (least (Chars.ofNat i.natAbs))

/-- A binary64 number as a directive writes it. -/
def Directive.real (d : Directive) (bits : UInt64) : Chars :=
  let places := d.precision?.getD 6
  let cased (s : String) : Chars := if d.letter.isUpper then s.toList.map Char.toUpper else s.toList
  match Double.parts bits with
  | .notANumber => d.fill (cased "nan")
  | .infinite negative => d.fill (d.sign negative ++ cased "inf")
  | .finite f =>
    let shown := match d.letter.toLower with
      | 'e' => Double.exponential places f.magnitude
      | 'g' => Double.general places f.magnitude
      | _ => Double.fixed places f.magnitude
    d.fillNumber true (d.sign f.negative) (cased shown)

/-! ## Formats -/

/-- What has come of a format so far: what is shown, in reverse, the arguments left, what there is
to complain about, and whether anything may follow. The code is that of the program. -/
structure Rendering where
  backwards : Chars
  arguments : List Chars
  complaints : List Chars
  code : Nat
  goesOn : Bool

namespace Rendering

/-- More of what is shown. -/
def add (r : Rendering) (cs : Chars) : Rendering :=
  { r with backwards := cs.reverse ++ r.backwards }

/-- What is shown. -/
def shown (r : Rendering) : Chars := r.backwards.reverse

/-- The next argument, which is empty where there is none, is taken. -/
def next (r : Rendering) : Chars × Rendering :=
  (r.arguments.head?.getD [], { r with arguments := r.arguments.drop 1 })

/-- Something is wrong with a number. -/
def blame (r : Rendering) (argument : Chars) (fault? : Option NumberFault) : Rendering :=
  match fault? with
  | none => r
  | some fault => { r with
      complaints := r.complaints ++ [argument ++ Chars.ofText (": " ++ fault.words)]
      code := 1 }

/-- Nothing more can be made of the format. -/
def fail (r : Rendering) (complaint : Chars) : Rendering :=
  { r with complaints := r.complaints ++ [complaint], code := 2, goesOn := false }

/-- The number that a width or a precision is: written, or given as an argument. -/
def count (r : Rendering) (cs : Chars) : Option Int × Chars × Rendering :=
  match cs with
  | '*' :: rest =>
    let (argument, r) := r.next
    let (n, fault?) := wholeNumber (-2 ^ 31) (2 ^ 31 - 1) argument
    (some n, rest, r.blame argument fault?)
  | cs =>
    let (digits, rest) := cs.span Char.isDigit
    ((Chars.toNat? digits).map Int.ofNat, rest, r)

/-- What a directive makes of the next argument. -/
def apply (r : Rendering) (d : Directive) (text : Chars) : Rendering :=
  let (argument, r) := r.next
  if d.letter = 's' then
    r.add (d.fill (match d.precision? with | some p => argument.take p | none => argument))
  else if d.letter = 'b' then
    let (shown, goesOn) := unescaped true argument
    { r.add (d.fill shown) with goesOn }
  else if d.letter = 'c' then r.add (d.fill [argument.head?.getD (Char.ofNat 0)])
  else if d.letter = 'd' ∨ d.letter = 'i' then
    let (n, fault?) := wholeNumber (-2 ^ 63) (2 ^ 63 - 1) argument
    (r.blame argument fault?).add (d.whole n)
  else if "uoxX".contains d.letter then
    let (n, fault?) := wholeNumber (-(2 ^ 64 - 1)) (2 ^ 64 - 1) argument
    (r.blame argument fault?).add (d.whole n)
  else if "eEfFgG".contains d.letter then
    let (bits, fault?) := realNumber argument
    (r.blame argument fault?).add (d.real bits)
  else r.fail ('%' :: text ++ Chars.ofText ": invalid directive")

/-- What a directive, given as what follows its percent sign, makes of the next arguments, and
what follows the directive. -/
def direct (r : Rendering) (cs : Chars) : Rendering × Chars :=
  let (flags, rest) := cs.span fun c => "-+ #0".contains c
  let (width?, rest, r) := r.count rest
  let (precision?, rest, r) := match rest with
    | '.' :: rest =>
      let (p?, rest, r) := r.count rest
      (some (p?.getD 0), rest, r)
    | rest => (none, rest, r)
  let width := width?.getD 0
  let flags := if width < 0 then '-' :: flags else flags
  match rest with
  | c :: rest =>
    let precision? := precision?.bind fun p => if p < 0 then none else some p.toNat
    (r.apply ⟨flags, width.natAbs, precision?, c⟩ (cs.take (cs.length - rest.length)), rest)
  | [] => (r.fail (Chars.ofText "missing format character"), [])

end Rendering

/-- One pass over a format. -/
def pass : Nat → Rendering → Chars → Rendering
  | 0, r, _ => r
  | _, r, [] => r
  | fuel + 1, r, '%' :: '%' :: cs => pass fuel (r.add ['%']) cs
  | fuel + 1, r, '%' :: cs =>
    let (r, rest) := r.direct cs
    if r.goesOn then pass fuel r rest else r
  | fuel + 1, r, '\\' :: c :: cs =>
    let (shown, rest) := escape false c cs
    pass fuel (r.add shown) rest
  | fuel + 1, r, c :: cs => pass fuel (r.add [c]) cs

/-- Passes over a format as long as there are arguments that are used, at most `fuel` times. -/
def passes (format : Chars) : Nat → Rendering → Rendering
  | 0, r => r
  | fuel + 1, r =>
    let r' := pass (format.length + 1) r format
    if r'.arguments.isEmpty ∨ ¬ r'.goesOn ∨ r'.arguments.length = r.arguments.length then r'
    else passes format fuel r'

/-- A format with arguments put in. -/
def render (format : Chars) (arguments : List Chars) : Rendering :=
  passes format (arguments.length + 1) ⟨[], arguments, [], 0, true⟩

end Container.Programs.Format
