import Container.Programs.Awk.Syntax

set_option autoImplicit false

/-!
# The record language: values

A value is a number or a text, or both: what is read counts as a number where it looks like one.

## Main definitions

* `Awk.Value` — values, with `Value.toNumber`, `Value.toText` and `Value.isTrue`.
* `Awk.compare` — which of two values comes first.
* `Awk.formatted?` — a format with values put in.
* `Awk.fieldsOf` — the fields of a record.
-/

namespace Container.Programs.Awk

/-- A value. -/
inductive Value where
  /-- Nothing was assigned yet. -/
  | unset
  | number (x : Float)
  | text (cs : Chars)
  /-- A text that was read, and may be meant as a number. -/
  | given (cs : Chars)
  deriving Inhabited

/-- The value of what is true or not. -/
def truth (b : Bool) : Value := .number (if b then 1 else 0)

/-! ## Numbers -/

/-- A text without blanks before it. -/
def afterBlanks (cs : Chars) : Chars := cs.dropWhile fun c => Chars.isBlank c || c = '\n'

/-- The number at the beginning of a text, and what follows it, if there is one. -/
def leadingNumber? (cs : Chars) : Option (Float × Chars) :=
  let (negative, body) := Format.signOf (afterBlanks cs)
  let signed (x : Float) : Float := if negative then -x else x
  let n := Token.numeralLength body
  match body with
  | '0' :: x :: d :: rest =>
    if (x = 'x' ∨ x = 'X') ∧ (Format.digitValue? 16 d).isSome then
      let (value, rest) := Format.digits 16 (rest.length + 1) 0 (d :: rest)
      some (signed (Float.ofNat value), rest)
    else some (signed (Token.numeral (body.take n)), body.drop n)
  | body => if n = 0 then none else some (signed (Token.numeral (body.take n)), body.drop n)

/-- The number that a text begins with, or zero. -/
def numberOf (cs : Chars) : Float := ((leadingNumber? cs).map (·.1)).getD 0

/-- Whether a text is a number as a whole, but for blanks around it. -/
def looksNumeric (cs : Chars) : Bool :=
  match leadingNumber? cs with
  | some (_, rest) => (afterBlanks rest).isEmpty
  | none => false

/-- A number without its fraction. -/
def truncated (x : Float) : Float := if x < 0 then x.ceil else x.floor

/-- The whole number in a number. -/
def wholeOf (x : Float) : Int := x.toInt64.toInt

/-- Whether a number is written as a whole one. -/
def isWhole (x : Float) : Bool := truncated x == x && x.abs < 9.2e18

/-! ## Formats -/

/-- A number in a real notation. What is no number comes from a calculation, which gives it a
sign. -/
def realText (d : Format.Directive) (x : Float) : Chars :=
  if x.isNaN then d.fill "-nan".toList else d.real x.toBits

/-- A number as a text: whole if it is, and otherwise with six digits, or in another format that
is given as the text between a percent sign and its letter, and the letter. -/
def numberText (format : Chars) (x : Float) : Chars :=
  if isWhole x then Chars.ofInt (wholeOf x)
  else
    let inner := (format.drop 1).dropLast
    let (width, rest) := inner.span (· ≠ '.')
    let letter := format.getLast?.getD 'g'
    realText ⟨[], (Chars.toNat? width).getD 0, (Chars.toNat? (rest.drop 1)).orElse fun () =>
      if rest.isEmpty then none else some 0, if "eEfFgG".contains letter then letter else 'g'⟩ x

/-- The format in which numbers are written unless another one is asked for. -/
def usualFormat : Chars := "%.6g".toList

namespace Value

/-- A value as a number. -/
def toNumber : Value → Float
  | .unset => 0
  | .number x => x
  | .text cs | .given cs => numberOf cs

/-- A value as a text, where numbers have a format. -/
def toText (format : Chars) : Value → Chars
  | .unset => []
  | .number x => numberText format x
  | .text cs | .given cs => cs

/-- Whether a value counts as a number. -/
def isNumber : Value → Bool
  | .unset | .number _ => true
  | .text _ => false
  | .given cs => looksNumeric cs

/-- Whether a condition with a value holds. -/
def isTrue : Value → Bool
  | .unset => false
  | .number x => x != 0
  | .text cs => !cs.isEmpty
  | .given cs => if looksNumeric cs then numberOf cs != 0 else !cs.isEmpty

end Value

/-- How two values compare: as numbers if both count as such, and otherwise as texts. -/
def compare (format : Chars) (op : String) (a b : Value) : Bool :=
  if a.isNumber ∧ b.isNumber then
    let x := a.toNumber
    let y := b.toNumber
    match op with
    | "<" => x < y
    | "<=" => x ≤ y
    | "==" => x == y
    | "!=" => x != y
    | ">" => y < x
    | _ => y ≤ x
  else
    let x := (a.toText format).map Char.toNat
    let y := (b.toText format).map Char.toNat
    match op with
    | "<" => x < y
    | "<=" => ¬y < x
    | "==" => x = y
    | "!=" => x ≠ y
    | ">" => y < x
    | _ => ¬x < y

/-- What an operator makes of two numbers. -/
def calculate (op : String) (x y : Float) : Float :=
  match op with
  | "+" => x + y
  | "-" => x - y
  | "*" => x * y
  | "/" => x / y
  | "%" => x - y * truncated (x / y)
  | _ => x ^ y

/-- A whole number that a directive puts in from a value. -/
def directed (d : Format.Directive) (v : Value) : Chars :=
  if d.letter = 'd' ∨ d.letter = 'i' then
    ({ d with letter := 'd' } : Format.Directive).whole (wholeOf v.toNumber)
  else if "uoxX".contains d.letter then d.whole (wholeOf v.toNumber)
  else if "eEfFgG".contains d.letter then realText d v.toNumber
  else if d.letter = 'c' then
    d.fill (match v with
      | .number x => [Char.ofNat (x.toUInt64.toNat % 256)]
      | v => [(v.toText usualFormat).head?.getD (Char.ofNat 0)])
  else
    let text := v.toText usualFormat
    d.fill (match d.precision? with | some p => text.take p | none => text)

/-- A number in a directive, which may be taken from a value, with what follows it and the values
left. -/
def countIn (cs : Chars) (vs : List Value) : Option Nat × Bool × Chars × List Value :=
  match cs with
  | '*' :: rest =>
    let n := wholeOf (vs.head?.getD .unset).toNumber
    (some n.natAbs, n < 0, rest, vs.drop 1)
  | cs =>
    let (digits, rest) := cs.span Char.isDigit
    (Chars.toNat? digits, false, rest, vs)

/-- A format with values put in, after what is shown already in reverse. There is none where
values are missing or a directive is none. -/
def formatFrom : Nat → Chars → Chars → List Value → Option Chars
  | 0, shown, _, _ => some shown.reverse
  | _, shown, [], _ => some shown.reverse
  | fuel + 1, shown, '%' :: '%' :: cs, vs => formatFrom fuel ('%' :: shown) cs vs
  | fuel + 1, shown, '%' :: cs, vs =>
    let (flags, rest) := cs.span fun c => "-+ #0".contains c
    let (width?, left, rest, vs) := countIn rest vs
    let (precision?, rest, vs) := match rest with
      | '.' :: rest =>
        let (p?, _, rest, vs) := countIn rest vs
        (some (p?.getD 0), rest, vs)
      | rest => (none, rest, vs)
    match rest, vs with
    | c :: rest, v :: vs =>
      if "diouxXeEfFgGcs".contains c then
        let d : Format.Directive :=
          ⟨if left then '-' :: flags else flags, width?.getD 0, precision?, c⟩
        formatFrom fuel ((directed d v).reverse ++ shown) rest vs
      else none
    | _, _ => none
  | fuel + 1, shown, c :: cs, vs => formatFrom fuel (c :: shown) cs vs

/-- A format with values put in. -/
def formatted? (format : Chars) (vs : List Value) : Option Chars :=
  formatFrom (format.length + 1) [] format vs

/-! ## Records and fields -/

/-- The words of a text between blanks. -/
def wordsOf (cs : Chars) : List Chars :=
  (cs.splitOnP fun c => Chars.isBlank c || c = '\n').filter (· ≠ [])

/-- The parts of a text between places where a pattern occurs. -/
def between (p : Search.Pattern) (cs : Chars) : List Chars :=
  let found := (Search.occurrences false p cs).filter fun o => !o.text.isEmpty
  let starts := 0 :: found.map fun o => o.before.length + o.text.length
  let ends := found.map (·.before.length) ++ [cs.length]
  (starts.zip ends).map fun (a, b) => (cs.drop a).take (b - a)

/-- The fields of a text by a separator: a space stands for any blanks, another character for
itself, and a longer text for a pattern. -/
def fieldsOf (separator : Chars) (cs : Chars) : List Chars :=
  if cs.isEmpty then []
  else match separator with
    | [' '] => wordsOf cs
    | [] => cs.map fun c => [c]
    | [c] => cs.splitOn c
    | separator =>
      match Search.read? true separator with
      | some p => between p cs
      | none => [cs]

/-- The first record of a text and what follows it, by a separator: a character, or nothing where
records have empty lines between them, or a pattern. -/
def firstRecord (separator : Chars) (cs : Chars) : Chars × Chars :=
  match separator with
  | [] =>
    let cs := cs.dropWhile (· = '\n')
    let lines := cs.splitOn '\n'
    let first := lines.takeWhile (· ≠ [])
    (Chars.join ['\n'] first,
      (Chars.join ['\n'] (lines.drop first.length)).dropWhile (· = '\n'))
  | [c] =>
    let (record, rest) := cs.span (· ≠ c)
    (record, rest.drop 1)
  | separator =>
    match (Search.read? true separator).bind fun p => Search.find? false p cs 0 with
    | some o => (o.before, o.after)
    | none => (if cs.getLast? = some '\n' then cs.dropLast else cs, [])

end Container.Programs.Awk
