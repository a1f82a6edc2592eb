import Container.Shell.Text

set_option autoImplicit false

/-!
# Shell arithmetic

Calculations with whole numbers of 64 bits: the usual operators, comparisons, conditions and
assignments with the usual precedence, in which a name stands for the number in the variable of
that name.

## Main definitions

* `Arithmetic.number?` — the number that a text denotes.
* `Expression` — expressions, with `Expression.read` and `Expression.evaluate`.
* `Arithmetic.value` — the value of the expression that a text writes, and what it assigns.
  Operands on which the value does not depend are not looked at.
-/

namespace Container.Shell.Arithmetic

/-- A token of an expression. -/
inductive Item where
  | number (n : Int64)
  | name (cs : Chars)
  | op (s : String)
  deriving DecidableEq

/-- Why a calculation has no value. -/
inductive Fault where
  /-- Something else should stand in the expression. -/
  | expecting (what : String)
  | zeroDivision
  /-- The value of a variable is no number. -/
  | illegalNumber (value : Chars)
  deriving DecidableEq

/-- An expression. -/
inductive Expression where
  | number (n : Int64)
  | name (cs : Chars)
  | unary (op : String) (a : Expression)
  | binary (op : String) (a b : Expression)
  | choice (condition a b : Expression)
  /-- An assignment, of what an operator makes of the old value if there is one. -/
  | assign (name : Chars) (op? : Option String) (a : Expression)

/-- The operators of which assignments can be made. -/
def assigning : List String := ["*", "/", "%", "+", "-", "<<", ">>", "&", "^", "|"]

/-- The operators of several characters, the longest first. -/
def longOps : List String :=
  ["<<=", ">>=", "||", "&&", "==", "!=", "<=", ">=", "<<", ">>", "+=", "-=", "*=", "/=", "%=",
    "&=", "^=", "|="]

/-! ## Numbers -/

/-- The value of a digit in a base, if it is one. -/
def digit? (base : Nat) (c : Char) : Option Nat :=
  let value :=
    if c.isDigit then c.toNat - 48
    else if 'a' ≤ c.toLower ∧ c.toLower ≤ 'z' then c.toLower.toNat - 87
    else base
  if value < base then some value else none

/-- The number with some digits. What is too large becomes the largest number. -/
def ofDigits (base : Nat) (digits : Chars) : Int64 :=
  let n := digits.foldl (fun n c => n * base + (digit? base c).getD 0) 0
  Int64.ofNat (min n (2 ^ 63 - 1))

/-- The number at the beginning of a text, and what follows it: a zero announces an octal number,
and a zero with the letter x a hexadecimal one. -/
def leading (cs : Chars) : Int64 × Chars :=
  let ofBase (base : Nat) (cs : Chars) : Int64 × Chars :=
    let (digits, rest) := cs.span fun c => (digit? base c).isSome
    (ofDigits base digits, rest)
  match cs with
  | '0' :: x :: d :: cs =>
    if x.toLower = 'x' ∧ (digit? 16 d).isSome then ofBase 16 (d :: cs)
    else ofBase 8 ('0' :: x :: d :: cs)
  | '0' :: cs => ofBase 8 ('0' :: cs)
  | cs => ofBase 10 cs

/-- The number that a text denotes. An empty text is zero. -/
def number? (cs : Chars) : Option Int64 :=
  let isGap (c : Char) : Bool := Chars.isBlank c || c = '\n'
  let unsigned (cs : Chars) : Option Int64 :=
    if (cs.head?.any Char.isDigit) then
      match leading cs with
      | (n, rest) => if rest.all isGap then some n else none
    else none
  match cs.dropWhile isGap with
  | [] => some 0
  | '-' :: cs => (unsigned cs).map (-·)
  | '+' :: cs => unsigned cs
  | cs => unsigned cs

/-! ## Tokens -/

/-- The tokens of an expression, after those already found, which are in reverse. -/
def items : Nat → List Item → Chars → List Item
  | 0, found, _ => found.reverse
  | _, found, [] => found.reverse
  | fuel + 1, found, c :: cs =>
    if Chars.isBlank c || c = '\n' then items fuel found cs
    else if c.isDigit then
      let (n, rest) := leading (c :: cs)
      items fuel (.number n :: found) rest
    else if Chars.startsName c then
      let (name, rest) := (c :: cs).span Chars.inName
      items fuel (.name name :: found) rest
    else
      match longOps.find? fun op => op.toList.isPrefixOf (c :: cs) with
      | some op => items fuel (.op op :: found) ((c :: cs).drop op.length)
      | none => items fuel (.op c.toString :: found) cs

/-- The levels of precedence, the loosest first. -/
def levels : List (List String) := [
  ["||"], ["&&"], ["|"], ["^"], ["&"], ["==", "!="], ["<", "<=", ">", ">="], ["<<", ">>"],
  ["+", "-"], ["*", "/", "%"]]

/-! ## Reading -/

/-- A part of an expression, and the tokens after it. -/
abbrev Read := Except Fault (Expression × List Item)

/-- The operator of which an assignment is made, for the operators that assign. -/
def assigned? (op : String) : Option (Option String) :=
  if op = "=" then some none
  else (assigning.find? fun plain => plain ++ "=" = op).map some

mutual

/-- Reads an expression of a level. -/
def level : Nat → List (List String) → List Item → Read
  | 0, _, _ => throw (.expecting "primary")
  | fuel + 1, [], tokens => operand fuel tokens
  | fuel + 1, ops :: tighter, tokens => do
    let (a, tokens) ← level fuel tighter tokens
    more fuel ops tighter a tokens

/-- Reads on after the first operand of an expression of a level. -/
def more : Nat → List String → List (List String) → Expression → List Item → Read
  | 0, _, _, _, _ => throw (.expecting "primary")
  | fuel + 1, ops, tighter, a, tokens =>
    match tokens with
    | .op op :: rest =>
      if ops.contains op then do
        let (b, rest) ← level fuel tighter rest
        more fuel ops tighter (.binary op a b) rest
      else return (a, tokens)
    | tokens => return (a, tokens)

/-- Reads an operand. -/
def operand : Nat → List Item → Read
  | 0, _ => throw (.expecting "primary")
  | fuel + 1, tokens =>
    match tokens with
    | .number n :: rest => return (.number n, rest)
    | .name name :: rest => return (.name name, rest)
    | .op "(" :: rest => do
      let (a, rest) ← whole fuel rest
      match rest with
      | .op ")" :: rest => return (a, rest)
      | _ => throw (.expecting "')'")
    | .op op :: rest =>
      if ["-", "+", "!", "~"].contains op then do
        let (a, rest) ← operand fuel rest
        return (.unary op a, rest)
      else throw (.expecting "primary")
    | [] => throw (.expecting "primary")

/-- Reads an expression with an assignment, or a choice between two others, at its loosest. -/
def whole : Nat → List Item → Read
  | 0, _ => throw (.expecting "primary")
  | fuel + 1, tokens => do
    match tokens with
    | .name name :: .op op :: rest =>
      match assigned? op with
      | some op? =>
        let (a, rest) ← whole fuel rest
        return (.assign name op? a, rest)
      | none => choice fuel tokens
    | tokens => choice fuel tokens

/-- Reads an expression with a choice between two others at its loosest. -/
def choice : Nat → List Item → Read
  | 0, _ => throw (.expecting "primary")
  | fuel + 1, tokens => do
    let (condition, rest) ← level fuel levels tokens
    match rest with
    | .op "?" :: rest =>
      let (a, rest) ← whole fuel rest
      match rest with
      | .op ":" :: rest =>
        let (b, rest) ← choice fuel rest
        return (.choice condition a b, rest)
      | _ => throw (.expecting "':'")
    | rest => return (condition, rest)

end

/-- The expression that a text writes. -/
def Expression.read (cs : Chars) : Except Fault Expression := do
  let tokens := items (cs.length + 1) [] cs
  match ← whole (40 * (tokens.length + 1)) tokens with
  | (a, []) => return a
  | _ => throw (.expecting "EOF")

/-! ## Values -/

/-- The number for a truth value. -/
def truth (b : Bool) : Int64 := if b then 1 else 0

/-- What an operator makes of two numbers. There is no division by zero, and none that leads
beyond the largest number. -/
def combine (op : String) (a b : Int64) : Except Fault Int64 :=
  let divides : Bool := b ≠ 0 && !(a = Int64.minValue && b = -1)
  match op with
  | "|" => return a ||| b
  | "^" => return a ^^^ b
  | "&" => return a &&& b
  | "==" => return truth (a = b)
  | "!=" => return truth (a ≠ b)
  | "<" => return truth (a < b)
  | "<=" => return truth (a ≤ b)
  | ">" => return truth (b < a)
  | ">=" => return truth (b ≤ a)
  | "<<" => return a <<< b
  | ">>" => return a >>> b
  | "+" => return a + b
  | "-" => return a - b
  | "*" => return a * b
  | "/" => if divides then return a / b else throw .zeroDivision
  | "%" => if divides then return a % b else throw .zeroDivision
  | _ => throw (.expecting "EOF")

/-- Calculations, which may assign numbers to names. The latest assignment comes first. -/
abbrev CalcM := StateT (List (Chars × Int64)) (Except Fault)

/-- The number that a name stands for, given the values of variables. -/
def numberOf (valueOf : Chars → Chars) (name : Chars) : CalcM Int64 := do
  match (← get).lookup name, number? (valueOf name) with
  | some n, _ | none, some n => return n
  | none, none => throw (.illegalNumber (valueOf name))

/-- The value of an expression, given the values of variables. -/
def Expression.evaluate (valueOf : Chars → Chars) : Expression → CalcM Int64
  | .number n => return n
  | .name cs => numberOf valueOf cs
  | .unary op a => do
    let n ← a.evaluate valueOf
    return match op with
      | "-" => -n
      | "!" => truth (n = 0)
      | "~" => ~~~n
      | _ => n
  | .binary op a b => do
    let m ← a.evaluate valueOf
    if op = "||" ∧ m ≠ 0 then return 1
    else if op = "&&" ∧ m = 0 then return 0
    else
      let n ← b.evaluate valueOf
      if op = "||" ∨ op = "&&" then return truth (n ≠ 0) else combine op m n
  | .choice condition a b => do
    if (← condition.evaluate valueOf) ≠ 0 then a.evaluate valueOf else b.evaluate valueOf
  | .assign cs op? a => do
    let n ← a.evaluate valueOf
    let n ← match op? with
      | some op => do combine op (← numberOf valueOf cs) n
      | none => pure n
    modify ((cs, n) :: ·)
    return n

/-- The value of the expression that a text writes, and the numbers it assigns to names, the first
first. -/
def value (valueOf : Chars → Chars) (text : Chars) :
    Except Fault (Int64 × List (Chars × Int64)) := do
  let (n, changes) ← ((← Expression.read text).evaluate valueOf).run []
  return (n, changes.reverse)

end Container.Shell.Arithmetic
