import Container.Programs.Options
import Container.Programs.Search

set_option autoImplicit false

/-!
# Calculations from words

Each argument of a calculation is a number, a text or an operator. Numbers are of any size.

## Main definitions

* `Calculation.value?` — the value of a calculation.
* `expr` — the program.
-/

namespace Container.Programs

namespace Calculation

/-- Why a calculation has no value. -/
inductive Fault where
  | malformed
  | notNumeric
  | divisionByZero

/-- The operators by their precedence, the loosest first. -/
def levels : List (List String) := [
  ["|"], ["&"], ["<", "<=", "=", "==", "!=", ">=", ">"], ["+", "-"], ["*", "/", "%"], [":"]]

/-- The text for a truth value. -/
def truth (b : Bool) : Chars := if b then ['1'] else ['0']

/-- Whether a value counts as none. -/
def isNull (cs : Chars) : Bool := cs.isEmpty || Chars.toInt? cs == some 0

/-- The part of a text that a pattern matches at its beginning: the text of its first group if it
has one, and otherwise how long it is. -/
def matched (text pattern : Chars) : Except Fault Chars :=
  match Search.read? false pattern with
  | none => .error .malformed
  | some p =>
    let hasGroup := (pattern.zip (pattern.drop 1)).contains ('\\', '(')
    match Search.matchAt? false p text 0 with
    | some found =>
      .ok (if hasGroup then (found.groups.lookup 1).getD [] else Chars.ofNat found.text.length)
    | none => .ok (if hasGroup then [] else ['0'])

/-- How two values compare: as numbers if both are, and otherwise as texts. -/
def compared (a b : Chars) : Ordering :=
  match Chars.toInt? a, Chars.toInt? b with
  | some a, some b => compare a b
  | _, _ => compare (a.map Char.toNat) (b.map Char.toNat)

/-- What an operator makes of two values. -/
def combine (op : String) (a b : Chars) : Except Fault Chars := do
  let number (cs : Chars) : Except Fault Int :=
    match Chars.toInt? cs with
    | some n => .ok n
    | none => .error .notNumeric
  let order := compared a b
  match op with
  | "|" => return if !isNull a then a else if isNull b then ['0'] else b
  | "&" => return if isNull a || isNull b then ['0'] else a
  | "<" => return truth (order == .lt)
  | "<=" => return truth (order != .gt)
  | "=" | "==" => return truth (order == .eq)
  | "!=" => return truth (order != .eq)
  | ">=" => return truth (order != .lt)
  | ">" => return truth (order == .gt)
  | "+" => return Chars.ofInt ((← number a) + (← number b))
  | "-" => return Chars.ofInt ((← number a) - (← number b))
  | "*" => return Chars.ofInt ((← number a) * (← number b))
  | ":" => matched a b
  | _ =>
    let (a, b) := (← number a, ← number b)
    if b = 0 then throw .divisionByZero
    else return Chars.ofInt (if op = "/" then a.tdiv b else a.tmod b)

/-- The part of a text with so many characters from a position, counted from one. -/
def excerpt (text start count : Chars) : Chars :=
  match Chars.toInt? start, Chars.toInt? count with
  | some s, some n => if 0 < s ∧ 0 < n then (text.drop (s.toNat - 1)).take n.toNat else []
  | _, _ => []

/-- The first position in a text of one of some characters, or zero. -/
def position (text members : Chars) : Nat :=
  match text.findIdx? members.contains with
  | some i => i + 1
  | none => 0

mutual

/-- The value of the operators of some levels and those that bind tighter, and what follows. -/
def level : Nat → List (List String) → List Chars → Except Fault (Chars × List Chars)
  | 0, _, _ => .error .malformed
  | fuel + 1, [], words => operand fuel words
  | fuel + 1, ops :: tighter, words => do
    let (a, rest) ← level fuel tighter words
    more fuel ops tighter a rest

/-- The value of operators of one level after a first value, and what follows. -/
def more : Nat → List String → List (List String) → Chars → List Chars →
    Except Fault (Chars × List Chars)
  | 0, _, _, _, _ => .error .malformed
  | fuel + 1, ops, tighter, a, words =>
    match words with
    | op :: rest =>
      if ops.contains (String.ofList op) then do
        let (b, rest) ← level fuel tighter rest
        more fuel ops tighter (← combine (String.ofList op) a b) rest
      else .ok (a, words)
    | [] => .ok (a, [])

/-- The value of one operand, and what follows. -/
def operand : Nat → List Chars → Except Fault (Chars × List Chars)
  | 0, _ => .error .malformed
  | fuel + 1, words => do
    match words with
    | [] => throw .malformed
    | word :: rest =>
      match String.ofList word, rest with
      | "(", rest =>
        match ← level fuel levels rest with
        | (value, [')'] :: rest) => return (value, rest)
        | _ => throw .malformed
      | "length", _ :: _ =>
        let (text, rest) ← operand fuel rest
        return (Chars.ofNat text.length, rest)
      | "match", _ :: _ =>
        let (text, rest) ← operand fuel rest
        let (pattern, rest) ← operand fuel rest
        return (← matched text pattern, rest)
      | "index", _ :: _ =>
        let (text, rest) ← operand fuel rest
        let (members, rest) ← operand fuel rest
        return (Chars.ofNat (position text members), rest)
      | "substr", _ :: _ =>
        let (text, rest) ← operand fuel rest
        let (start, rest) ← operand fuel rest
        let (count, rest) ← operand fuel rest
        return (excerpt text start count, rest)
      | "+", quoted :: rest => return (quoted, rest)
      | _, rest => return (word, rest)

end

/-- The value of a calculation. -/
def value? (words : List Chars) : Except Fault Chars := do
  match ← level (20 * words.length + 20) levels words with
  | (value, []) => return value
  | (_, _ :: _) => throw .malformed

end Calculation

/-- Writes the value of a calculation. -/
def expr : Body := fun inv => do
  let words := match inv.arguments.drop 1 with
    | ['-', '-'] :: words => words
    | words => words
  if words.isEmpty then
    complainOfUse inv (chars "missing operand")
    return 2
  else
    match Calculation.value? words with
    | .ok value =>
      say inv (value ++ ['\n'])
      return if Calculation.isNull value then 1 else 0
    | .error fault =>
      complain inv (chars (match fault with
        | .malformed => "expr: syntax error\n"
        | .notNumeric => "expr: non-integer argument\n"
        | .divisionByZero => "expr: division by zero\n"))
      return 2

end Container.Programs
