import Container.Shell.Text

set_option autoImplicit false

/-!
# Permission bits as text

Permission bits are written as an octal number, or as changes: for whom, whether bits are added,
taken away or set, and which. Bits can also be shown letter by letter.

## Main definitions

* `Mode.changed?` — permission bits after what a text says.
* `Mode.octal` — permission bits as an octal number.
* `Mode.letters` — permission bits letter by letter.
-/

namespace Container.Programs.Mode

/-- The number that octal digits denote, if it is one of permission bits. -/
def octal? (cs : Chars) : Option Nat :=
  if cs.isEmpty ∨ ¬ cs.all fun c => '0' ≤ c ∧ c ≤ '7' then none
  else
    let n := cs.foldl (fun n c => n * 8 + (c.toNat - 48)) 0
    if n < 0o10000 then some n else none

/-- The digits of permission bits in octal, at least so many. -/
def octal (least n : Nat) : Chars :=
  let digits := Nat.toDigits 8 n
  List.replicate (least - digits.length) '0' ++ digits

/-- All bits that concern one of the user, the group and the others, or all of them. -/
def concerning : Char → Nat
  | 'u' => 0o4700
  | 'g' => 0o2070
  | 'o' => 0o1007
  | _ => 0o7777

/-- The bits that a letter stands for, whoever they concern, in permission bits `old` of a
directory or of something else. -/
def bitsOf? (isDir : Bool) (old : Nat) : Char → Option Nat
  | 'r' => some 0o444
  | 'w' => some 0o222
  | 'x' => some 0o111
  | 'X' => some (if isDir ∨ old &&& 0o111 ≠ 0 then 0o111 else 0)
  | 's' => some 0o6000
  | 't' => some 0o1000
  | 'u' => some (old / 64 % 8 * 0o111)
  | 'g' => some (old / 8 % 8 * 0o111)
  | 'o' => some (old % 8 * 0o111)
  | _ => none

/-- Bits without some of them. -/
def without (n bits : Nat) : Nat := n ^^^ (n &&& bits)

/-- Makes the changes of one clause, those for `who`; where nobody is named, a mask keeps bits
from being changed. -/
def changes? (mask : Nat) (isDir : Bool) (who : Chars) : Nat → Nat → Chars → Option Nat
  | _, old, [] => some old
  | 0, _, _ => none
  | fuel + 1, old, op :: cs =>
    let (marks, rest) := cs.span fun c => !"+-=".contains c
    match marks.mapM (bitsOf? isDir old) with
    | none => none
    | some found =>
      let bits := found.foldl (· ||| ·) 0
      let kept := if isDir then without 0o6000 bits else 0
      let reach :=
        if who.isEmpty then without 0o7777 mask
        else who.foldl (fun n c => n ||| concerning c) 0
      let value := without (bits &&& reach) kept
      match op with
      | '+' => changes? mask isDir who fuel (old ||| value) rest
      | '-' => changes? mask isDir who fuel (without old value) rest
      | '=' =>
        let cleared := if who.isEmpty then 0o7777 else reach
        changes? mask isDir who fuel (without old (without cleared kept) ||| value) rest
      | _ => none

/-- Permission bits after what a text says about them. -/
def changed? (mask : Nat) (isDir : Bool) (old : Nat) (text : Chars) : Option Nat :=
  if text.head?.any Char.isDigit then octal? text
  else
    (text.splitOn ',').foldlM (fun old clause =>
      let (who, rest) := clause.span fun c => "ugoa".contains c
      if rest.isEmpty then none
      else changes? mask isDir who (rest.length + 1) old rest) old

/-- The letters of three permission bits. -/
def triple (n : Nat) : Chars :=
  [if n / 4 % 2 = 1 then 'r' else '-', if n / 2 % 2 = 1 then 'w' else '-',
    if n % 2 = 1 then 'x' else '-']

/-- Permission bits letter by letter. -/
def letters (n : Nat) : Chars :=
  let special (bit : Nat) (on off : Char) (shown : Chars) : Chars :=
    if n / bit % 2 = 1 then shown.dropLast ++ [if shown.getLast? = some 'x' then on else off]
    else shown
  special 0o4000 's' 'S' (triple (n / 64)) ++ special 0o2000 's' 'S' (triple (n / 8)) ++
    special 0o1000 't' 'T' (triple n)

/-- Permission bits as text for the user, the group and the others, as far as they are set. -/
def clauses (n : Nat) : Chars :=
  let shown (n : Nat) : Chars := (triple n).filter (· ≠ '-')
  Chars.join [',']
    [['u', '='] ++ shown (n / 64), ['g', '='] ++ shown (n / 8), ['o', '='] ++ shown n]

end Container.Programs.Mode
