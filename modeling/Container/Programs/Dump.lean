import Container.Programs.Texts

set_option autoImplicit false

/-!
# Dumps of bytes

Bytes are shown in blocks of sixteen, each after its place in the input, as numbers or as
characters. Blocks that repeat the one before them are left out.

## Main definitions

* `Dump.Notation` — how the units of a block are shown.
* `od` — the program.
-/

namespace Container.Programs

namespace Dump

/-- What the units of a block are shown as. -/
inductive Style where
  | character
  | octal
  | unsigned
  | signed
  | hexadecimal
  deriving DecidableEq

/-- How the units of a block are shown, and how many bytes each has. -/
structure Notation where
  style : Style
  size : Nat

/-- How many characters the text of a unit has. -/
def Notation.width (n : Notation) : Nat :=
  match n.style with
  | .character => 3
  | .hexadecimal => 2 * n.size
  | .octal => (8 * n.size + 2) / 3
  | .unsigned => (toString (256 ^ n.size - 1)).length
  | .signed => (toString (256 ^ n.size / 2)).length + 1

/-- The text of a byte as a character. -/
def characterText (b : UInt8) : Chars :=
  let c := Char.ofNat b.toNat
  let letters :=
    [(0, '0'), (7, 'a'), (8, 'b'), (9, 't'), (10, 'n'), (11, 'v'), (12, 'f'), (13, 'r')]
  match letters.lookup b.toNat with
  | some letter => ['\\', letter]
  | none =>
    if 32 ≤ b.toNat ∧ b.toNat < 127 then [c]
    else
      let digits := Nat.toDigits 8 b.toNat
      List.replicate (3 - digits.length) '0' ++ digits

/-- The text of a unit, the least byte of which comes first. -/
def Notation.text (n : Notation) (unit : Bytes) : Chars :=
  let value := unit.foldr (fun b v => v * 256 + b.toNat) 0
  let filled (digits : Chars) : Chars := List.replicate (n.width - digits.length) '0' ++ digits
  match n.style with
  | .character => unit.flatMap characterText
  | .hexadecimal => filled (Nat.toDigits 16 value)
  | .octal => filled (Nat.toDigits 8 value)
  | .unsigned => Chars.ofNat value
  | .signed =>
    let half := 256 ^ n.size / 2
    Chars.ofInt (if value < half then value else (value : Int) - 2 * half)

/-- Bytes in parts of a size. -/
def parts (size : Nat) : Nat → Bytes → List Bytes
  | 0, _ => []
  | _, [] => []
  | fuel + 1, bs => bs.take size :: parts size fuel (bs.drop size)

/-- How many bytes a block has. -/
def blockSize : Nat := 16

/-- How many characters a whole block takes in a notation. -/
def Notation.blockWidth (n : Notation) : Nat := blockSize / n.size * (n.width + 1)

/-- The line for a block in a notation, so that the line for a whole one is `total` characters
long. -/
def Notation.line (n : Notation) (total : Nat) (block : Bytes) : Chars :=
  let fields := blockSize / n.size
  let pad := total - fields * n.width
  let units := parts n.size (block.length + 1) block
  let padAfter (i : Nat) : Nat := pad * (fields - i) / fields
  (units.zipIdx.map fun (unit, i) =>
    let text := n.text unit
    List.replicate (padAfter i - padAfter (i + 1) + n.width - text.length) ' ' ++ text).flatten

/-- The notations that a type names: letters, each with a size or none. -/
def ofTypes? : Nat → Chars → Option (List Notation)
  | 0, _ => none
  | _, [] => some []
  | fuel + 1, c :: cs => do
    let style ← [('c', Style.character), ('o', .octal), ('u', .unsigned), ('d', .signed),
      ('x', .hexadecimal)].lookup c
    let sizes := [('C', 1), ('S', 2), ('I', 4), ('L', 8)]
    let (digits, rest) := cs.span Char.isDigit
    let (size, rest) := match Chars.toNat? digits, rest with
      | some n, rest => (n, rest)
      | none, d :: later => match sizes.lookup d with
        | some n => (n, later)
        | none => (4, rest)
      | none, [] => (4, [])
    let size := if style = .character then 1 else size
    if [1, 2, 4, 8].contains size then return ⟨style, size⟩ :: (← ofTypes? fuel rest) else none

/-- The notations that options ask for. -/
def notationsOf? (o : Options) : Option (List Notation) := do
  let short : List (Char × Notation) := [
    ('b', ⟨.octal, 1⟩), ('c', ⟨.character, 1⟩), ('d', ⟨.unsigned, 2⟩), ('i', ⟨.signed, 4⟩),
    ('l', ⟨.signed, 8⟩), ('o', ⟨.octal, 2⟩), ('s', ⟨.signed, 2⟩), ('x', ⟨.hexadecimal, 2⟩)]
  let typed ← (o.valuesOf 't').mapM fun text => ofTypes? (text.length + 1) text
  let all := o.letters.filterMap (fun c => short.lookup c) ++ typed.flatten
  return if all.isEmpty then [⟨.octal, 2⟩] else all

/-- The place of a block in the input, in a base that a letter stands for. -/
def address (base : Char) (place : Nat) : Chars :=
  let filled (width : Nat) (digits : Chars) : Chars :=
    List.replicate (width - digits.length) '0' ++ digits
  match base with
  | 'n' => []
  | 'd' => filled 7 (Chars.ofNat place)
  | 'x' => filled 6 (Nat.toDigits 16 place)
  | _ => filled 7 (Nat.toDigits 8 place)

/-- The lines for blocks from a place on. A star stands for those that repeat the one before. -/
def lines (base : Char) (all : Bool) (notations : List Notation) :
    Option Bytes → Bool → Nat → List Bytes → List Chars
  | _, _, _, [] => []
  | last?, starred, place, block :: blocks =>
    let next := place + block.length
    if !all && last? = some block && block.length = blockSize && !blocks.isEmpty then
      (if starred then [] else [['*']]) ++ lines base all notations last? true next blocks
    else
      let total := (notations.map Notation.blockWidth).foldl max 0
      let front := address base place
      let shown := notations.zipIdx.map fun (n, i) =>
        (if i = 0 then front else List.replicate front.length ' ') ++ n.line total block
      shown ++ lines base all notations (some block) false next blocks

end Dump

/-- Shows the bytes of files. -/
def od : Body := withOptions "A:bcdij:lN:ost:vx" 1 fun inv o => do
  match Dump.notationsOf? o with
  | none =>
    complain inv (chars "od: invalid type string\n")
    return 1
  | some notations =>
    let contents ← (if o.operands.isEmpty then [['-']] else o.operands).mapM fun name => do
      match ← contentOf inv name with
      | .ok content => return some content
      | .error e =>
        complainOver inv name e
        return none
    let number? (c : Char) : Option Nat := (o.value? c).bind size?
    let skipped := (number? 'j').getD 0
    let content := (contents.filterMap id).flatten.drop skipped
    let content := match number? 'N' with
      | some n => content.take n
      | none => content
    let base := ((o.value? 'A').bind List.head?).getD 'o'
    let blocks := Dump.parts Dump.blockSize (content.length + 1) content
    for line in Dump.lines base (o.has 'v') notations none false skipped blocks do
      say inv (line ++ ['\n'])
    if base ≠ 'n' then say inv (Dump.address base (skipped + content.length) ++ ['\n'])
    return if contents.all Option.isSome then 0 else 1

end Container.Programs
