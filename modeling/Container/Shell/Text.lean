import Container.Text.Utf8

set_option autoImplicit false

/-!
# Shell text

A shell knows bytes, not characters. Its text is written here as a list of characters, one for
each byte, so that the marks of the shell language can be written as characters.

## Main definitions

* `Chars` — shell text, with `Chars.ofBytes`, `Chars.bytes` and `Chars.ofText`.
-/

namespace Container

/-- Shell text: one character for each byte. -/
abbrev Chars := List Char

namespace Chars

/-- The shell text of bytes. -/
def ofBytes (bs : Bytes) : Chars := bs.map fun b => Char.ofNat b.toNat

/-- The bytes of shell text. -/
def bytes (cs : Chars) : Bytes := cs.map fun c => UInt8.ofNat c.toNat

/-- The shell text of a text. -/
def ofText (s : String) : Chars := ofBytes (Utf8.bytes s)

/-- The text of a number. -/
def ofNat (n : Nat) : Chars := (toString n).toList

/-- The text of a whole number. -/
def ofInt (i : Int) : Chars := (toString i).toList

/-- Whether a character separates words. -/
def isBlank (c : Char) : Bool := c = ' ' || c = '\t'

/-- Whether a character may begin a name. -/
def startsName (c : Char) : Bool := c.isAlpha || c = '_'

/-- Whether a character may be in a name. -/
def inName (c : Char) : Bool := c.isAlphanum || c = '_'

/-- Whether a text is a name. -/
def isName : Chars → Bool
  | c :: cs => startsName c && cs.all inName
  | [] => false

/-- The number that a text denotes, if it is made of digits. -/
def toNat? (cs : Chars) : Option Nat :=
  if cs.isEmpty || !cs.all Char.isDigit then none
  else some (cs.foldl (fun n c => n * 10 + (c.toNat - 48)) 0)

/-- The whole number that a text denotes. -/
def toInt? : Chars → Option Int
  | '-' :: cs => (toNat? cs).map fun n => -(n : Int)
  | '+' :: cs => (toNat? cs).map Int.ofNat
  | cs => (toNat? cs).map Int.ofNat

/-- The quotes and the mark for an older form of command substitution. -/
def singleQuote : Char := Char.ofNat 39
def doubleQuote : Char := Char.ofNat 34
def backQuote : Char := Char.ofNat 96

/-- The lines of a text, without their ends. -/
def lines (cs : Chars) : List Chars :=
  let split := cs.foldr (fun c (acc : List Chars) =>
    if c = '\n' then [] :: acc
    else match acc with
      | [] => [[c]]
      | line :: rest => (c :: line) :: rest) [[]]
  if split.getLast? = some [] then split.dropLast else split

/-- Texts with another one between them. -/
def join (between : Chars) : List Chars → Chars
  | [] => []
  | [cs] => cs
  | cs :: rest => cs ++ between ++ join between rest

end Chars
end Container
