import Container.Text.Utf8
import Container.Text.Unprintable

set_option autoImplicit false

/-!
# Quoted text in messages

A message that names a text from outside puts it in double quotes and writes what cannot be
seen as an escape, so that the reader can tell where the text ends and what it holds.

## Main definitions

* `Quoted.text` — a text in quotes.
* `Quoted.bytes` — a byte string in quotes; bytes that belong to no character are written in
  hexadecimal.
-/

namespace Container.Quoted

/-- A number in hexadecimal, lower case, without leading zeros. -/
def hex (n : Nat) : String := String.ofList (Nat.toDigits 16 n)

/-- A character inside quotes. -/
def char (c : Char) : String :=
  match c.toNat with
  | 0x00 => "\\0"
  | 0x09 => "\\t"
  | 0x0A => "\\n"
  | 0x0D => "\\r"
  | 0x22 => "\\\""
  | 0x5C => "\\\\"
  | n => if Unprintable.contains c then "\\u\x7b" ++ hex n ++ "\x7d" else c.toString

/-- A byte inside quotes that belongs to no character. -/
def strayByte (b : UInt8) : String :=
  let digit (n : Nat) := (Nat.digitChar n).toUpper.toString
  "\\x" ++ digit (b.toNat / 16) ++ digit (b.toNat % 16)

/-- A text in quotes. -/
def text (s : String) : String :=
  s.toList.foldl (fun shown c => shown ++ char c) "\"" ++ "\""

/-- A byte string in quotes. -/
def bytes (bs : Bytes) : String :=
  match Utf8.text? bs with
  | some s => text s
  | none => (Utf8.pieces bs).foldl (fun shown piece =>
      match piece with
      | .char c => shown ++ char c
      | .broken part => part.foldl (fun shown b => shown ++ strayByte b) shown) "\"" ++ "\""

end Container.Quoted
