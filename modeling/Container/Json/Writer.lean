import Container.Datum

set_option autoImplicit false

/-!
# Writing JSON text

A value is written either on one line without blanks or spread over lines, each level of
nesting two blanks further in.

## Main definitions

* `Json.quoted` — a text as a JSON string.
* `Json.compact` — a value on one line.
* `Json.pretty` — a value spread over lines.
-/

namespace Container.Json

/-- A character inside a string. Quotes, backslashes and control characters are escaped. -/
def escaped (c : Char) : String :=
  match c.toNat with
  | 0x22 => "\\\""
  | 0x5C => "\\\\"
  | 0x08 => "\\b"
  | 0x09 => "\\t"
  | 0x0A => "\\n"
  | 0x0C => "\\f"
  | 0x0D => "\\r"
  | n =>
    if n < 0x20 then
      "\\u00" ++ (Nat.digitChar (n / 16)).toString ++ (Nat.digitChar (n % 16)).toString
    else c.toString

/-- A text as a JSON string. -/
def quoted (s : String) : String := s.toList.foldl (fun shown c => shown ++ escaped c) "\"" ++ "\""

/-- The text of a value that has no parts. Values that JSON has no form for are written as
null. -/
def scalar : Datum → String
  | .bool b => if b then "true" else "false"
  | .natural n _ => toString n
  | .integer i => toString i
  | .text s => quoted s
  | _ => "null"

/-- The text of a key. -/
def keyText (d : Datum) : String :=
  match d with
  | .text s => quoted s
  | _ => quoted (scalar d)

mutual

/-- A value on one line. -/
def compact : Datum → String
  | .sequence items => "[" ++ compactItems "" items ++ "]"
  | .map entries => "\x7b" ++ compactEntries "" entries ++ "\x7d"
  | .marked _ d => compact d
  | d => scalar d

/-- Items on one line; `before` separates each from the one before it. -/
def compactItems (before : String) : List Datum → String
  | [] => ""
  | item :: items => before ++ compact item ++ compactItems "," items

/-- Entries on one line; `before` separates each from the one before it. -/
def compactEntries (before : String) : List (Datum × Datum) → String
  | [] => ""
  | (key, value) :: entries =>
    before ++ keyText key ++ ":" ++ compact value ++ compactEntries "," entries

end

/-- A new line at a depth of nesting. -/
def newline (depth : Nat) : String := "\n" ++ String.ofList (List.replicate (2 * depth) ' ')

mutual

/-- A value spread over lines. -/
def prettyAt (depth : Nat) : Datum → String
  | .sequence [] => "[]"
  | .sequence items => "[" ++ prettyItems (depth + 1) "" items ++ newline depth ++ "]"
  | .map [] => "\x7b\x7d"
  | .map entries => "\x7b" ++ prettyEntries (depth + 1) "" entries ++ newline depth ++ "\x7d"
  | .marked _ d => prettyAt depth d
  | d => scalar d

/-- Items on lines of their own; `before` separates each from the one before it. -/
def prettyItems (depth : Nat) (before : String) : List Datum → String
  | [] => ""
  | item :: items =>
    before ++ newline depth ++ prettyAt depth item ++ prettyItems depth "," items

/-- Entries on lines of their own; `before` separates each from the one before it. -/
def prettyEntries (depth : Nat) (before : String) : List (Datum × Datum) → String
  | [] => ""
  | (key, value) :: entries =>
    before ++ newline depth ++ keyText key ++ ": " ++ prettyAt depth value ++
      prettyEntries depth "," entries

end

/-- A value spread over lines. -/
def pretty (d : Datum) : String := prettyAt 0 d

end Container.Json
