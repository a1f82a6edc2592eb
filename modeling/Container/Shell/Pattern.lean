import Container.Shell.Text

set_option autoImplicit false

/-!
# Shell patterns

A pattern matches names: a star any text, a question mark any one character, brackets one of
several, and any other character itself. A character that was quoted always stands for itself.

## Main definitions

* `Mark` — a character and whether it was quoted.
* `Pattern.fits` — whether a pattern matches a whole text.
* `Pattern.isPattern` — whether a text has any of the special characters.
* `Pattern.strip` — a text without what a pattern matches at one of its ends.
-/

namespace Container.Shell

/-- A character of a word, and whether it was quoted. -/
structure Mark where
  char : Char
  quoted : Bool
  deriving DecidableEq

/-- A text with every character quoted, or none. -/
def Mark.all (quoted : Bool) (cs : Chars) : List Mark := cs.map (⟨·, quoted⟩)

/-- The text of marks. -/
def Mark.text (marks : List Mark) : Chars := marks.map (·.char)

namespace Pattern

/-- A set of characters as brackets give it: single ones and ranges. -/
structure CharSet where
  negated : Bool
  ranges : List (Char × Char)

/-- Whether a set has a character. -/
def CharSet.has (set : CharSet) (c : Char) : Bool :=
  (set.ranges.any fun (lo, hi) => lo.toNat ≤ c.toNat && c.toNat ≤ hi.toNat) != set.negated

/-- The ranges of characters that have a name. -/
def classes : List (String × List (Char × Char)) :=
  let code (n : Nat) := Char.ofNat n
  [("alpha", [('A', 'Z'), ('a', 'z')]), ("digit", [('0', '9')]),
    ("alnum", [('0', '9'), ('A', 'Z'), ('a', 'z')]), ("upper", [('A', 'Z')]),
    ("lower", [('a', 'z')]), ("space", [(code 9, code 13), (' ', ' ')]),
    ("blank", [(code 9, code 9), (' ', ' ')]), ("cntrl", [(code 0, code 31), (code 127, code 127)]),
    ("print", [(' ', '~')]), ("graph", [('!', '~')]),
    ("punct", [('!', '/'), (':', '@'), ('[', code 96), ('\x7b', '~')]),
    ("xdigit", [('0', '9'), ('A', 'F'), ('a', 'f')])]

/-- The ranges that a name between colons stands for, after the bracket that opens it, and what
follows the bracket that closes it. -/
def class? (ms : List Mark) : Option (List (Char × Char) × List Mark) :=
  match ms with
  | ⟨':', false⟩ :: ms =>
    let (name, rest) := ms.span fun m => m.char.isLower
    match rest with
    | ⟨':', _⟩ :: ⟨']', _⟩ :: rest =>
      (classes.lookup (String.ofList (Mark.text name))).map fun ranges => (ranges, rest)
    | _ => none
  | _ => none

/-- The members of a set up to the bracket that closes it, after those already read. The first
member may be that bracket itself. -/
def members : Nat → Bool → List (Char × Char) → List Mark → Option (List (Char × Char) × List Mark)
  | 0, _, _, _ => none
  | _, _, _, [] => none
  | fuel + 1, first, found, m :: ms =>
    if m.char = ']' ∧ ¬ m.quoted ∧ ¬ first then some (found, ms)
    else if let some (ranges, rest) := if m = ⟨'[', false⟩ then class? ms else none then
      members fuel false (ranges ++ found) rest
    else
      match ms with
      | d :: hi :: rest =>
        if d.char = '-' ∧ ¬ d.quoted ∧ (hi.char ≠ ']' ∨ hi.quoted) then
          members fuel false ((m.char, hi.char) :: found) rest
        else members fuel false ((m.char, m.char) :: found) ms
      | ms => members fuel false ((m.char, m.char) :: found) ms

/-- The set that brackets give, after the opening one. -/
def charSet? (ms : List Mark) : Option (CharSet × List Mark) :=
  let (negated, ms) := match ms with
    | m :: rest => if (m.char = '!' ∨ m.char = '^') ∧ ¬ m.quoted then (true, rest) else (false, ms)
    | [] => (false, [])
  (members (ms.length + 1) true [] ms).map fun (ranges, rest) => (⟨negated, ranges⟩, rest)

/-- Whether a pattern matches a text, where at most `fuel` steps are taken. -/
def matchesWithin : Nat → List Mark → Chars → Bool
  | 0, _, _ => false
  | _, [], cs => cs.isEmpty
  | fuel + 1, m :: ms, cs =>
    if m.quoted then
      match cs with
      | c :: cs => c == m.char && matchesWithin fuel ms cs
      | [] => false
    else if m.char = '*' then
      matchesWithin fuel ms cs ||
        (match cs with
        | _ :: cs => matchesWithin fuel (m :: ms) cs
        | [] => false)
    else
      match cs with
      | [] => false
      | c :: cs =>
        if m.char = '?' then matchesWithin fuel ms cs
        else if m.char = '[' then
          match charSet? ms with
          | some (set, rest) => set.has c && matchesWithin fuel rest cs
          | none => c == '[' && matchesWithin fuel ms cs
        else c == m.char && matchesWithin fuel ms cs

/-- Whether a pattern matches a whole text. -/
def fits (pattern : List Mark) (cs : Chars) : Bool :=
  matchesWithin (pattern.length + cs.length + 1) pattern cs

/-- Whether a text has any of the special characters. -/
def isPattern (ms : List Mark) : Bool :=
  ms.any fun m => !m.quoted && (m.char = '*' || m.char = '?' || m.char = '[')

/-- A text without what a pattern matches at one of its ends: as much of it as can be, or as
little. -/
def strip (atEnd longest : Bool) (pattern : List Mark) (cs : Chars) : Chars :=
  let lengths := List.range (cs.length + 1)
  let lengths := if longest then lengths.reverse else lengths
  let cut (n : Nat) : Chars × Chars :=
    if atEnd then (cs.drop (cs.length - n), cs.take (cs.length - n)) else (cs.take n, cs.drop n)
  match lengths.find? fun n => fits pattern (cut n).1 with
  | some n => (cut n).2
  | none => cs

end Pattern
end Container.Shell
