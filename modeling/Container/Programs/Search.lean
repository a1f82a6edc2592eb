import Container.Shell.Pattern

set_option autoImplicit false

/-!
# Searching in lines

A search pattern is built from characters, sets of them and edges by putting one after the other,
choosing and repeating; parts of it may be groups, whose texts can be asked for again. Of all
places where a pattern occurs the first counts, and there the longest.

## Main definitions

* `Search.Pattern` — a search pattern.
* `Search.read?` — the pattern that a text writes.
* `Search.find?` — where a pattern occurs first.
-/

namespace Container.Programs.Search

open Shell.Pattern (CharSet charSet?)

/-- A search pattern. -/
inductive Pattern where
  | nothing
  | char (c : Char)
  | any
  | set (s : CharSet)
  | lineStart
  | lineEnd
  /-- A place by whether the characters around it belong to words. -/
  | edge (test : Bool → Bool → Bool)
  | both (first second : Pattern)
  | either (first second : Pattern)
  | times (part : Pattern) (least : Nat) (most? : Option Nat)
  | group (n : Nat) (part : Pattern)
  /-- The text that a group matched, once more. -/
  | again (n : Nat)

/-! ## Reading patterns -/

/-- A set that is one of several ranges, or none of them. -/
def ofRanges (negated : Bool) (ranges : List (Char × Char)) : Pattern := .set ⟨negated, ranges⟩

/-- Whether a character belongs to a word. -/
def inWord (c : Char) : Bool := Chars.inName c

/-- What a backslash with a character after it stands for in any pattern. -/
def escaped (c : Char) : Pattern :=
  let word : List (Char × Char) := [('0', '9'), ('A', 'Z'), ('a', 'z'), ('_', '_')]
  let space : List (Char × Char) := [(Char.ofNat 9, Char.ofNat 13), (' ', ' ')]
  match c with
  | 'w' => ofRanges false word
  | 'W' => ofRanges true word
  | 's' => ofRanges false space
  | 'S' => ofRanges true space
  | '<' => .edge fun before after => !before && after
  | '>' => .edge fun before after => before && !after
  | 'b' => .edge fun before after => before != after
  | 'B' => .edge fun before after => before == after
  | 'n' => .char '\n'
  | 't' => .char '\t'
  | c => if c.isDigit ∧ c ≠ '0' then .again (c.toNat - 48) else .char c

/-- Two counts in braces, before whichever text closes them, and what follows. -/
def bounds? (closing cs : Chars) : Option (Nat × Option Nat × Chars) := do
  let (low, rest) := cs.span Char.isDigit
  let (high?, rest) ← match rest with
    | ',' :: rest =>
      let (high, rest) := rest.span Char.isDigit
      some (Chars.toNat? high, rest)
    | rest => some (some ((Chars.toNat? low).getD 0), rest)
  if low.isEmpty ∧ high?.isNone then none
  else if closing.isPrefixOf rest then
    some ((Chars.toNat? low).getD 0, high?, rest.drop closing.length)
  else none

/-- The sign at the beginning of a text that has a meaning beyond itself, as an extended pattern
writes it, and what follows it. A basic pattern writes most signs with a backslash. -/
def sign? (extended : Bool) (cs : Chars) : Option (Char × Chars) :=
  match cs with
  | '\\' :: c :: rest => if !extended && "()\x7b\x7d|+?".contains c then some (c, rest) else none
  | c :: rest =>
    if c = '*' || (extended && "()\x7b\x7d|+?".contains c) then some (c, rest) else none
  | [] => none

/-- The repetitions of a part that a text begins with, and what follows them. -/
def repeated (extended : Bool) : Nat → Pattern → Chars → Pattern × Chars
  | 0, part, cs => (part, cs)
  | fuel + 1, part, cs =>
    match sign? extended cs with
    | some ('*', rest) => repeated extended fuel (.times part 0 none) rest
    | some ('+', rest) => repeated extended fuel (.times part 1 none) rest
    | some ('?', rest) => repeated extended fuel (.times part 0 (some 1)) rest
    | some ('\x7b', rest) =>
      match bounds? (if extended then ['\x7d'] else ['\\', '\x7d']) rest with
      | some (low, high?, rest) => repeated extended fuel (.times part low high?) rest
      | none => (part, cs)
    | _ => (part, cs)

/-- Whether a part of a pattern ends where a text begins. -/
def endsHere (extended : Bool) (cs : Chars) : Bool :=
  match sign? extended cs with
  | some (c, _) => c = ')' || c = '|'
  | none => cs.isEmpty

mutual

/-- Reads alternatives, with the number of groups that were opened before. -/
def readAny (extended : Bool) : Nat → Nat → Chars → Option (Pattern × Nat × Chars)
  | 0, _, _ => none
  | fuel + 1, groups, cs => do
    let (first, groups, rest) ← readAll extended fuel true .nothing groups cs
    match sign? extended rest with
    | some ('|', rest) =>
      let (second, groups, rest) ← readAny extended fuel groups rest
      return (.either first second, groups, rest)
    | _ => return (first, groups, rest)

/-- Reads parts that follow one another, after those in `found`, the first of which begins an
alternative if `start` is set. -/
def readAll (extended : Bool) : Nat → Bool → Pattern → Nat → Chars →
    Option (Pattern × Nat × Chars)
  | 0, _, _, _, _ => none
  | fuel + 1, start, found, groups, cs =>
    match sign? extended cs, cs with
    | some (')', _), _ | some ('|', _), _ => some (found, groups, cs)
    | some ('(', rest), _ => do
      let number := groups + 1
      let (inner, groups, rest) ← readAny extended fuel number rest
      match sign? extended rest with
      | some (')', rest) =>
        let (part, rest) := repeated extended fuel (.group number inner) rest
        readAll extended fuel false (.both found part) groups rest
      | _ => none
    | some ('*', rest), _ =>
      if start then
        let (part, rest) := repeated extended fuel (.char '*') rest
        readAll extended fuel false (.both found part) groups rest
      else none
    | some (c, rest), _ =>
      if c = '\x7b' ∨ ((c = '+' ∨ c = '?') ∧ start) ∨ c = '\x7d' then
        readAll extended fuel false (.both found (.char c)) groups rest
      else none
    | none, [] => some (found, groups, [])
    | none, '^' :: rest =>
      if extended || start then readAll extended fuel start (.both found .lineStart) groups rest
      else readAll extended fuel false (.both found (.char '^')) groups rest
    | none, '$' :: rest =>
      if extended || endsHere extended rest then
        readAll extended fuel false (.both found .lineEnd) groups rest
      else readAll extended fuel false (.both found (.char '$')) groups rest
    | none, c :: rest => do
      let (part, rest) ← match c, rest with
        | '\\', d :: rest => some (escaped d, rest)
        | '\\', [] => none
        | '[', rest => (charSet? (Shell.Mark.all false rest)).map fun (set, rest) =>
            (Pattern.set set, Shell.Mark.text rest)
        | '.', rest => some (.any, rest)
        | c, rest => some (.char c, rest)
      let (part, rest) := repeated extended fuel part rest
      readAll extended fuel false (.both found part) groups rest

end

/-- The pattern that a text writes, if it writes one. -/
def read? (extended : Bool) (cs : Chars) : Option Pattern :=
  match readAny extended (4 * cs.length + 8) 0 cs with
  | some (pattern, _, []) => some pattern
  | _ => none

/-- The pattern that is a text itself. -/
def literal (cs : Chars) : Pattern := cs.foldr (fun c p => .both (.char c) p) .nothing

/-- A pattern that has to match a whole line. -/
def Pattern.wholeLine (p : Pattern) : Pattern := .both .lineStart (.both p .lineEnd)

/-- A pattern that has to match whole words. -/
def Pattern.wholeWords (p : Pattern) : Pattern :=
  .both (.edge fun before _ => !before) (.both p (.edge fun _ after => !after))

/-! ## Matching -/

/-- A place in a line that is reached by matching: the character before it, how many were taken,
what is left, and what groups matched. -/
structure Reached where
  before? : Option Char
  taken : Nat
  rest : Chars
  groups : List (Nat × Chars)

namespace Reached

/-- The place after some more characters. -/
def advance (r : Reached) (n : Nat) : Reached :=
  { r with
    before? := (r.rest.take n).getLast? <|> r.before?
    taken := r.taken + n
    rest := r.rest.drop n }

/-- Places, each only once. -/
def distinct (rs : List Reached) : List Reached :=
  rs.foldr (fun r found => if found.any (·.taken = r.taken) then found else r :: found) []

/-- The places reached by repeating a step, with at most `fuel` places in a row. -/
def repeating (step : Reached → List Reached) :
    Nat → Nat → Option Nat → List Reached → List Reached
  | 0, least, _, rs => if least = 0 then rs else []
  | fuel + 1, least, most?, rs =>
    if rs.isEmpty ∨ most? = some 0 then (if least = 0 then rs else [])
    else
      let next := distinct (rs.flatMap fun r =>
        if least = 0 then (step r).filter (r.taken < ·.taken) else step r)
      let later := repeating step fuel (least - 1) (most?.map (· - 1)) next
      if least = 0 then distinct (rs ++ later) else later

end Reached

/-- The places that a pattern reaches from a place. With `fold` set, capitals count as small
letters. -/
def Pattern.reach (fold : Bool) : Pattern → Reached → List Reached
  | .nothing, r => [r]
  | .char c, r => one r fun d => c = d || (fold && c.toLower = d.toLower)
  | .any, r => one r fun _ => true
  | .set s, r => one r fun d => s.has d || (fold && (s.has d.toLower || s.has d.toUpper))
  | .lineStart, r => if r.before?.isNone then [r] else []
  | .lineEnd, r => if r.rest.isEmpty then [r] else []
  | .edge test, r => if test (r.before?.any inWord) (r.rest.head?.any inWord) then [r] else []
  | .both a b, r => Reached.distinct ((a.reach fold r).flatMap fun r => b.reach fold r)
  | .either a b, r => Reached.distinct (a.reach fold r ++ b.reach fold r)
  | .times a least most?, r =>
    Reached.repeating (a.reach fold) (r.rest.length + least + 1) least most? [r]
  | .group n a, r => (a.reach fold r).map fun r' =>
      { r' with groups := (n, r.rest.take (r'.taken - r.taken)) :: r'.groups.filter (·.1 ≠ n) }
  | .again n, r =>
    let text := (r.groups.lookup n).getD []
    if text.isPrefixOf r.rest then [r.advance text.length] else []
where
  /-- The place after one character that passes a test. -/
  one (r : Reached) (test : Char → Bool) : List Reached :=
    match r.rest with
    | c :: _ => if test c then [r.advance 1] else []
    | [] => []

/-- Where a pattern occurs in a line: what is before it, what it matches and what comes after,
and the texts of its groups. -/
structure Occurrence where
  before : Chars
  text : Chars
  after : Chars
  groups : List (Nat × Chars)

/-- The longest match of a pattern after the first `n` characters of a line. -/
def matchAt? (fold : Bool) (p : Pattern) (line : Chars) (n : Nat) : Option Occurrence :=
  let start : Reached := ⟨(line.take n).getLast?, 0, line.drop n, []⟩
  let longest := (p.reach fold start).foldl (fun (best? : Option Reached) r =>
    match best? with
    | some best => if best.taken < r.taken then some r else some best
    | none => some r) none
  longest.map fun r => ⟨line.take n, start.rest.take r.taken, r.rest, r.groups⟩

/-- Where a pattern occurs first in a line, but not before the first `from_` characters. -/
def find? (fold : Bool) (p : Pattern) (line : Chars) (from_ : Nat) : Option Occurrence :=
  (List.range (line.length + 1 - from_)).findSome? fun n => matchAt? fold p line (from_ + n)

/-- Whether a pattern occurs in a line. -/
def occurs (fold : Bool) (p : Pattern) (line : Chars) : Bool := (find? fold p line 0).isSome

/-- All places where a pattern occurs in a line, one after the other, at most `fuel` of them. An
empty match right after another one does not count. -/
def findAll (fold : Bool) (p : Pattern) (line : Chars) : Nat → Nat → Option Nat → List Occurrence
  | 0, _, _ => []
  | fuel + 1, from_, last? =>
    if line.length < from_ then []
    else
      match find? fold p line from_ with
      | none => []
      | some o =>
        let stop := o.before.length + o.text.length
        if o.text.isEmpty then
          let later := findAll fold p line fuel (stop + 1) none
          if last? = some stop then later else o :: later
        else o :: findAll fold p line fuel stop (some stop)

/-- All places where a pattern occurs in a line. -/
def occurrences (fold : Bool) (p : Pattern) (line : Chars) : List Occurrence :=
  findAll fold p line (line.length + 2) 0 none

end Container.Programs.Search
