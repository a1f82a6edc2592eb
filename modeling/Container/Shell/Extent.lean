import Container.Shell.Text

set_option autoImplicit false

/-!
# How far a substitution goes

A substitution inside a word ends where the mark that opened it is closed. Quotes, further
substitutions and choices inside it have marks of their own, which do not end it.

## Main definitions

* `Extent.Region` — what may be open at a place in a text.
* `Extent.close` — the text up to the end of what is open.
-/

namespace Container.Shell.Extent

/-- What may be open at a place in a text. -/
inductive Region where
  /-- A script in parentheses. -/
  | script
  /-- A choice between cases, whose patterns end with parentheses of their own. -/
  | choice
  /-- A text in double quotes. -/
  | quotes
  /-- A parameter in braces, which may be in double quotes. -/
  | braces (quoted : Bool)
  deriving DecidableEq

/-- A place in a text: what is open there, the innermost first; whether a command may begin; the
word that is being read, in reverse; and all that was read, in reverse. -/
structure Place where
  regions : List Region
  fresh : Bool
  word : Chars
  taken : Chars

namespace Place

/-- The place after one more character, which belongs to no word. -/
def past (p : Place) (c : Char) : Place := { p with taken := c :: p.taken }

/-- The place after more of a text, which belongs to the word that is being read. -/
def within (p : Place) (cs : Chars) : Place :=
  { p with word := cs.reverse ++ p.word, taken := cs.reverse ++ p.taken }

/-- The place where a region is opened. -/
def enter (p : Place) (r : Region) : Place := { p with regions := r :: p.regions }

/-- The place where the innermost region is closed. -/
def exit (p : Place) : Place := { p with regions := p.regions.drop 1 }

/-- The words after which a command may begin. -/
def openers : List String := ["then", "do", "else", "elif", "if", "while", "until", "!", "\x7b"]

/-- The place after the end of a word. -/
def endWord (p : Place) : Place :=
  let word := String.ofList p.word.reverse
  let p := { p with word := [] }
  if word.isEmpty then p
  else if p.fresh && word = "case" then { p.enter .choice with fresh := false }
  else if p.fresh && word = "esac" then
    if p.regions.head? = some .choice then { p.exit with fresh := false }
    else { p with fresh := false }
  else if p.fresh && openers.contains word then p
  else { p with fresh := word = "in" && p.regions.head? = some .choice }

end Place

/-- The end of a text in single quotes or back quotes, which is read already up to some place. -/
def pastQuote (quote : Char) (p : Place) (cs : Chars) : Option (Place × Chars) :=
  match cs.span (· ≠ quote) with
  | (inside, c :: rest) => some (p.within (inside ++ [c]), rest)
  | (_, []) => none

/-- The end of a script in back quotes. -/
def pastBackQuote : Place → Chars → Option (Place × Chars)
  | _, [] => none
  | p, '\\' :: c :: cs => pastBackQuote (p.within ['\\', c]) cs
  | p, c :: cs =>
    if c = Chars.backQuote then some (p.within [c], cs) else pastBackQuote (p.within [c]) cs

/-- Whether a character stands between words. -/
def endsWord (c : Char) : Bool := Chars.isBlank c || "\n;&|<>()".toList.contains c

/-- The text up to the end of all that is open, without the mark that ends it, and what follows.
At most `fuel` steps are taken. -/
def closeWithin : Nat → Place → Chars → Option (Chars × Chars)
  | 0, _, _ => none
  | _, _, [] => none
  | fuel + 1, p, c :: cs =>
    let go (r : Option (Place × Chars)) : Option (Chars × Chars) :=
      r.bind fun (p, cs) => closeWithin fuel p cs
    let finishing (p : Place) : Option (Chars × Chars) :=
      if p.regions.length ≤ 1 then some (p.taken.reverse, cs)
      else closeWithin fuel (p.exit.within [c]) cs
    match p.regions with
    | [] => some (p.taken.reverse, c :: cs)
    | region :: _ =>
      if c = '\\' then
        match cs with
        | d :: cs => closeWithin fuel (p.within [c, d]) cs
        | [] => none
      else if c = '$' ∧ cs.head? = some '(' then
        let inner := (p.within [c, '(']).enter .script
        closeWithin fuel { inner with fresh := true, word := [] } (cs.drop 1)
      else if c = '$' ∧ cs.head? = some '{' then
        let inner := (p.within [c, '{']).enter (.braces (decide (region = .quotes)))
        closeWithin fuel inner (cs.drop 1)
      else if c = Chars.backQuote then go (pastBackQuote (p.within [c]) cs)
      else if c = Chars.doubleQuote then
        if region = .quotes then finishing p else closeWithin fuel ((p.within [c]).enter .quotes) cs
      else
        match region with
        | .quotes => closeWithin fuel (p.within [c]) cs
        | .braces quoted =>
          if c = '}' then finishing p
          else if c = Chars.singleQuote ∧ ¬ quoted then go (pastQuote c (p.within [c]) cs)
          else closeWithin fuel (p.within [c]) cs
        | .script | .choice =>
          if c = Chars.singleQuote then go (pastQuote c (p.within [c]) cs)
          else if c = '#' ∧ p.word = [] then
            let (comment, rest) := cs.span (· ≠ '\n')
            closeWithin fuel { p with taken := comment.reverse ++ c :: p.taken } rest
          else if endsWord c then
            let p := p.endWord
            if c = ')' then
              if p.regions.head? = some .choice then
                closeWithin fuel { p.past c with fresh := true } cs
              else if p.regions.length ≤ 1 then some (p.taken.reverse, cs)
              else closeWithin fuel { p.exit.past c with fresh := false } cs
            else if c = '(' then closeWithin fuel { (p.past c).enter .script with fresh := true } cs
            else closeWithin fuel { p.past c with
              fresh := if "\n;&|".toList.contains c then true else p.fresh } cs
          else closeWithin fuel (p.within [c]) cs

/-- The text inside a region that was just opened, and what follows it. -/
def close (region : Region) (cs : Chars) : Option (Chars × Chars) :=
  closeWithin (cs.length + 1) ⟨[region], true, [], []⟩ cs

end Container.Shell.Extent
