import Container.Shell.Extent

set_option autoImplicit false

/-!
# Tokens of the shell language

A script is cut into words, operators and redirections. A word keeps its parts apart: text,
quoted or not, and what is to be put in later, from a variable, a command or a calculation.

## Main definitions

* `Part`, `Word` — words.
* `Token` — tokens.
* `Token.scan` — the tokens of a script, as far as it can be cut up.
-/

namespace Container.Shell

/-- What is put in for a parameter. -/
inductive Form where
  | plain
  | length
  /-- Another word where the parameter is unset, or also where it is empty. -/
  | orElse (empty : Bool) (word : Chars)
  /-- The same, and the parameter is set to that word. -/
  | orAssign (empty : Bool) (word : Chars)
  /-- Another word where the parameter is set. -/
  | instead (empty : Bool) (word : Chars)
  /-- The shell ends where the parameter is unset. -/
  | orFail (empty : Bool) (word : Chars)
  /-- The parameter without what a pattern matches at one of its ends. -/
  | without (atEnd longest : Bool) (pattern : Chars)
  deriving DecidableEq

/-- A part of a word. -/
inductive Part where
  | text (s : Chars) (quoted : Bool)
  | parameter (name : Chars) (form : Form) (quoted : Bool)
  | command (script : Chars) (quoted : Bool)
  | arithmetic (expression : Chars) (quoted : Bool)
  deriving DecidableEq

/-- A word by its parts. -/
abbrev Word := List Part

/-- What a redirection does. -/
inductive Redirection where
  | input
  | output
  /-- The same, even where files are not to be written over. -/
  | replacing
  | appending
  | duplicate
  | both
  /-- The input is written in the script. -/
  | written
  deriving DecidableEq

/-- A token. -/
inductive Token where
  | word (w : Word)
  | mark (s : String)
  | redirect (fd? : Option Nat) (kind : Redirection)
  deriving DecidableEq

/-! ## Parameters -/

/-- The form that follows the name of a parameter inside braces. -/
def formOf? : Chars → Option Form
  | [] => some .plain
  | ':' :: '-' :: w => some (.orElse true w)
  | '-' :: w => some (.orElse false w)
  | ':' :: '=' :: w => some (.orAssign true w)
  | '=' :: w => some (.orAssign false w)
  | ':' :: '+' :: w => some (.instead true w)
  | '+' :: w => some (.instead false w)
  | ':' :: '?' :: w => some (.orFail true w)
  | '?' :: w => some (.orFail false w)
  | '%' :: '%' :: w => some (.without true true w)
  | '%' :: w => some (.without true false w)
  | '#' :: '#' :: w => some (.without false true w)
  | '#' :: w => some (.without false false w)
  | _ => none

/-- Whether a character is by itself the name of a parameter. -/
def isSpecial (c : Char) : Bool := ['@', '*', '#', '?', '-', '$', '!'].contains c

/-- The name of a parameter at the beginning of a text, and what follows it. -/
def parameterName (cs : Chars) : Option (Chars × Chars) :=
  match cs with
  | [] => none
  | c :: rest =>
    if Chars.startsName c then some (cs.span Chars.inName)
    else if c.isDigit then some (cs.span Char.isDigit)
    else if isSpecial c then some ([c], rest)
    else none

/-- What stands inside the braces of a parameter. -/
def bracedParameter (cs : Chars) (quoted : Bool) : Option Part :=
  match cs with
  | '#' :: rest =>
    match rest, parameterName rest with
    | [], _ => some (.parameter ['#'] .plain quoted)
    | _, some (name, []) => some (.parameter name .length quoted)
    | _, _ => (formOf? rest).map fun form => .parameter ['#'] form quoted
  | _ => do
    let (name, rest) ← parameterName cs
    let form ← formOf? rest
    return .parameter name form quoted

/-- What follows a dollar sign, and what follows that. -/
def afterDollar (quoted : Bool) (cs : Chars) : Option (Part × Chars) :=
  match cs with
  | '(' :: '(' :: rest =>
    match Extent.close .script rest with
    | some (expression, ')' :: rest) => some (.arithmetic expression quoted, rest)
    | _ => (Extent.close .script ('(' :: rest)).map fun (script, rest) =>
        (.command script quoted, rest)
  | '(' :: rest =>
    (Extent.close .script rest).map fun (script, rest) => (.command script quoted, rest)
  | '{' :: rest => do
    let (content, rest) ← Extent.close (.braces quoted) rest
    return (← bracedParameter content quoted, rest)
  | c :: rest =>
    if c.isDigit then some (.parameter [c] .plain quoted, rest)
    else
      match parameterName cs with
      | some (name, rest) => some (.parameter name .plain quoted, rest)
      | none => some (.text ['$'] quoted, cs)
  | [] => some (.text ['$'] quoted, [])

/-- The script between back quotes, with the backslashes before special characters taken
away. -/
def untilBackQuote (taken : Chars) : Chars → Option (Chars × Chars)
  | [] => none
  | c :: cs =>
    if c = Chars.backQuote then some (taken.reverse, cs)
    else if c = '\\' then
      match cs with
      | d :: cs =>
        if d = Chars.backQuote ∨ d = '\\' ∨ d = '$' then untilBackQuote (d :: taken) cs
        else untilBackQuote (d :: c :: taken) cs
      | [] => none
    else untilBackQuote (c :: taken) cs

/-! ## Words -/

/-- The parts of a text in double quotes up to the closing quote, or to the end if `endless` says
that none is needed. -/
def quotedParts (endless : Bool) : Nat → List Part → Chars → Option (List Part × Chars)
  | 0, _, _ => none
  | _, parts, [] => if endless then some (parts, []) else none
  | fuel + 1, parts, c :: cs =>
    if c = Chars.doubleQuote ∧ ¬ endless then some (parts, cs)
    else if c = '\\' then
      match cs with
      | [] => some (.text ['\\'] true :: parts, [])
      | '\n' :: cs => quotedParts endless fuel parts cs
      | d :: cs =>
        if d = '$' ∨ d = '\\' ∨ d = Chars.doubleQuote ∨ d = Chars.backQuote then
          quotedParts endless fuel (.text [d] true :: parts) cs
        else quotedParts endless fuel (.text ['\\', d] true :: parts) cs
    else if c = '$' then
      match afterDollar true cs with
      | some (part, cs) => quotedParts endless fuel (part :: parts) cs
      | none => none
    else if c = Chars.backQuote then
      match untilBackQuote [] cs with
      | some (script, cs) => quotedParts endless fuel (.command script true :: parts) cs
      | none => none
    else quotedParts endless fuel (.text [c] true :: parts) cs

/-- Whether a part of a word stands for all arguments one by one. -/
def isAll : Part → Bool
  | .parameter ['@'] .plain true => true
  | _ => false

/-- Whether a character ends a word. -/
def endsWord (c : Char) : Bool :=
  Chars.isBlank c || ['\n', ';', '&', '|', '<', '>', '(', ')'].contains c

/-- The parts of a word, in reverse, after those in `parts`. Where `all` is set, the word goes
on to the end of the text. -/
def wordParts (all : Bool) : Nat → List Part → Chars → Option (List Part × Chars)
  | 0, _, _ => none
  | _, parts, [] => some (parts, [])
  | fuel + 1, parts, c :: cs =>
    if endsWord c ∧ ¬ all then some (parts, c :: cs)
    else if c = '\\' then
      match cs with
      | [] => some (.text ['\\'] true :: parts, [])
      | '\n' :: cs => wordParts all fuel parts cs
      | d :: cs => wordParts all fuel (.text [d] true :: parts) cs
    else if c = Chars.singleQuote then
      match cs.span (· ≠ Chars.singleQuote) with
      | (text, _ :: cs) => wordParts all fuel (.text text true :: parts) cs
      | (_, []) => none
    else if c = Chars.doubleQuote then
      match quotedParts false fuel [] cs with
      | some (inner, cs) =>
        -- all arguments in quotes are no word where there are none
        let before := if !inner.isEmpty && inner.all isAll then parts else .text [] true :: parts
        wordParts all fuel (inner ++ before) cs
      | none => none
    else if c = '$' then
      match afterDollar false cs with
      | some (part, cs) => wordParts all fuel (part :: parts) cs
      | none => none
    else if c = Chars.backQuote then
      match untilBackQuote [] cs with
      | some (script, cs) => wordParts all fuel (.command script false :: parts) cs
      | none => none
    else wordParts all fuel (.text [c] false :: parts) cs

/-- A word with a part before it. Neighbouring texts of one kind are put together. -/
def before (part : Part) (w : Word) : Word :=
  match part, w with
  | .text s q, .text t r :: rest => if q = r then .text (s ++ t) q :: rest else part :: w
  | _, _ => part :: w

/-- The word of parts that are in reverse. -/
def wordOfReversed (parts : List Part) : Word := parts.foldl (fun w part => before part w) []

/-- A whole text as one word. In double quotes nothing is split later. -/
def Word.ofText (quoted : Bool) (cs : Chars) : Option Word :=
  let parts :=
    if quoted then quotedParts true (cs.length + 1) [] cs
    else wordParts true (cs.length + 1) [] cs
  parts.map fun (parts, _) => wordOfReversed parts

/-- The text of a word that has no quotes and nothing to put in. -/
def Word.plain? : Word → Option Chars
  | [.text s false] => some s
  | _ => none

/-! ## Scripts -/

/-- The marks of two characters. -/
def longMark? : Char → Char → Option String
  | '&', '&' => some "&&"
  | '|', '|' => some "||"
  | ';', ';' => some ";;"
  | _, _ => none

/-- The marks of one character. -/
def mark? : Char → Option String
  | '\n' => some "\n"
  | ';' => some ";"
  | '&' => some "&"
  | '|' => some "|"
  | '(' => some "("
  | ')' => some ")"
  | _ => none

/-- The redirection at the beginning of a text. -/
def redirection? : Chars → Option (Redirection × Chars)
  | '>' :: '>' :: cs => some (.appending, cs)
  | '>' :: '&' :: cs => some (.duplicate, cs)
  | '<' :: '&' :: cs => some (.duplicate, cs)
  | '<' :: '>' :: cs => some (.both, cs)
  | '<' :: '<' :: _ => none
  | '>' :: '|' :: cs => some (.replacing, cs)
  | '>' :: cs => some (.output, cs)
  | '<' :: cs => some (.input, cs)
  | _ => none

/-- The descriptor a redirection is about where none is written. -/
def defaultFd (cs : Chars) : Nat := if cs.head? = some '<' then 0 else 1

/-- The redirection at the beginning of a text, with the descriptor written before it. -/
def numbered? (cs : Chars) : Option (Token × Chars) :=
  let (digits, rest) := cs.span Char.isDigit
  match rest.head? with
  | some c =>
    if c = '<' ∨ c = '>' then
      (redirection? rest).map fun (kind, after) =>
        (.redirect (some ((Chars.toNat? digits).getD (defaultFd rest))) kind, after)
    else none
  | none => none

/-- The lines of a text up to one that is a delimiter, joined, and what follows it. A text that
ends before is taken whole. Tabs before a line do not count if `indented` says so. -/
def untilDelimiter (delimiter : Chars) (indented : Bool) : Nat → Chars → Chars → Chars × Chars
  | 0, body, cs => (body ++ cs, [])
  | fuel + 1, body, cs =>
    let (line, rest) := cs.span (· ≠ '\n')
    let line := if indented then line.dropWhile (· = '\t') else line
    if line = delimiter then (body, rest.drop 1)
    else
      match rest with
      | [] => (body ++ line, [])
      | _ :: rest => untilDelimiter delimiter indented fuel (body ++ line ++ ['\n']) rest

/-- The text of a word with its quotes taken away. -/
def Word.unquoted (w : Word) : Chars :=
  w.flatMap fun part => match part with
    | .text s _ => s
    | _ => []

/-- Whether a part of a word is quoted text. -/
def Word.hasQuotes (w : Word) : Bool :=
  w.any fun part => match part with
    | .text _ quoted => quoted
    | _ => false

/-- The input that is written in the script itself, where a text begins with what announces it:
the input, and the text without it. What is put into it is put in unless the delimiter has
quotes. -/
def written? : Chars → Option (Word × Chars)
  | '<' :: '<' :: cs => do
    let (indented, cs) := match cs with
      | '-' :: cs => (true, cs)
      | cs => (false, cs)
    let (parts, rest) ← wordParts false (cs.length + 2) [] (cs.dropWhile Chars.isBlank)
    let delimiter := wordOfReversed parts
    let (line, after) := rest.span (· ≠ '\n')
    let (body, later) := untilDelimiter delimiter.unquoted indented after.length [] (after.drop 1)
    let w ← if delimiter.hasQuotes then some [.text body true] else Word.ofText true body
    return (w, line ++ '\n' :: later)
  | _ => none

/-- A text in which a tilde at the beginning, with the name of a user or none, stands for a home
directory. The text ends a word if `last` is set. -/
def homeIn (last : Bool) (cs : Chars) : Word :=
  match cs with
  | '~' :: rest =>
    let (user, after) := rest.span (· ≠ '/')
    if after.isEmpty ∧ ¬ last then [.text cs false]
    else if user.isEmpty then
      [.parameter "HOME".toList (.orElse false ['~']) true, .text after false]
    else if user = "root".toList then [.text ('/' :: user) true, .text after false]
    else [.text cs false]
  | cs => [.text cs false]

/-- A word in which a tilde at the beginning stands for a home directory. -/
def withHome : Word → Word
  | .text cs false :: parts => (homeIn parts.isEmpty cs ++ parts).filter (· ≠ .text [] false)
  | w => w

/-- A word that is assigned, in which tildes at the beginning and after colons stand for home
directories. -/
def withHomes (first : Bool) : Word → Word
  | [] => []
  | .text cs false :: parts =>
    let pieces := cs.splitOn ':'
    let shown := pieces.zipIdx.map fun (piece, i) =>
      let isEnd : Bool := i + 1 < pieces.length || parts.isEmpty
      (if i = 0 then [] else [Part.text [':'] false]) ++
        if i = 0 ∧ ¬ first then [.text piece false] else homeIn isEnd piece
    shown.flatten.filter (· ≠ .text [] false) ++ withHomes false parts
  | part :: parts => part :: withHomes false parts

/-- Adds the tokens of a text to those in `found`, which are in reverse. The answer says also
whether the whole text could be cut up. -/
def scanFrom : Nat → List Token → Chars → List Token × Bool
  | 0, found, _ => (found, false)
  | _, found, [] => (found, true)
  | fuel + 1, found, c :: cs =>
    if Chars.isBlank c then scanFrom fuel found cs
    else if c = '#' then scanFrom fuel found (cs.dropWhile (· ≠ '\n'))
    else if c = '\\' ∧ cs.head? = some '\n' then scanFrom fuel found (cs.drop 1)
    else
      match cs.head?.bind (longMark? c), mark? c with
      | some mark, _ => scanFrom fuel (.mark mark :: found) (cs.drop 1)
      | none, some mark => scanFrom fuel (.mark mark :: found) cs
      | none, none =>
        match written? (c :: cs), numbered? (c :: cs) with
        | some (w, rest), _ => scanFrom fuel (.word w :: .redirect (some 0) .written :: found) rest
        | none, some (token, rest) => scanFrom fuel (token :: found) rest
        | none, none =>
          if c = '<' ∨ c = '>' then (found, false)
          else
            match wordParts false (cs.length + 2) [] (c :: cs) with
            | some (parts, rest) =>
              scanFrom fuel (.word (withHome (wordOfReversed parts)) :: found) rest
            | none => (found, false)

/-- The tokens of a script, and whether the whole of it could be cut up. -/
def Token.scan (script : Chars) : List Token × Bool :=
  let (found, whole) := scanFrom (script.length + 1) [] script
  (found.reverse, whole)

end Container.Shell
