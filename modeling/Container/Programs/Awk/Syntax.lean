import Container.Programs.Format
import Container.Programs.Search

set_option autoImplicit false

/-!
# The record language: what its programs say

A program of rules is run for every record of a text. Each rule has a pattern, which says for
which records it is meant, and statements, which say what is done.

## Main definitions

* `Awk.Expr`, `Awk.Statement`, `Awk.Rule` — what programs are made of.
* `Awk.Token.scan` — the tokens of a program.
* `Awk.read?` — the rules that a text writes.
-/

namespace Container.Programs.Awk

/-- An expression. -/
inductive Expr where
  | number (x : Float)
  | text (cs : Chars)
  | pattern (p : Search.Pattern)
  | variable (name : Chars)
  | element (name : Chars) (index : List Expr)
  | field (n : Expr)
  | assign (op? : Option String) (place value : Expr)
  | choice (condition a b : Expr)
  | either (a b : Expr)
  | both (a b : Expr)
  | not (a : Expr)
  | member (index : List Expr) (name : Chars)
  | fits (negated : Bool) (a b : Expr)
  | compare (op : String) (a b : Expr)
  | concat (a b : Expr)
  | arithmetic (op : String) (a b : Expr)
  | negative (a : Expr)
  | positive (a : Expr)
  /-- A place whose number grows or shrinks by one, before or after its value is taken. -/
  | step (isBefore grows : Bool) (place : Expr)
  | call (name : String) (arguments : List Expr)
  /-- The next record: of the input, of a file, or of what a command writes. -/
  | getRecord (source? : Option (Bool × Expr)) (place? : Option Expr)
  deriving Inhabited

/-- Where something is written. -/
inductive Target where
  | file
  | appended
  | command

/-- A statement. -/
inductive Statement where
  | expression (e : Expr)
  | print (es : List Expr) (target? : Option (Target × Expr))
  | format (es : List Expr) (target? : Option (Target × Expr))
  | block (ss : List Statement)
  | branch (condition : Expr) (consequence alternative : Statement)
  | loop (condition : Expr) (body : Statement)
  | loopAfter (body : Statement) (condition : Expr)
  | count (start : Statement) (condition : Expr) (step body : Statement)
  | each (name array : Chars) (body : Statement)
  | stop
  | again
  | next
  | exit (code? : Option Expr)
  | delete (name : Chars) (index : List Expr)
  deriving Inhabited

/-- When a rule is followed. -/
inductive Guard where
  | atStart
  | atEnd
  | always
  | when (e : Expr)
  | from_ (first last : Expr)

/-- A rule. -/
structure Rule where
  guard : Guard
  statements : List Statement

/-! ## Tokens -/

/-- A token. -/
inductive Token where
  | number (x : Float)
  | text (cs : Chars)
  | pattern (cs : Chars)
  | name (cs : Chars)
  /-- A name with a parenthesis right after it. -/
  | called (cs : Chars)
  | word (s : String)
  | op (s : String)
  | lineEnd

namespace Token

/-- The words that are no names. -/
def words : List String :=
  ["BEGIN", "END", "if", "else", "while", "for", "do", "break", "continue", "next", "exit",
    "delete", "in", "print", "printf", "getline"]

/-- The functions that are there. -/
def functions : List String :=
  ["length", "substr", "index", "split", "sub", "gsub", "match", "sprintf", "tolower", "toupper",
    "int", "sqrt", "exp", "log", "sin", "cos", "atan2", "rand", "srand", "system", "close"]

/-- The operators of several characters, the longest first. -/
def longOps : List String :=
  ["&&", "||", "++", "--", "+=", "-=", "*=", "/=", "%=", "^=", "==", "!=", "<=", ">=", "!~", ">>"]

/-- Whether a value may end with a token, so that a slash after it divides. -/
def endsValue : Option Token → Bool
  | some (.number _) | some (.text _) | some (.name _) => true
  | some (.op s) => [")", "]", "++", "--", "$"].contains s
  | _ => false

/-- A text in quotes, of which the beginning is given in reverse, with its escapes replaced. -/
def quoted : Chars → Chars → Option (Chars × Chars)
  | _, [] => none
  | found, '\\' :: c :: cs =>
    if c = Chars.doubleQuote then quoted (c :: found) cs
    else match Format.letter? c with
      | some d => quoted (d :: found) cs
      | none => if c = '\n' then quoted found cs else quoted (c :: '\\' :: found) cs
  | found, c :: cs =>
    if c = Chars.doubleQuote then some (found.reverse, cs) else quoted (c :: found) cs

/-- A pattern up to the slash that ends it. -/
def slashed : Chars → Chars → Option (Chars × Chars)
  | _, [] => none
  | found, '\\' :: c :: cs => slashed (if c = '/' then c :: found else c :: '\\' :: found) cs
  | found, c :: cs =>
    if c = '/' then some (found.reverse, cs)
    else if c = '\n' then none
    else slashed (c :: found) cs

/-- The length of the numeral at the beginning of a text. -/
def numeralLength (cs : Chars) : Nat :=
  let (whole, rest) := cs.span Char.isDigit
  let (fraction, rest) := match rest with
    | '.' :: rest =>
      let (digits, rest) := rest.span Char.isDigit
      if whole.isEmpty ∧ digits.isEmpty then ([], '.' :: rest) else ('.' :: digits, rest)
    | rest => ([], rest)
  let exponent := match rest with
    | e :: rest =>
      let (sign, digits) := match rest with
        | s :: ds => if s = '+' ∨ s = '-' then (1, ds) else (0, rest)
        | [] => (0, [])
      let n := (digits.takeWhile Char.isDigit).length
      if (e = 'e' ∨ e = 'E') ∧ 0 < n then 1 + sign + n else 0
    | [] => 0
  if whole.isEmpty ∧ fraction.isEmpty then 0 else whole.length + fraction.length + exponent

/-- The number that a numeral denotes. -/
def numeral (cs : Chars) : Float := Float.ofBits (Format.realNumber.ofText cs).1

/-- Adds the tokens of a text to those found, which are in reverse. -/
def scanFrom : Nat → List Token → Chars → Option (List Token)
  | 0, _, _ => none
  | _, found, [] => some found.reverse
  | fuel + 1, found, c :: cs =>
    let all := c :: cs
    if Chars.isBlank c ∨ c = Char.ofNat 13 then scanFrom fuel found cs
    else if c = '\n' then scanFrom fuel (.lineEnd :: found) cs
    else if c = '\\' ∧ cs.head? = some '\n' then scanFrom fuel found (cs.drop 1)
    else if c = '#' then scanFrom fuel found (cs.dropWhile (· ≠ '\n'))
    else if 0 < numeralLength all then
      let n := numeralLength all
      scanFrom fuel (.number (numeral (all.take n)) :: found) (all.drop n)
    else if c = Chars.doubleQuote then
      (quoted [] cs).bind fun (inside, rest) => scanFrom fuel (.text inside :: found) rest
    else if c = '/' ∧ ¬ endsValue found.head? then
      (slashed [] cs).bind fun (inside, rest) => scanFrom fuel (.pattern inside :: found) rest
    else if Chars.startsName c then
      let (letters, rest) := all.span Chars.inName
      let s := String.ofList letters
      let token : Token :=
        if words.contains s then .word s
        else if functions.contains s ∨ rest.head? = some '(' then .called letters
        else .name letters
      scanFrom fuel (token :: found) rest
    else
      match longOps.find? fun s => s.toList.isPrefixOf all with
      | some s => scanFrom fuel (.op s :: found) (all.drop s.length)
      | none => scanFrom fuel (.op c.toString :: found) cs

/-- The tokens of a program. -/
def scan (cs : Chars) : Option (List Token) := scanFrom (cs.length + 1) [] cs

end Token

/-! ## Expressions -/

/-- The tokens after an operator, if it comes next. -/
def afterOp? (s : String) : List Token → Option (List Token)
  | .op t :: rest => if t = s then some rest else none
  | _ => none

/-- The tokens after a word, if it comes next. -/
def afterWord? (s : String) : List Token → Option (List Token)
  | .word t :: rest => if t = s then some rest else none
  | _ => none

/-- Tokens after ends of lines. -/
def skipLines : List Token → List Token
  | .lineEnd :: rest => skipLines rest
  | rest => rest

/-- Tokens after ends of lines and of statements. -/
def skipEnds : List Token → List Token
  | .lineEnd :: rest => skipEnds rest
  | .op ";" :: rest => skipEnds rest
  | rest => rest

/-- Whether something can be assigned to an expression. -/
def Expr.isPlace : Expr → Bool
  | .variable _ | .element .. | .field _ => true
  | _ => false

/-- The operators that assign, and the operators they are made of. -/
def assigning : List (String × Option String) :=
  [("=", none), ("+=", some "+"), ("-=", some "-"), ("*=", some "*"), ("/=", some "/"),
    ("%=", some "%"), ("^=", some "^")]

/-- Whether an operand of a concatenation may begin with a token. -/
def startsOperand : Token → Bool
  | .number _ | .text _ | .pattern _ | .name _ | .called _ => true
  | .op s => ["$", "(", "++", "--", "!"].contains s
  | _ => false

/-- The levels of binary operators between concatenation and powers, the loosest first. -/
def arithmeticLevels : List (List String) := [["+", "-"], ["*", "/", "%"]]

mutual

/-- Reads an expression. In the list of a statement that writes, a sign for what is greater means
something else, as `plain` says. -/
def readExpr (plain : Bool) : Nat → List Token → Option (Expr × List Token)
  | 0, _ => none
  | fuel + 1, tokens => do
    let (e, rest) ← readChoice plain fuel tokens
    match rest with
    | .op op :: after =>
      match assigning.lookup op, e.isPlace with
      | some op?, true =>
        let (value, rest) ← readExpr plain fuel (skipLines after)
        return (.assign op? e value, rest)
      | _, _ => return (e, rest)
    | rest => return (e, rest)

/-- Reads an expression that may be a choice between two. -/
def readChoice (plain : Bool) : Nat → List Token → Option (Expr × List Token)
  | 0, _ => none
  | fuel + 1, tokens => do
    let (condition, rest) ← readEither plain fuel tokens
    match afterOp? "?" rest with
    | none => return (condition, rest)
    | some rest =>
      let (a, rest) ← readExpr plain fuel (skipLines rest)
      let rest ← afterOp? ":" (skipLines rest)
      let (b, rest) ← readExpr plain fuel (skipLines rest)
      return (.choice condition a b, rest)

/-- Reads conditions of which one is to hold. -/
def readEither (plain : Bool) : Nat → List Token → Option (Expr × List Token)
  | 0, _ => none
  | fuel + 1, tokens => do
    let (a, rest) ← readBoth plain fuel tokens
    match afterOp? "||" rest with
    | none => return (a, rest)
    | some rest =>
      let (b, rest) ← readEither plain fuel (skipLines rest)
      return (.either a b, rest)

/-- Reads conditions that all are to hold. -/
def readBoth (plain : Bool) : Nat → List Token → Option (Expr × List Token)
  | 0, _ => none
  | fuel + 1, tokens => do
    let (a, rest) ← readFit plain fuel tokens
    match afterOp? "&&" rest with
    | none => return (a, rest)
    | some rest =>
      let (b, rest) ← readBoth plain fuel (skipLines rest)
      return (.both a b, rest)

/-- Reads an expression that may be matched with a pattern, or be asked for in an array. -/
def readFit (plain : Bool) : Nat → List Token → Option (Expr × List Token)
  | 0, _ => none
  | fuel + 1, tokens => do
    let (a, rest) ← readCompared plain fuel tokens
    readFits plain fuel a rest

/-- Reads on after an expression that may be matched with patterns. -/
def readFits (plain : Bool) : Nat → Expr → List Token → Option (Expr × List Token)
  | 0, _, _ => none
  | fuel + 1, a, tokens => do
    match tokens with
    | .op "~" :: rest =>
      let (b, rest) ← readCompared plain fuel rest
      readFits plain fuel (.fits false a b) rest
    | .op "!~" :: rest =>
      let (b, rest) ← readCompared plain fuel rest
      readFits plain fuel (.fits true a b) rest
    | .word "in" :: .name name :: rest => readFits plain fuel (.member [a] name) rest
    | tokens => return (a, tokens)

/-- Reads a comparison. -/
def readCompared (plain : Bool) : Nat → List Token → Option (Expr × List Token)
  | 0, _ => none
  | fuel + 1, tokens => do
    let (a, rest) ← readJoined plain fuel tokens
    match rest with
    | .op op :: after =>
      if ["<", "<=", "==", "!=", ">", ">="].contains op ∧ (plain ∨ op ≠ ">") then
        let (b, rest) ← readJoined plain fuel after
        return (.compare op a b, rest)
      else
        match op, afterWord? "getline" after with
        | "|", some rest =>
          let (place?, rest) ← readPlace fuel rest
          return (.getRecord (some (true, a)) place?, rest)
        | _, _ => return (a, rest)
    | rest => return (a, rest)

/-- Reads texts one after the other. -/
def readJoined (plain : Bool) : Nat → List Token → Option (Expr × List Token)
  | 0, _ => none
  | fuel + 1, tokens => do
    let (a, rest) ← readLevel fuel arithmeticLevels tokens
    readMoreJoined plain fuel a rest

/-- Reads on after the first of several texts. -/
def readMoreJoined (plain : Bool) : Nat → Expr → List Token → Option (Expr × List Token)
  | 0, _, _ => none
  | fuel + 1, a, tokens =>
    if tokens.head?.any startsOperand then do
      let (b, rest) ← readLevel fuel arithmeticLevels tokens
      readMoreJoined plain fuel (.concat a b) rest
    else some (a, tokens)

/-- Reads calculations of a level. -/
def readLevel : Nat → List (List String) → List Token → Option (Expr × List Token)
  | 0, _, _ => none
  | fuel + 1, [], tokens => readUnary fuel tokens
  | fuel + 1, ops :: tighter, tokens => do
    let (a, rest) ← readLevel fuel tighter tokens
    readMoreLevel fuel ops tighter a rest

/-- Reads on after the first operand of calculations of a level. -/
def readMoreLevel : Nat → List String → List (List String) → Expr → List Token →
    Option (Expr × List Token)
  | 0, _, _, _, _ => none
  | fuel + 1, ops, tighter, a, tokens =>
    match tokens with
    | .op op :: rest =>
      if ops.contains op then do
        let (b, rest) ← readLevel fuel tighter rest
        readMoreLevel fuel ops tighter (.arithmetic op a b) rest
      else some (a, tokens)
    | tokens => some (a, tokens)

/-- Reads an operand with its signs. -/
def readUnary : Nat → List Token → Option (Expr × List Token)
  | 0, _ => none
  | fuel + 1, tokens => do
    match tokens with
    | .op "!" :: rest =>
      let (a, rest) ← readUnary fuel rest
      return (.not a, rest)
    | .op "-" :: rest =>
      let (a, rest) ← readUnary fuel rest
      return (.negative a, rest)
    | .op "+" :: rest =>
      let (a, rest) ← readUnary fuel rest
      return (.positive a, rest)
    | tokens =>
      let (a, rest) ← readStepped fuel tokens
      match afterOp? "^" rest with
      | none => return (a, rest)
      | some rest =>
        let (b, rest) ← readUnary fuel rest
        return (.arithmetic "^" a b, rest)

/-- Reads a value, which may grow or shrink by one. -/
def readStepped : Nat → List Token → Option (Expr × List Token)
  | 0, _ => none
  | fuel + 1, tokens => do
    let (a, rest) ← readValue fuel tokens
    match a.isPlace, rest with
    | true, .op "++" :: rest => return (.step false true a, rest)
    | true, .op "--" :: rest => return (.step false false a, rest)
    | _, rest => return (a, rest)

/-- Reads a value. -/
def readValue : Nat → List Token → Option (Expr × List Token)
  | 0, _ => none
  | fuel + 1, tokens => do
    match tokens with
    | .number x :: rest => return (.number x, rest)
    | .text cs :: rest => return (.text cs, rest)
    | .pattern cs :: rest => return (.pattern (← Search.read? true cs), rest)
    | .name name :: .op "[" :: rest =>
      let (index, rest) ← readList true fuel rest
      return (.element name index, ← afterOp? "]" rest)
    | .name name :: rest => return (.variable name, rest)
    | .op "$" :: .op "++" :: rest =>
      let (a, rest) ← readValue fuel rest
      return (.field (.step true true a), rest)
    | .op "$" :: .op "-" :: rest =>
      let (a, rest) ← readValue fuel rest
      return (.field (.negative a), rest)
    | .op "$" :: rest =>
      let (a, rest) ← readValue fuel rest
      return (.field a, rest)
    | .op "++" :: rest =>
      let (a, rest) ← readValue fuel rest
      if a.isPlace then return (.step true true a, rest) else none
    | .op "--" :: rest =>
      let (a, rest) ← readValue fuel rest
      if a.isPlace then return (.step true false a, rest) else none
    | .op "-" :: rest =>
      let (a, rest) ← readUnary fuel rest
      return (.negative a, rest)
    | .op "(" :: rest =>
      let (es, rest) ← readList true fuel rest
      let rest ← afterOp? ")" rest
      match es, rest with
      | [e], rest => return (e, rest)
      | es, .word "in" :: .name name :: rest => return (.member es name, rest)
      | _, _ => none
    | .called name :: rest =>
      let f := String.ofList name
      match afterOp? "(" rest with
      | some rest =>
        match afterOp? ")" rest with
        | some rest => return (.call f [], rest)
        | none =>
          let (es, rest) ← readList true fuel rest
          return (.call f es, ← afterOp? ")" rest)
      | none => if f = "length" then return (.call f [], rest) else none
    | .word "getline" :: rest =>
      let (place?, rest) ← readPlace fuel rest
      match afterOp? "<" rest with
      | some rest =>
        let (file, rest) ← readStepped fuel rest
        return (.getRecord (some (false, file)) place?, rest)
      | none => return (.getRecord none place?, rest)
    | _ => none

/-- Reads a place to which something can be assigned, if there is one. -/
def readPlace : Nat → List Token → Option (Option Expr × List Token)
  | 0, _ => none
  | fuel + 1, tokens =>
    match tokens with
    | .name _ :: _ | .op "$" :: _ => do
      let (e, rest) ← readValue fuel tokens
      return (some e, rest)
    | tokens => some (none, tokens)

/-- Reads expressions with commas between them, of which there is at least one. -/
def readList (plain : Bool) : Nat → List Token → Option (List Expr × List Token)
  | 0, _ => none
  | fuel + 1, tokens => do
    let (e, rest) ← readExpr plain fuel (skipLines tokens)
    match afterOp? "," (skipLines rest) with
    | some rest =>
      let (es, rest) ← readList plain fuel rest
      return (e :: es, rest)
    | none => return ([e], rest)

end

/-! ## Statements -/

/-- Whether a statement ends at a place. -/
def isEnd : List Token → Bool
  | [] | .lineEnd :: _ | .op ";" :: _ | .op "\x7d" :: _ => true
  | _ => false

/-- Tokens after the end of a simple statement. -/
def afterEnd? : List Token → Option (List Token)
  | .lineEnd :: rest | .op ";" :: rest => some (skipLines rest)
  | rest => if isEnd rest then some rest else none

/-- Whether something is said at a place about where to write, or a statement ends there. -/
def endsList (tokens : List Token) : Bool :=
  isEnd tokens || match tokens with
    | .op s :: _ => [">", ">>", "|"].contains s
    | _ => false

/-- Reads what a statement writes: expressions, which may stand in parentheses. -/
def readWritten (fuel : Nat) (tokens : List Token) : Option (List Expr × List Token) :=
  let inParentheses : Option (List Expr × List Token) := do
    let rest ← afterOp? "(" tokens
    let (es, rest) ← readList true fuel rest
    let rest ← afterOp? ")" rest
    if endsList rest then return (es, rest) else none
  if endsList tokens then some ([], tokens)
  else match inParentheses with
    | some found => some found
    | none => readList false fuel tokens

/-- Reads where a statement writes. -/
def readTarget (fuel : Nat) (tokens : List Token) : Option (Option (Target × Expr) × List Token) :=
  match tokens with
  | .op op :: rest =>
    let targets := [(">", Target.file), (">>", .appended), ("|", .command)]
    match targets.lookup op with
    | some target => do
      let (e, rest) ← readJoined false fuel rest
      return (some (target, e), rest)
    | none => some (none, tokens)
  | tokens => some (none, tokens)

/-- Reads a statement without others in it, up to its end. -/
def readSimple (fuel : Nat) (tokens : List Token) : Option (Statement × List Token) := do
  match tokens with
  | .word "print" :: rest =>
    let (es, rest) ← readWritten fuel rest
    let (target?, rest) ← readTarget fuel rest
    return (.print es target?, rest)
  | .word "printf" :: rest =>
    let (es, rest) ← readWritten fuel rest
    let (target?, rest) ← readTarget fuel rest
    if es.isEmpty then none else return (.format es target?, rest)
  | .word "break" :: rest => return (.stop, rest)
  | .word "continue" :: rest => return (.again, rest)
  | .word "next" :: rest => return (.next, rest)
  | .word "exit" :: rest =>
    if isEnd rest then return (.exit none, rest)
    else
      let (e, rest) ← readExpr true fuel rest
      return (.exit (some e), rest)
  | .word "delete" :: .name name :: rest =>
    match afterOp? "[" rest with
    | some rest =>
      let (index, rest) ← readList true fuel rest
      return (.delete name index, ← afterOp? "]" rest)
    | none => return (.delete name [], rest)
  | tokens =>
    let (e, rest) ← readExpr true fuel tokens
    return (.expression e, rest)

mutual

/-- Reads a statement, and what ends it. -/
def readStatement : Nat → List Token → Option (Statement × List Token)
  | 0, _ => none
  | fuel + 1, tokens => do
    match tokens with
    | .op "\x7b" :: rest =>
      let (ss, rest) ← readStatements fuel rest
      return (.block ss, skipLines rest)
    | .op ";" :: rest => return (.block [], skipLines rest)
    | .word "if" :: rest =>
      let (condition, rest) ← readCondition fuel rest
      let (consequence, rest) ← readStatement fuel (skipLines rest)
      match afterWord? "else" (skipEnds rest) with
      | some rest =>
        let (alternative, rest) ← readStatement fuel (skipLines rest)
        return (.branch condition consequence alternative, rest)
      | none => return (.branch condition consequence (.block []), rest)
    | .word "while" :: rest =>
      let (condition, rest) ← readCondition fuel rest
      let (body, rest) ← readStatement fuel (skipLines rest)
      return (.loop condition body, rest)
    | .word "do" :: rest =>
      let (body, rest) ← readStatement fuel (skipLines rest)
      let rest ← afterWord? "while" (skipEnds rest)
      let (condition, rest) ← readCondition fuel rest
      return (.loopAfter body condition, ← afterEnd? rest)
    | .word "for" :: .op "(" :: .name name :: .word "in" :: .name array :: .op ")" :: rest =>
      let (body, rest) ← readStatement fuel (skipLines rest)
      return (.each name array body, rest)
    | .word "for" :: .op "(" :: rest =>
      let (start, rest) ← readPart fuel rest
      let rest ← afterOp? ";" rest
      let rest := skipLines rest
      let (condition, rest) ← match afterOp? ";" rest with
        | some _ => some (.number 1, rest)
        | none => readExpr true fuel rest
      let rest ← afterOp? ";" rest
      let (step, rest) ← readPart fuel (skipLines rest)
      let rest ← afterOp? ")" rest
      let (body, rest) ← readStatement fuel (skipLines rest)
      return (.count start condition step body, rest)
    | tokens =>
      let (s, rest) ← readSimple fuel tokens
      return (s, ← afterEnd? rest)

/-- Reads the beginning or the step of a loop that counts, which may be missing. -/
def readPart : Nat → List Token → Option (Statement × List Token)
  | 0, _ => none
  | fuel + 1, tokens =>
    match tokens with
    | .op ";" :: _ | .op ")" :: _ => some (.block [], tokens)
    | tokens => readSimple fuel tokens

/-- Reads a condition in parentheses. -/
def readCondition : Nat → List Token → Option (Expr × List Token)
  | 0, _ => none
  | fuel + 1, tokens => do
    let (e, rest) ← readExpr true fuel (← afterOp? "(" tokens)
    return (e, ← afterOp? ")" rest)

/-- Reads statements up to the brace that ends them. -/
def readStatements : Nat → List Token → Option (List Statement × List Token)
  | 0, _ => none
  | fuel + 1, tokens =>
    let tokens := skipEnds tokens
    match afterOp? "\x7d" tokens with
    | some rest => some ([], rest)
    | none => do
      let (s, rest) ← readStatement fuel tokens
      let (ss, rest) ← readStatements fuel rest
      return (s :: ss, rest)

end

/-! ## Rules -/

/-- Reads the guard of a rule. -/
def readGuard (fuel : Nat) (tokens : List Token) : Option (Guard × List Token) := do
  match tokens with
  | .word "BEGIN" :: rest => return (.atStart, rest)
  | .word "END" :: rest => return (.atEnd, rest)
  | .op "\x7b" :: _ => return (.always, tokens)
  | tokens =>
    let (first, rest) ← readExpr true fuel tokens
    match afterOp? "," rest with
    | some rest =>
      let (last, rest) ← readExpr true fuel (skipLines rest)
      return (.from_ first last, rest)
    | none => return (.when first, rest)

/-- Reads rules, at most `n` of them. -/
def readRules (fuel : Nat) : Nat → List Token → Option (List Rule)
  | 0, _ => none
  | n + 1, tokens =>
    match skipEnds tokens with
    | [] => some []
    | tokens => do
      let (guard, rest) ← readGuard fuel tokens
      match afterOp? "\x7b" rest with
      | some rest =>
        let (statements, rest) ← readStatements fuel rest
        return ⟨guard, statements⟩ :: (← readRules fuel n rest)
      | none => return ⟨guard, [.print [] none]⟩ :: (← readRules fuel n (← afterEnd? rest))

/-- The rules that a text writes. -/
def read? (cs : Chars) : Option (List Rule) := do
  let tokens ← Token.scan cs
  readRules (30 * tokens.length + 30) (tokens.length + 1) tokens

end Container.Programs.Awk
