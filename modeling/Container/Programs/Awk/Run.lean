import Container.Programs.Awk.Value
import Container.Programs.Options

set_option autoImplicit false

/-!
# The record language: running programs

The rules of a program are gone through for every record of the input, between those that are
meant for the beginning and those for the end.

## Main definitions

* `Awk.State` — what a program remembers.
* `Awk.evaluate` — the value of an expression.
* `Awk.perform` — does what a statement says.
* `awk` — the program.
-/

namespace Container.Programs

namespace Awk

/-- What a program remembers. -/
structure State where
  /-- The values of variables. -/
  values : List (Chars × Value)
  arrays : List (Chars × List (Chars × Value))
  record : Chars
  fields : List Chars
  /-- What is left of the text that is read, if one is. -/
  current? : Option Chars
  /-- The operands still to be read, or set. -/
  waiting : List Chars
  /-- Whether any operand named a text. -/
  hasRead : Bool
  /-- The rules that are followed from one record to another. -/
  active : List Nat
  /-- Where is written, by the names of files. -/
  outputs : List (Chars × Stream)
  /-- What commands are given to read, at their end. -/
  piped : List (Chars × Chars)
  /-- What is left of other texts that are read. -/
  inputs : List (Chars × Chars)
  /-- The number that the next one at random is made of. -/
  seed : Nat
  code : Nat
  /-- Whether something went wrong for good. -/
  broken : Bool

/-- Computations of a program. -/
abbrev RunM := StateT State HostM

/-- What programs are run with. -/
structure Setting where
  launch : Launch
  invocation : Invocation

/-! ## Variables and fields -/

/-- A variable by its name. -/
def State.variable (s : State) (name : String) : Value :=
  (s.values.lookup name.toList).getD .unset

/-- The text of a variable. -/
def State.textOf (s : State) (name : String) : Chars := (s.variable name).toText usualFormat

/-- A list of pairs in which a name has a value. -/
def withValue {α : Type} (name : Chars) (a : α) (pairs : List (Chars × α)) : List (Chars × α) :=
  if (pairs.lookup name).isSome then pairs.map fun (n, b) => (n, if n = name then a else b)
  else pairs ++ [(name, a)]

/-- The state with a variable set. -/
def State.put (s : State) (name : String) (v : Value) : State :=
  { s with values := withValue name.toList v s.values }

/-- The fields of a record. -/
def State.split (s : State) (record : Chars) : List Chars :=
  let separator := s.textOf "FS"
  if (s.textOf "RS").isEmpty ∧ separator ≠ [' '] then
    (record.splitOn '\n').flatMap (fieldsOf separator)
  else fieldsOf separator record

/-- The state with a record. -/
def State.withRecord (s : State) (record : Chars) : State :=
  let fields := s.split record
  { s.put "NF" (.number (Float.ofNat fields.length)) with record, fields }

/-- The state with other fields, of which the record is made anew. -/
def State.withFields (s : State) (fields : List Chars) : State :=
  { s.put "NF" (.number (Float.ofNat fields.length)) with
    fields, record := Chars.join (s.textOf "OFS") fields }

/-- Something that can be assigned to. -/
inductive Spot where
  | variable (name : Chars)
  | element (array key : Chars)
  | field (n : Nat)

/-- What is there. -/
def Spot.get (spot : Spot) (s : State) : Value :=
  match spot with
  | .variable name => (s.values.lookup name).getD .unset
  | .element array key => (((s.arrays.lookup array).getD []).lookup key).getD .unset
  | .field 0 => .given s.record
  | .field (n + 1) => match s.fields[n]? with
    | some cs => .given cs
    | none => .unset

/-- The state with something else there. -/
def Spot.put (spot : Spot) (v : Value) (s : State) : State :=
  let text := v.toText (s.textOf "CONVFMT")
  match spot with
  | .variable name =>
    let s := { s with values := withValue name v s.values }
    if name = "NF".toList then
      let n := (wholeOf v.toNumber).toNat
      s.withFields (s.fields.take n ++ List.replicate (n - s.fields.length) [])
    else s
  | .element array key =>
    let pairs := (s.arrays.lookup array).getD []
    { s with arrays := withValue array (withValue key v pairs) s.arrays }
  | .field 0 => s.withRecord text
  | .field (n + 1) =>
    let fields := s.fields ++ List.replicate (n + 1 - s.fields.length) []
    s.withFields (fields.set n text)

/-- Complains, and ends the program. -/
def fail (c : Setting) (what : Chars) : RunM Unit := do
  complain c.invocation (chars "awk: " ++ what ++ ['\n'])
  modify fun s => { s with code := 2, broken := true }

/-! ## Reading -/

/-- The value of a setting that is written like an assignment: escapes in it are replaced. -/
def assignment? (cs : Chars) : Option (Chars × Value) :=
  match cs.span (· ≠ '=') with
  | (name, _ :: value) =>
    if Chars.isName name then some (name, .given (Format.unescaped false value).1) else none
  | (_, []) => none

/-- Begins to read the next text, if there is one, skipping at most `fuel` operands that are
assignments. -/
def openNext (c : Setting) : Nat → RunM Bool
  | 0 => return false
  | fuel + 1 => do
    let s ← get
    match s.waiting with
    | [] =>
      if s.hasRead then return false
      else
        let content ← input c.invocation
        set { s.put "FILENAME" (.text ['-']) with
          current? := some (Chars.ofBytes content), hasRead := true }
        return true
    | operand :: waiting =>
      set { s with waiting }
      match assignment? operand with
      | some (name, v) =>
        modify (Spot.put (.variable name) v)
        openNext c fuel
      | none =>
        match ← contentOf c.invocation operand with
        | .ok content =>
          modify fun s => { (s.put "FILENAME" (.text operand)).put "FNR" (.number 0) with
            current? := some (Chars.ofBytes content)
            hasRead := true }
          return true
        | .error e =>
          fail c (chars "cannot open " ++ Chars.doubleQuote :: operand ++
            Chars.doubleQuote :: chars " (" ++ wordingOf e ++ [')'])
          return false

/-- The next record of the input, where at most `fuel` texts are begun. -/
def nextRecord? (c : Setting) : Nat → RunM (Option Chars)
  | 0 => return none
  | fuel + 1 => do
    let s ← get
    let left := s.current?.getD []
    let left := if (s.textOf "RS").isEmpty then left.dropWhile (· = '\n') else left
    if left.isEmpty then
      if ← openNext c (s.waiting.length + 1) then nextRecord? c fuel else return none
    else
      let (record, rest) := firstRecord (s.textOf "RS") left
      let one (name : String) : Value := .number ((s.variable name).toNumber + 1)
      set { (s.put "NR" (one "NR")).put "FNR" (one "FNR") with current? := some rest }
      return some record

/-- Runs a command, which reads a text, and writes somewhere. -/
def runCommand (c : Setting) (command given : Chars) (output : Stream) : RunM Nat := do
  let source ← Host.newPipe (Chars.bytes given)
  let inv := c.invocation
  let started := { inv with
    arguments := [chars "/bin/sh", chars "-c", command]
    streams := (0, source) :: (1, output) :: inv.streams.filter fun s => s.1 ≠ 0 ∧ s.1 ≠ 1 }
  match ← c.launch none started with
  | .ok status => return status.code?.getD (256 + status.signal?.getD 0)
  | .error _ => return 127

/-- The text that a file holds or a command writes, as far as it is not read yet. -/
def leftOf (c : Setting) (isCommand : Bool) (name : Chars) : RunM (Option Chars) := do
  match (← get).inputs.lookup name with
  | some left => return some left
  | none =>
    if isCommand then
      let pipe ← Host.newPipe []
      let _ ← runCommand c name [] pipe
      return some (Chars.ofBytes (← Host.takeAll pipe))
    else
      match ← contentOf c.invocation name with
      | .ok content => return some (Chars.ofBytes content)
      | .error _ => return none

/-- Reads a record from somewhere into a place, or as the record there is. The answer is 1, or 0 at
the end, or -1 where nothing can be read. -/
def getRecord (c : Setting) (source? : Option (Bool × Chars)) (spot? : Option Spot) :
    RunM Float := do
  let keep (record : Chars) : RunM Unit := modify fun s =>
    match spot? with
    | some spot => spot.put (.given record) s
    | none => s.withRecord record
  match source? with
  | none =>
    match ← nextRecord? c ((← get).waiting.length + 2) with
    | some record =>
      keep record
      return 1
    | none => return 0
  | some (isCommand, name) =>
    match ← leftOf c isCommand name with
    | none => return -1
    | some left =>
      let s ← get
      let (record, rest) := firstRecord (s.textOf "RS") left
      modify fun s =>
        { s with inputs := withValue name (if left.isEmpty then [] else rest) s.inputs }
      if left.isEmpty then return 0
      else
        keep record
        if isCommand then modify fun s => s.put "NR" (.number ((s.variable "NR").toNumber + 1))
        return 1

/-! ## Writing -/

/-- Ends what was written to a command, which is run now, or to a file. -/
def close (c : Setting) (name : Chars) : RunM Float := do
  let s ← get
  let isOpen := (s.outputs.lookup name).isSome || (s.inputs.lookup name).isSome
  set { s with
    outputs := s.outputs.filter (·.1 ≠ name)
    inputs := s.inputs.filter (·.1 ≠ name)
    piped := s.piped.filter (·.1 ≠ name) }
  match s.piped.lookup name with
  | some given => return Float.ofNat (← runCommand c name given (c.invocation.stream 1))
  | none => return if isOpen then 0 else -1

/-- Writes a text. -/
def put (c : Setting) (target? : Option (Target × Chars)) (text : Chars) : RunM Unit := do
  match target? with
  | none => say c.invocation text
  | some (.command, name) => modify fun s => { s with
      piped := withValue name (((s.piped.lookup name).getD []) ++ text) s.piped }
  | some (kind, name) =>
    let isNew := match kind with
      | .file => true
      | _ => false
    match (← get).outputs.lookup name, descriptorOf? name with
    | some stream, _ => Host.write stream (Chars.bytes text)
    | none, some fd => Host.write (c.invocation.stream fd) (Chars.bytes text)
    | none, none =>
      match ← Host.openOutput c.invocation.view (path name) isNew with
      | .ok stream =>
        modify fun s => { s with outputs := (name, stream) :: s.outputs }
        Host.write stream (Chars.bytes text)
      | .error e =>
        fail c (chars "cannot open " ++ Chars.doubleQuote :: name ++ Chars.doubleQuote ::
          chars " for output (" ++ wordingOf e ++ [')'])

/-! ## Functions -/

/-- The pattern that an argument is or writes. -/
def patternOf (e : Expr) (v : Value) : Search.Pattern :=
  match e with
  | .pattern p => p
  | _ =>
    let text := v.toText usualFormat
    (Search.read? true text).getD (Search.literal text)

/-- A replacement, in which an ampersand stands for what was found. -/
def replaced (found : Chars) : Chars → Chars
  | '\\' :: '&' :: cs => '&' :: replaced found cs
  | '\\' :: '\\' :: cs => '\\' :: replaced found cs
  | '&' :: cs => found ++ replaced found cs
  | c :: cs => c :: replaced found cs
  | [] => []

/-- A text in which places where a pattern occurs are replaced, the first of them or all, and how
many were. -/
def substituted (all : Bool) (p : Search.Pattern) (replacement text : Chars) : Chars × Nat :=
  let found := Search.occurrences false p text
  let found := if all then found else found.take 1
  let (shown, stop) := found.foldl (fun (shown, stop) o =>
    (shown ++ (text.drop stop).take (o.before.length - stop) ++ replaced o.text replacement,
      o.before.length + o.text.length)) ([], 0)
  (shown ++ text.drop stop, found.length)

/-- A part of a text, by its first character, counted from one, and a length. -/
def part (text : Chars) (start : Float) (length? : Option Float) : Chars :=
  let first := wholeOf (truncated start)
  match length? with
  | none => text.drop (first - 1).toNat
  | some n =>
    let count := wholeOf (truncated n)
    if first < 1 then text.take (count - first).toNat
    else (text.drop (first - 1).toNat).take count.toNat

/-- What a function makes of its arguments, of which the values are given, and the places they
come from. -/
def applied (c : Setting) (name : String) (arguments : List Expr)
    (vs : List (Value × Option Spot)) :
    RunM Value := do
  let s ← get
  let format := s.textOf "CONVFMT"
  let value (n : Nat) : Value := (vs[n]?.map (·.1)).getD Value.unset
  let text (n : Nat) : Chars := (value n).toText format
  let number (n : Nat) : Float := (value n).toNumber
  let patternAt (n : Nat) : Search.Pattern :=
    patternOf (arguments[n]?.getD (Expr.text [])) (value n)
  let ofNat (n : Nat) : Value := .number (Float.ofNat n)
  match name with
  | "length" =>
    let array? : Option (List (Chars × Value)) := match arguments.head? with
      | some (Expr.variable array) => s.arrays.lookup array
      | _ => none
    return ofNat (match array? with
      | some pairs => pairs.length
      | none => (if arguments.isEmpty then s.record else text 0).length)
  | "substr" =>
    return .text (part (text 0) (number 1) (if vs.length < 3 then none else some (number 2)))
  | "index" =>
    return ofNat (if (text 1).isEmpty then 1
      else ((Search.find? false (Search.literal (text 1)) (text 0) 0).map fun o =>
        o.before.length + 1).getD 0)
  | "split" =>
    let parts := match arguments[2]? with
      | some (Expr.pattern p) => if (text 0).isEmpty then [] else between p (text 0)
      | some _ => fieldsOf (text 2) (text 0)
      | none => s.split (text 0)
    if let some (Expr.variable array) := arguments[1]? then
      let pairs := (parts.zipIdx 1).map fun (part, i) => (Chars.ofNat i, Value.given part)
      set { s with arrays := withValue array pairs s.arrays }
    return ofNat parts.length
  | "sub" | "gsub" =>
    let spot := ((vs[2]?).bind (·.2)).getD (.field 0)
    let target := if vs.length < 3 then s.record else text 2
    let (shown, n) := substituted (name = "gsub") (patternAt 0) (text 1) target
    if 0 < n then modify (spot.put (.text shown))
    return ofNat n
  | "match" =>
    let (start, length) : Int × Int := match Search.find? false (patternAt 1) (text 0) 0 with
      | some o => ((o.before.length + 1 : Nat), (o.text.length : Nat))
      | none => (0, -1)
    modify fun s => (s.put "RSTART" (.number (Float.ofInt start))).put "RLENGTH"
      (.number (Float.ofInt length))
    return .number (Float.ofInt start)
  | "sprintf" =>
    match formatted? (text 0) (vs.drop 1 |>.map (·.1)) with
    | some shown => return .text shown
    | none =>
      fail c (chars "run time error: not enough arguments passed to sprintf")
      return .unset
  | "tolower" => return .text ((text 0).map Char.toLower)
  | "toupper" => return .text ((text 0).map Char.toUpper)
  | "int" => return .number (truncated (number 0))
  | "sqrt" => return .number (number 0).sqrt
  | "exp" => return .number (number 0).exp
  | "log" => return .number (number 0).log
  | "sin" => return .number (number 0).sin
  | "cos" => return .number (number 0).cos
  | "atan2" => return .number (Float.atan2 (number 0) (number 1))
  | "rand" =>
    let seed := (s.seed * 1103515245 + 12345) % 2 ^ 31
    set { s with seed }
    return .number (Float.ofNat seed / Float.ofNat (2 ^ 31))
  | "srand" =>
    set { s with seed := (wholeOf (number 0)).natAbs }
    return ofNat s.seed
  | "system" => return ofNat (← runCommand c (text 0) [] (c.invocation.stream 1))
  | "close" => return .number (← close c (text 0))
  | _ =>
    fail c (chars ("function " ++ name ++ " never defined"))
    return .unset

/-! ## Expressions -/

mutual

/-- The value of an expression. -/
def evaluate (c : Setting) : Expr → RunM Value
  | .number x => return .number x
  | .text cs => return .text cs
  | .pattern p => return truth (Search.occurs false p (← get).record)
  | .variable name => return (Spot.variable name).get (← get)
  | .element name index => do
    let spot := Spot.element name (← keyOf c index)
    let v := spot.get (← get)
    modify (spot.put v)
    return v
  | .field e => do
    let n := wholeOf (← evaluate c e).toNumber
    if n < 0 then fail c (chars "run time error: negative field index")
    return (Spot.field n.toNat).get (← get)
  | .assign op? place value => do
    let v ← evaluate c value
    let spot? ← spotOf c place
    let s ← get
    let v := match op?, spot? with
      | some op, some spot => .number (calculate op (spot.get s).toNumber v.toNumber)
      | _, _ => v
    if let some spot := spot? then modify (spot.put v)
    return v
  | .choice condition a b => do
    if (← evaluate c condition).isTrue then evaluate c a else evaluate c b
  | .either a b => do
    if (← evaluate c a).isTrue then return truth true else return truth (← evaluate c b).isTrue
  | .both a b => do
    if (← evaluate c a).isTrue then return truth (← evaluate c b).isTrue else return truth false
  | .not a => do return truth !(← evaluate c a).isTrue
  | .member index name => do
    let key ← keyOf c index
    return truth ((((← get).arrays.lookup name).getD []).lookup key).isSome
  | .fits negated a b => do
    let text := (← evaluate c a).toText ((← get).textOf "CONVFMT")
    let p := patternOf b (← evaluate c b)
    return truth (Search.occurs false p text != negated)
  | .compare op a b => do
    let x ← evaluate c a
    let y ← evaluate c b
    return truth (compare ((← get).textOf "CONVFMT") op x y)
  | .concat a b => do
    let x ← evaluate c a
    let y ← evaluate c b
    let format := (← get).textOf "CONVFMT"
    return .text (x.toText format ++ y.toText format)
  | .arithmetic op a b => do
    let x ← evaluate c a
    let y ← evaluate c b
    return .number (calculate op x.toNumber y.toNumber)
  | .negative a => do return .number (-(← evaluate c a).toNumber)
  | .positive a => do return .number (← evaluate c a).toNumber
  | .step isBefore grows place => do
    let spot? ← spotOf c place
    let s ← get
    let old := match spot? with
      | some spot => (spot.get s).toNumber
      | none => 0
    let new := if grows then old + 1 else old - 1
    if let some spot := spot? then modify (spot.put (.number new))
    return .number (if isBefore then new else old)
  | .call name arguments => do applied c name arguments (← evaluateAll c arguments)
  | .getRecord source? place? => do
    let source? ← match source? with
      | some (isCommand, e) => do
        let name := (← evaluate c e).toText ((← get).textOf "CONVFMT")
        pure (some (isCommand, name))
      | none => pure none
    let spot? ← match place? with
      | some place => spotOf c place
      | none => pure none
    return .number (← getRecord c source? spot?)

/-- The place that an expression names, if it does. -/
def spotOf (c : Setting) : Expr → RunM (Option Spot)
  | .variable name => return some (.variable name)
  | .element name index => do return some (.element name (← keyOf c index))
  | .field e => do
    let n := wholeOf (← evaluate c e).toNumber
    if n < 0 then fail c (chars "run time error: negative field index")
    return some (.field n.toNat)
  | _ => return none

/-- The values of expressions, and the places that they name. -/
def evaluateAll (c : Setting) : List Expr → RunM (List (Value × Option Spot))
  | [] => return []
  | e :: es => do
    let first ← match ← spotOf c e with
      | some spot => do pure (spot.get (← get), some spot)
      | none => do pure (← evaluate c e, none)
    return first :: (← evaluateAll c es)

/-- The key of an element, made of the values of expressions. -/
def keyOf (c : Setting) : List Expr → RunM Chars
  | [] => return []
  | [e] => do return (← evaluate c e).toText ((← get).textOf "CONVFMT")
  | e :: es => do
    let first := (← evaluate c e).toText ((← get).textOf "CONVFMT")
    return first ++ (← get).textOf "SUBSEP" ++ (← keyOf c es)

end

/-! ## Statements -/

/-- Where a program goes on after a statement. -/
inductive Course where
  | on
  | stop
  | again
  | next
  | exit
  deriving DecidableEq

/-- Where a statement writes. -/
def targetOf (c : Setting) : Option (Target × Expr) → RunM (Option (Target × Chars))
  | none => return none
  | some (kind, e) => do
    return some (kind, (← evaluate c e).toText ((← get).textOf "CONVFMT"))

/-- How often a loop may go round. -/
def roundLimit : Nat := 100000

mutual

/-- Does what a statement says. Statements lie at most `fuel` deep in one another, and loops go
round so often at most. -/
def perform (c : Setting) : Nat → Statement → RunM Course
  | 0, _ => return .exit
  | fuel + 1, statement => do
    if (← get).broken then return .exit
    match statement with
    | .expression e =>
      let _ ← evaluate c e
      return .on
    | .print es target? =>
      let vs ← evaluateAll c es
      let s ← get
      let text := if es.isEmpty then s.record
        else Chars.join (s.textOf "OFS") (vs.map fun v => v.1.toText (s.textOf "OFMT"))
      put c (← targetOf c target?) (text ++ s.textOf "ORS")
      return .on
    | .format es target? =>
      let vs := (← evaluateAll c es).map (·.1)
      match formatted? ((vs.head?.getD .unset).toText usualFormat) (vs.drop 1) with
      | some text => put c (← targetOf c target?) text
      | none => fail c (chars "run time error: not enough arguments passed to printf")
      return .on
    | .block ss => performAll c fuel ss
    | .branch condition consequence alternative =>
      if (← evaluate c condition).isTrue then perform c fuel consequence
      else perform c fuel alternative
    | .loop condition body =>
      if (← evaluate c condition).isTrue then
        match ← perform c fuel body with
        | .on | .again => perform c fuel statement
        | .stop => return .on
        | course => return course
      else return .on
    | .loopAfter body condition =>
      match ← perform c fuel body with
      | .on | .again =>
        if (← evaluate c condition).isTrue then perform c fuel statement else return .on
      | .stop => return .on
      | course => return course
    | .count start condition step body =>
      let _ ← perform c fuel start
      if (← evaluate c condition).isTrue then
        match ← perform c fuel body with
        | .on | .again =>
          let _ ← perform c fuel step
          perform c fuel (.count (.block []) condition step body)
        | .stop => return .on
        | course => return course
      else return .on
    | .each name array body =>
      performEach c fuel name body (((← get).arrays.lookup array).getD [] |>.map (·.1))
    | .stop => return .stop
    | .again => return .again
    | .next => return .next
    | .exit code? =>
      if let some e := code? then
        let code := wholeOf (← evaluate c e).toNumber
        modify fun s => { s with code := (code % 256).toNat }
      return .exit
    | .delete name [] =>
      modify fun s => { s with arrays := withValue name [] s.arrays }
      return .on
    | .delete name index =>
      let key ← keyOf c index
      modify fun s => { s with
        arrays := withValue name (((s.arrays.lookup name).getD []).filter (·.1 ≠ key)) s.arrays }
      return .on

/-- Does what statements say, one after the other. -/
def performAll (c : Setting) : Nat → List Statement → RunM Course
  | 0, _ => return .exit
  | _, [] => return .on
  | fuel + 1, s :: ss => do
    match ← perform c fuel s with
    | .on => performAll c fuel ss
    | course => return course

/-- Does what a statement says for every key of an array. -/
def performEach (c : Setting) : Nat → Chars → Statement → List Chars → RunM Course
  | 0, _, _, _ => return .exit
  | _, _, _, [] => return .on
  | fuel + 1, name, body, key :: keys => do
    modify (Spot.put (.variable name) (.given key))
    match ← perform c fuel body with
    | .on | .again => performEach c fuel name body keys
    | .stop => return .on
    | course => return course

end

/-! ## Programs -/

/-- Follows some rules, in order. -/
def follow (c : Setting) (isMeant : Nat → Guard → RunM Bool) : List (Rule × Nat) → RunM Course
  | [] => return .on
  | (rule, i) :: rules => do
    if ← isMeant i rule.guard then
      match ← performAll c roundLimit rule.statements with
      | .next => return .on
      | .exit => return .exit
      | _ => follow c isMeant rules
    else follow c isMeant rules

/-- Whether a rule is meant for a record. -/
def isMeant (c : Setting) (i : Nat) : Guard → RunM Bool
  | .atStart | .atEnd => return false
  | .always => return true
  | .when e => do return (← evaluate c e).isTrue
  | .from_ first last => do
    let isActive := (← get).active.contains i
    let begins ← if isActive then pure true else pure (← evaluate c first).isTrue
    if begins then
      let ends := (← evaluate c last).isTrue
      modify fun s => { s with active := s.active.filter (· ≠ i) ++ if ends then [] else [i] }
      return true
    else return false

/-- Follows rules for every record, of which there are at most `fuel`. -/
def followAll (c : Setting) (rules : List (Rule × Nat)) : Nat → RunM Course
  | 0 => return .on
  | fuel + 1 => do
    match ← nextRecord? c ((← get).waiting.length + 2) with
    | none => return .on
    | some record =>
      modify (·.withRecord record)
      match ← follow c (isMeant c) rules with
      | .exit => return .exit
      | _ => if (← get).broken then return .exit else followAll c rules fuel

/-- Whether a rule is meant for the beginning. -/
def Guard.isStart : Guard → Bool
  | .atStart => true
  | _ => false

/-- Whether a rule is meant for the end. -/
def Guard.isEnd : Guard → Bool
  | .atEnd => true
  | _ => false

/-- Runs the rules of a program. Without rules nothing is read. -/
def runRules (c : Setting) (rules : List Rule) : RunM Unit := do
  let numbered := rules.zipIdx
  let starts (_ : Nat) (g : Guard) : RunM Bool := return g.isStart
  let ends (_ : Nat) (g : Guard) : RunM Bool := return g.isEnd
  let course ← follow c starts numbered
  if course ≠ .exit ∧ ¬ rules.all (·.guard.isStart) then
    let _ ← followAll c numbered roundLimit
  if !(← get).broken then
    let _ ← follow c ends numbered
  for (name, _) in (← get).piped do
    let _ ← close c name

/-- What a program begins with. -/
def State.start (inv : Invocation) (operands : List Chars) : State :=
  let own := inv.arguments.head?.getD []
  let arguments := ((own :: operands).zipIdx).map fun (cs, i) => (Chars.ofNat i, Value.given cs)
  let environment := inv.settings.map fun setting =>
    (settingName setting, Value.given (setting.drop ((settingName setting).length + 1)))
  let text (s : String) : Value := .text s.toList
  { values := [
      ("FS".toList, text " "), ("OFS".toList, text " "), ("RS".toList, text "\n"),
      ("ORS".toList, text "\n"), ("OFMT".toList, text "%.6g"), ("CONVFMT".toList, text "%.6g"),
      ("SUBSEP".toList, .text [Char.ofNat 28]), ("NR".toList, .number 0), ("FNR".toList, .number 0),
      ("NF".toList, .number 0), ("FILENAME".toList, .unset), ("RSTART".toList, .number 0),
      ("RLENGTH".toList, .number (-1)), ("ARGC".toList, .number (Float.ofNat arguments.length))]
    arrays := [("ARGV".toList, arguments), ("ENVIRON".toList, environment)]
    record := []
    fields := []
    current? := none
    waiting := operands
    hasRead := false
    active := []
    outputs := []
    piped := []
    inputs := []
    seed := 1
    code := 0
    broken := false }

end Awk

/-- Runs a program of the record language. -/
def awk (launch : Launch) : Body := fun inv => do
  let o := (Usage.mk "F:v:f:").read false (inv.arguments.drop 1)
  match o.fault? with
  | some fault =>
    complain inv (chars "awk: " ++ fault ++ ['\n'])
    return 2
  | none =>
    let scripts ← (o.valuesOf 'f').mapM fun file => contentOf inv file
    let failed? := ((o.valuesOf 'f').zip scripts).find? fun (_, r) => !r.isOk
    let fromFiles := scripts.filterMap fun r => (r.toOption).map Chars.ofBytes
    let (program?, operands) :=
      if scripts.isEmpty then (o.operands.head?, o.operands.drop 1)
      else (some (Chars.join ['\n'] fromFiles), o.operands)
    match failed?, program?.map Awk.read? with
    | some (file, _), _ =>
      complain inv (chars "awk: cannot open " ++ file ++ ['\n'])
      return 2
    | none, none =>
      complain inv (chars "Usage: awk [Options] [Program] [file ...]\n")
      return 0
    | none, some none =>
      complain inv (chars "awk: line 1: syntax error\n")
      return 2
    | none, some (some rules) =>
      let start := Awk.State.start inv operands
      let start := (o.valuesOf 'v').foldl (fun s setting =>
        match Awk.assignment? setting with
        | some (name, v) => (Awk.Spot.variable name).put v s
        | none => s) start
      let start := match o.value? 'F' with
        | some separator => start.put "FS" (.text (Format.unescaped false separator).1)
        | none => start
      let ((), s) ← (Awk.runRules ⟨launch, inv⟩ rules).run start
      return s.code

end Container.Programs
