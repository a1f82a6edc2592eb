import Container.Programs.Texts

set_option autoImplicit false

/-!
# The order of lines

Lines are put in order by keys: parts of them that are compared as texts or as numbers, one key
after the other. Lines that no key tells apart are in the order of their bytes.

## Main definitions

* `Key` — a part of a line and how it is compared.
* `Key.read?` — the key that a text describes.
* `Order` — how lines are compared.
* `sort` — the program.
-/

namespace Container.Programs

/-- A position in a line: a field and a character in it, counted from one; no character stands for
the beginning of the field, or for its end. -/
structure Position where
  field : Nat
  char? : Option Nat

/-- A part of a line and how it is compared. -/
structure Key where
  start : Position
  stop? : Option Position
  manner : Chars

/-- The position that a text begins with, and what follows it. -/
def Position.read? (cs : Chars) : Option (Position × Chars) := do
  let (field, rest) := cs.span Char.isDigit
  let field ← (Chars.toNat? field).filter (0 < ·)
  match rest with
  | '.' :: rest =>
    let (char, rest) := rest.span Char.isDigit
    return (⟨field, some (← Chars.toNat? char)⟩, rest)
  | rest => return (⟨field, none⟩, rest)

/-- The key that a text describes. -/
def Key.read? (cs : Chars) : Option Key := do
  let (start, rest) ← Position.read? cs
  let (manner, rest) := rest.span Char.isAlpha
  match rest with
  | [] => return ⟨start, none, manner⟩
  | ',' :: rest =>
    let (stop, rest) ← Position.read? rest
    if rest.all Char.isAlpha then return ⟨start, some stop, manner ++ rest⟩ else none
  | _ => none

/-- The fields of a line with the places where they begin: texts between separators, or blanks
with what follows them. -/
def fieldsFrom (separator? : Option Char) : Nat → Nat → Chars → List (Nat × Chars)
  | 0, _, _ => []
  | fuel + 1, at_, cs =>
    match separator? with
    | some c =>
      match cs.span (· ≠ c) with
      | (field, []) => [(at_, field)]
      | (field, _ :: rest) =>
        (at_, field) :: fieldsFrom separator? fuel (at_ + field.length + 1) rest
    | none =>
      let blanks := cs.takeWhile Chars.isBlank
      let (word, rest) := (cs.drop blanks.length).span fun c => !Chars.isBlank c
      let field := blanks ++ word
      if rest.isEmpty then [(at_, field)]
      else (at_, field) :: fieldsFrom separator? fuel (at_ + field.length) rest

/-- The part of a line that a key names. -/
def Key.part (key : Key) (separator? : Option Char) (line : Chars) : Chars :=
  let fields := fieldsFrom separator? (line.length + 1) 0 line
  let skip (cs : Chars) : Nat :=
    if key.manner.contains 'b' then (cs.takeWhile Chars.isBlank).length else 0
  let start := match fields[key.start.field - 1]? with
    | some (at_, field) => at_ + skip field + (key.start.char?.getD 1 - 1)
    | none => line.length
  let stop := match key.stop? with
    | none => line.length
    | some p => match fields[p.field - 1]?, p.char? with
      | some (at_, field), some (n + 1) => at_ + skip field + n + 1
      | some (at_, field), _ => at_ + field.length
      | none, _ => line.length
  (line.take stop).drop start

/-- The number that a text begins with, in units of which there are so many in one that no
fraction is lost. -/
def leadingNumber (cs : Chars) : Int :=
  let digits : Nat := 20
  let cs := cs.dropWhile Chars.isBlank
  let (negative, cs) := match cs with
    | '-' :: cs => (true, cs)
    | cs => (false, cs)
  let (whole, rest) := cs.span Char.isDigit
  let fraction := match rest with
    | '.' :: rest => (rest.takeWhile Char.isDigit).take digits
    | _ => []
  let fraction := fraction ++ List.replicate (digits - fraction.length) '0'
  let n : Nat := (Chars.toNat? (whole ++ fraction)).getD 0
  if negative then -n else n

/-- How lines are compared. -/
structure Order where
  keys : List Key
  separator? : Option Char
  /-- What counts for keys that say nothing themselves. -/
  manner : Chars

/-- How large the unit after a number is. -/
def unitRank (cs : Chars) : Nat :=
  let rest := (cs.dropWhile Chars.isBlank).dropWhile fun c => c.isDigit || c = '.' || c = '-'
  match rest.head? with
  | some c => ((("KMGTPEZY".toList).idxOf? (if c = 'k' then 'K' else c)).map (· + 1)).getD 0
  | none => 0

/-- How two numbers with units compare. -/
def compareScaled (a b : Chars) : Ordering :=
  let (m, n) := (leadingNumber a, leadingNumber b)
  let signs := compare (decide (0 ≤ m)) (decide (0 ≤ n))
  let sizes := (compare (unitRank a) (unitRank b)).then (compare m.natAbs n.natAbs)
  signs.then (if m < 0 then sizes.swap else sizes)

/-- A text in stretches of digits, each as its number, and other characters. -/
def versionParts : Nat → Chars → List Nat
  | 0, _ => []
  | _, [] => []
  | fuel + 1, c :: cs =>
    if c.isDigit then
      let (digits, rest) := (c :: cs).span Char.isDigit
      ((Chars.toNat? digits).getD 0) :: versionParts fuel rest
    else
      let place := if c = '~' then 0 else if c.isAlpha then c.toNat + 2 ^ 32 else c.toNat + 2 ^ 33
      place :: versionParts fuel cs

/-- How two parts of lines compare in a manner. -/
def compareParts (manner : Chars) (a b : Chars) : Ordering :=
  let compared :=
    if manner.contains 'h' then compareScaled a b
    else if manner.contains 'V' then
      compare (versionParts (a.length + 1) a) (versionParts (b.length + 1) b)
    else if manner.any "ng".toList.contains then compare (leadingNumber a) (leadingNumber b)
    else
      let text (cs : Chars) : List Nat :=
        (if manner.contains 'f' then cs.map Char.toUpper else cs).map Char.toNat
      compare (text a) (text b)
  if manner.contains 'r' then compared.swap else compared

/-- How two lines compare by the keys of an order. -/
def Order.byKeys (order : Order) (a b : Chars) : Ordering :=
  let keys := if order.keys.isEmpty then [⟨⟨1, none⟩, none, []⟩] else order.keys
  let keys := keys.map fun key =>
    if key.manner.isEmpty ∧ order.manner.contains 'b' then { key with manner := ['b'] } else key
  keys.foldl (fun result key =>
    let manner := if (key.manner.filter (· ≠ 'b')).isEmpty then order.manner else key.manner
    result.then
      (compareParts manner (key.part order.separator? a) (key.part order.separator? b))) .eq

/-- How two lines compare, those that the keys do not tell apart by their bytes. -/
def Order.compare (order : Order) (a b : Chars) : Ordering :=
  (order.byKeys a b).then
    (compareParts (if order.manner.contains 'r' then ['r'] else []) a b)

/-- The first line that is out of order, with its number. -/
def disorder? (order : Order) (distinct : Bool) : Nat → List Chars → Option (Nat × Chars)
  | n, a :: b :: rest =>
    let wrong : Bool := match if distinct then order.byKeys a b else order.compare a b with
      | .gt => true
      | .eq => distinct
      | .lt => false
    if wrong then some (n + 1, b) else disorder? order distinct (n + 1) (b :: rest)
  | _, _ => none

/-- Lines of which each differs from the one before it. -/
def withoutRepeats (same : Chars → Chars → Bool) : List Chars → List Chars
  | a :: b :: rest =>
    if same a b then withoutRepeats same (a :: rest) else a :: withoutRepeats same (b :: rest)
  | rest => rest
termination_by lines => lines.length

/-- Writes the lines of files in order. -/
def sort : Body := withOptions "bcCdfghik:mMno:rRsS:t:T:uVz" 2 fun inv o => do
  match (o.valuesOf 'k').mapM Key.read? with
  | none =>
    complain inv (chars "sort: invalid field specification\n")
    return 2
  | some keys =>
    let names := if o.operands.isEmpty then [['-']] else o.operands
    let contents ← names.mapM fun name => do
      match ← contentOf inv name with
      | .ok content => return some (Chars.lines (Chars.ofBytes content))
      | .error e =>
        let deed := if e = .isDirectory then "read failed: " else "cannot read: "
        complainOver inv (chars deed ++ name) e
        return none
    if contents.any Option.isNone then return 2
    let order : Order := ⟨keys, (o.value? 't').bind List.head?, o.letters⟩
    let lines := (contents.filterMap id).flatten
    let stable := o.hasAny "su"
    let le (a b : Chars) : Bool :=
      (if stable then order.byKeys a b else order.compare a b) != .gt
    if o.hasAny "cC" then
      match disorder? order (o.has 'u') 1 lines with
      | none => return 0
      | some (n, line) =>
        let label := match names with
          | name :: _ => name
          | [] => ['-']
        if o.has 'c' then
          complain inv (chars "sort: " ++ label ++ ':' :: Chars.ofNat n ++ chars ": disorder: " ++
            line ++ ['\n'])
        return 1
    else
      let sorted := lines.mergeSort le
      let sorted := if o.has 'u' then withoutRepeats (fun a b => order.byKeys a b == .eq) sorted
        else sorted
      match o.value? 'o' with
      | none =>
        say inv (unlines sorted)
        return 0
      | some name =>
        match ← Host.openOutput inv.view (path name) true with
        | .ok stream =>
          Host.write stream (Chars.bytes (unlines sorted))
          return 0
        | .error e =>
          complainOver inv (chars "open failed: " ++ name) e
          return 2

end Container.Programs
