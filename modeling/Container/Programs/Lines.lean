import Container.Programs.Order
import Container.Programs.Search

set_option autoImplicit false

/-!
# Programs on lines

## Main definitions

* `grep`, `uniq`, `comm`, `paste`, `tac`, `rev`, `nl`, `fold` — the programs.
-/

namespace Container.Programs

/-! ## Searching -/

/-- A line of a file with its number, and whether it was searched for. -/
structure Line where
  number : Nat
  text : Chars
  chosen : Bool

/-- The lines to be shown: those that were searched for, and so many before and after each. -/
def shownLines (before after : Nat) (lines : List Line) : List Line :=
  let numbers := (lines.filter (·.chosen)).map (·.number)
  if before = 0 ∧ after = 0 then lines.filter (·.chosen)
  else
    lines.filter fun line =>
      numbers.any fun n => n ≤ line.number + before && line.number ≤ n + after

/-- The search pattern of a program: one of the patterns that texts write. -/
def patternOf? (o : Options) (texts : List Chars) : Option Search.Pattern :=
  let one (text : Chars) : Option Search.Pattern := do
    let p ← if o.has 'F' then some (Search.literal text) else Search.read? (o.has 'E') text
    return if o.has 'x' then p.wholeLine else if o.has 'w' then p.wholeWords else p
  match (texts.flatMap (·.splitOn '\n')).mapM one with
  | none | some [] => none
  | some (p :: ps) => some (ps.foldl Search.Pattern.either p)

/-- What `grep` writes about the lines of one file. -/
def grepOutput (o : Options) (label : Chars) (pattern : Search.Pattern) (lines : List Line) :
    Chars :=
  let number (c : String) : Nat :=
    ((c.toList.findSome? fun c => o.value? c).bind Chars.toNat?).getD 0
  let (before, after) := (number "BC", number "AC")
  let head (line : Line) : Chars :=
    let mark := if line.chosen then ':' else '-'
    (if label.isEmpty then [] else label ++ [mark]) ++
      (if o.has 'n' then Chars.ofNat line.number ++ [mark] else [])
  let body (line : Line) : List Chars :=
    if o.has 'o' then
      (Search.occurrences (o.has 'i') pattern line.text).filterMap fun found =>
        if found.text.isEmpty then none else some found.text
    else [line.text]
  let shown := shownLines before after lines
  let gaps := shown.zip (none :: shown.map some)
  (gaps.map fun (line, previous?) =>
    let isGap := (before ≠ 0 ∨ after ≠ 0) ∧ previous?.any fun p => p.number + 1 < line.number
    (if isGap then ['-', '-', '\n'] else []) ++ unlines ((body line).map (head line ++ ·))).flatten

/-- The files that an operand stands for: itself, or those below it. -/
def filesBelow (inv : Invocation) (o : Options) (name : Chars) : HostM (List Chars) := do
  let host ← get
  match host.tree.statAt inv.view (path name) with
  | .error _ => return [name]
  | .ok f =>
    if !f.isDir || !o.hasAny "rR" then return [name]
    else
      let files := (host.tree.files.filter fun g =>
        FileTree.isBelow f.location g.location && match g.kind with
          | .regular _ => true
          | _ => false)
      let paths := files.map fun g => Path.joinSegments (g.location.drop f.location.length)
      return (paths.mergeSort FileTree.nameLE).map fun p => below name (Chars.ofBytes p)

/-- Writes the lines in which a pattern occurs. -/
def grep : Body := withOptions "0123456789aA:B:cC:e:Ef:FGhHiIlLm:noqrRsvwxyzZ" 2 fun inv o => do
  let (texts, operands) := match o.valuesOf 'e', o.operands with
    | [], text :: operands => ([text], operands)
    | texts, operands => (texts, operands)
  match patternOf? o texts with
  | none =>
    if texts.isEmpty then
      complain inv (chars ("Usage: grep [OPTION]... PATTERNS [FILE]...\n" ++
        "Try 'grep --help' for more information.\n"))
    else complain inv (chars "grep: Invalid regular expression\n")
    return 2
  | some pattern =>
    let usual := if o.hasAny "rR" then ['.'] else ['-']
    let operands := if operands.isEmpty then [usual] else operands
    let names := (← operands.mapM (filesBelow inv o)).flatten
    let labelled := (1 < names.length || o.hasAny "rRH") && !o.has 'h'
    let mut found := false
    let mut failed := false
    for name in names do
      match ← contentOf inv name with
      | .error e =>
        if !o.has 's' then complainOver inv name e
        failed := true
      | .ok content =>
        let lines := ((Chars.lines (Chars.ofBytes content)).zipIdx 1).map fun (text, n) =>
          Line.mk n text (Search.occurs (o.hasAny "iy") pattern text != o.has 'v')
        let most := ((o.value? 'm').bind Chars.toNat?).getD lines.length
        let stop := ((lines.filter (·.chosen)).drop (most - 1)).head?.map (·.number)
        let lines := lines.filter fun line => stop.all (line.number ≤ ·) && 0 < most
        let chosen := lines.filter (·.chosen)
        let label := if name = ['-'] then chars "(standard input)" else name
        found := found || !chosen.isEmpty
        let shownLabel := if labelled then label else []
        say inv
          (if o.has 'q' then []
          else if o.hasAny "lL" then
            if chosen.isEmpty = o.has 'L' then label ++ ['\n'] else []
          else if o.has 'c' then
            (if labelled then label ++ [':'] else []) ++ Chars.ofNat chosen.length ++ ['\n']
          else grepOutput o shownLabel pattern lines)
    return if found ∧ (o.has 'q' ∨ ¬ failed) then 0 else if failed then 2 else 1

/-! ## Comparing neighbours -/

/-- Runs of equal lines: the first of each, and how many there are. -/
def runs (same : Chars → Chars → Bool) : List Chars → List (Chars × Nat)
  | [] => []
  | line :: rest =>
    match runs same rest with
    | (next, n) :: later =>
      if same line next then (line, n + 1) :: later else (line, 1) :: (next, n) :: later
    | [] => [(line, 1)]

/-- Writes lines without those that repeat the one before them. -/
def uniq : Body := withOptions "cdDf:is:uw:z" 1 fun inv o => do
  let key (line : Chars) : Chars :=
    let number (c : Char) : Nat := ((o.value? c).bind Chars.toNat?).getD 0
    let fields := fieldsFrom none (line.length + 1) 0 line
    let line := (fields.drop (number 'f')).flatMap (·.2)
    let line := line.drop (number 's')
    let line := match o.value? 'w' with
      | some _ => line.take (number 'w')
      | none => line
    if o.has 'i' then line.map Char.toLower else line
  match ← contentOf inv (o.operands.head?.getD ['-']) with
  | .error e =>
    complainOver inv (o.operands.head?.getD []) e
    return 1
  | .ok content =>
    let found := (runs (fun a b => key a = key b) (Chars.lines (Chars.ofBytes content))).filter
      fun (_, n) => if o.has 'd' then 1 < n else if o.has 'u' then n = 1 else true
    let shown := unlines (found.map fun (line, n) =>
      if o.has 'c' then aligned 7 (Chars.ofNat n) ++ ' ' :: line else line)
    match o.operands.drop 1 with
    | target :: _ =>
      match ← Host.openOutput inv.view (path target) true with
      | .ok stream =>
        Host.write stream (Chars.bytes shown)
        return 0
      | .error e =>
        complainOver inv target e
        return 1
    | [] =>
      say inv shown
      return 0

/-- Lines of two ordered lists with the column in which each belongs: the first or the second for
those that only one list has, the third for those that both have. -/
def merged : Nat → List Chars → List Chars → List (Nat × Chars)
  | 0, _, _ => []
  | _, as, [] => as.map ((1, ·))
  | _, [], bs => bs.map ((2, ·))
  | fuel + 1, a :: as, b :: bs =>
    match compareParts [] a b with
    | .lt => (1, a) :: merged fuel as (b :: bs)
    | .gt => (2, b) :: merged fuel (a :: as) bs
    | .eq => (3, a) :: merged fuel as bs

/-- Writes in columns which lines of two ordered files are in which of them. -/
def comm : Body := withOptions "123z" 1 fun inv o => do
  match o.operands with
  | [first, second] =>
    match ← contentOf inv first, ← contentOf inv second with
    | .error e, _ =>
      complainOver inv first e
      return 1
    | .ok _, .error e =>
      complainOver inv second e
      return 1
    | .ok a, .ok b =>
      let (as, bs) := (Chars.lines (Chars.ofBytes a), Chars.lines (Chars.ofBytes b))
      let shows (column : Nat) : Bool := !o.letters.contains (Char.ofNat (48 + column))
      let lead (column : Nat) : Chars :=
        ((List.range column).filter fun c => 0 < c && c < column && shows c).map fun _ => '\t'
      say inv (unlines ((merged (as.length + bs.length + 1) as bs).filterMap fun (column, line) =>
        if shows column then some (lead column ++ line) else none))
      return 0
  | operands =>
    complainOfUse inv (match operands.getLast? with
      | none => chars "missing operand"
      | some last => if operands.length < 2 then chars "missing operand after " ++ named last
        else chars "extra operand " ++ named last)
    return 1

/-! ## Putting lines together -/

/-- Texts joined by delimiters, which are taken in turn. -/
def joinedInTurn (delimiters : List Chars) : Nat → List Chars → Chars
  | _, [] => []
  | _, [text] => text
  | n, text :: rest =>
    text ++ delimiters[n % delimiters.length]?.getD [] ++ joinedInTurn delimiters (n + 1) rest

/-- The delimiters that a text writes. A zero stands for none. -/
def delimitersOf : Chars → List Chars
  | [] => []
  | '\\' :: '0' :: cs => [] :: delimitersOf cs
  | '\\' :: c :: cs => [(Format.letter? c).getD c] :: delimitersOf cs
  | c :: cs => [c] :: delimitersOf cs

/-- The lines of each operand, where hyphens, of which the first got all lines of the input, take
them in turn. -/
def dealt (names : List Chars) (columns : List (List Chars)) : List (List Chars) :=
  let shares := names.count ['-']
  let all := ((names.zip columns).filter (·.1 = ['-'])).flatMap (·.2)
  (names.zip columns).zipIdx.map fun ((name, lines), i) =>
    if name = ['-'] then
      let place := (names.take i).count ['-']
      (all.zipIdx.filter fun (_, k) => k % shares = place).map (·.1)
    else lines

/-- Puts lines of files side by side, or the lines of each file into one line. -/
def paste : Body := withOptions "d:sz" 1 fun inv o => do
  let delimiters := delimitersOf ((o.value? 'd').getD ['\t'])
  let names := if o.operands.isEmpty then [['-']] else o.operands
  let results ← names.mapM fun name => do
    match ← contentOf inv name with
    | .ok content => return some (Chars.lines (Chars.ofBytes content))
    | .error e =>
      complainOver inv name e
      return none
  match results.mapM id with
  | none => return 1
  | some columns =>
    let columns := if o.has 's' then columns else dealt names columns
    let rows := if o.has 's' then columns
      else (List.range ((columns.map List.length).foldl max 0)).map fun i =>
        columns.map fun lines => lines[i]?.getD []
    say inv (unlines (rows.map (joinedInTurn delimiters 0)))
    return 0

/-- Writes lines from the last to the first. -/
def tac : Body := withOptions "brs:" 1 fun inv o =>
  overContents inv o.operands fun _ content => do
    say inv (endedLines content).reverse.flatten
    return true

/-- Writes lines from their ends to their beginnings. -/
def rev : Body := withOptions "" 1 fun inv o =>
  overContents inv o.operands fun _ content => do
    say inv ((endedLines content).flatMap fun line =>
      if line.getLast? = some '\n' then line.dropLast.reverse ++ ['\n'] else line.reverse)
    return true

/-- How lines are numbered: from what number on, by what steps, in how wide a column, with what
after it and with what before a number that does not fill it. -/
structure Numbering where
  step : Nat
  width : Nat
  separator : Chars
  manner : Chars

/-- A number in its column. -/
def Numbering.column (n : Numbering) (i : Nat) : Chars :=
  let digits := Chars.ofNat i
  let missing := n.width - digits.length
  match n.manner with
  | ['l', 'n'] => digits ++ List.replicate missing ' '
  | ['r', 'z'] => List.replicate missing '0' ++ digits
  | _ => List.replicate missing ' ' ++ digits

/-- Lines with numbers, from `i` on. Lines that are not counted have none. -/
def Numbering.lines (n : Numbering) (counts : Chars → Bool) : Nat → List Chars → List Chars
  | _, [] => []
  | i, line :: lines =>
    if counts line then (n.column i ++ n.separator ++ line) :: n.lines counts (i + n.step) lines
    else (List.replicate (n.width + n.separator.length) ' ' ++ line) :: n.lines counts i lines

/-- Writes lines with numbers. -/
def nl : Body := withOptions "b:d:f:h:i:l:n:ps:v:w:" 1 fun inv o => do
  let mut all : List Chars := []
  for name in (if o.operands.isEmpty then [['-']] else o.operands) do
    match ← contentOf inv name with
    | .ok content => all := all ++ Chars.lines (Chars.ofBytes content)
    | .error e =>
      complainOver inv name e
      return 1
  let number (c : Char) (usual : Nat) : Nat := ((o.value? c).bind Chars.toNat?).getD usual
  let numbering : Numbering :=
    ⟨number 'i' 1, number 'w' 6, (o.value? 's').getD ['\t'], (o.value? 'n').getD []⟩
  let counts (line : Chars) : Bool := match o.value? 'b' with
    | some ['a'] => true
    | some ['n'] => false
    | some ('p' :: text) =>
      ((Search.read? false text).map fun p => Search.occurs false p line).getD false
    | _ => !line.isEmpty
  say inv (unlines (numbering.lines counts (number 'v' 1) all))
  return 0

/-- A text in pieces of a length, the last of which may be shorter. Where `words` is set, a piece
ends after its last blank if it has one. -/
def pieces (words : Bool) (n : Nat) : Nat → Chars → List Chars
  | 0, _ => []
  | fuel + 1, cs =>
    if cs.length ≤ n then [cs]
    else
      let piece := cs.take n
      let upToBlank := (piece.reverse.dropWhile (!Chars.isBlank ·)).reverse
      let piece := if words ∧ ¬ upToBlank.isEmpty then upToBlank else piece
      piece :: pieces words n fuel (cs.drop piece.length)

/-- Writes lines in pieces of at most a length. -/
def fold : Body := withOptions "bsw:" 1 fun inv o =>
  overContents inv o.operands fun _ content => do
    let width := max 1 (((o.value? 'w').bind Chars.toNat?).getD 80)
    let ended := content.getLast? = some '\n'
    let lines := (Chars.lines content).flatMap fun line =>
      pieces (o.has 's') width (line.length + 1) line
    say inv (Chars.join ['\n'] lines ++ if ended then ['\n'] else [])
    return true

end Container.Programs
