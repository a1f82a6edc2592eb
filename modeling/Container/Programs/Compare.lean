import Container.Programs.Lines

set_option autoImplicit false

/-!
# Programs that compare files

Two texts are compared line by line: as many lines as possible are kept, and every stretch of
other lines between them is a change.

## Main definitions

* `changesOf` — the changes between two lists of lines.
* `cmp`, `diff` — the programs.
-/

namespace Container.Programs

/-- A stretch of lines that were replaced: how many lines come before it in both texts, and the
lines of both. -/
structure Change where
  beforeOld : Nat
  beforeNew : Nat
  old : List Chars
  new : List Chars

/-- A row of a table of common lines: for every end of the second list, how many lines it can have
in common with an end of the first list, given the row for the next shorter end. -/
def commonRow (same : Chars → Chars → Bool) (a : Chars) : List Chars → List Nat → List Nat
  | b :: bs, below :: rest =>
    let later := commonRow same a bs rest
    let best :=
      if same a b then (rest.head?.getD 0) + 1 else max below (later.head?.getD 0)
    best :: later
  | _, _ => [0]

/-- For every end of the first list, the row of the table of common lines. -/
def commonTable (same : Chars → Chars → Bool) (bs : List Chars) : List Chars → List (List Nat)
  | [] => [List.replicate (bs.length + 1) 0]
  | a :: as =>
    let later := commonTable same bs as
    commonRow same a bs (later.head?.getD []) :: later

/-- The changes between two lists of lines, whose tables are given by rows, after so many lines
of each and after a change that is not complete. -/
def changesFrom (same : Chars → Chars → Bool) : Nat → Nat → Nat → Change → List Chars → List Chars →
    List (List Nat) → List Change
  | 0, _, _, open_, _, _, _ => [open_]
  | fuel + 1, i, j, open_, as, bs, rows =>
    match as, bs with
    | [], bs => [{ open_ with new := open_.new ++ bs }]
    | as, [] => [{ open_ with old := open_.old ++ as }]
    | a :: as, b :: bs =>
      if same a b then
        open_ :: changesFrom same fuel (i + 1) (j + 1) ⟨i + 1, j + 1, [], []⟩ as bs
          ((rows.drop 1).map (·.drop 1))
      else
        let here := (rows.head?.getD []).drop 1 |>.head? |>.getD 0
        let below := ((rows.drop 1).head?.getD []).head?.getD 0
        if here ≤ below then
          changesFrom same fuel (i + 1) j { open_ with old := open_.old ++ [a] } as (b :: bs)
            (rows.drop 1)
        else
          changesFrom same fuel i (j + 1) { open_ with new := open_.new ++ [b] } (a :: as) bs
            (rows.map (·.drop 1))

/-- The changes between two lists of lines. -/
def changesOf (same : Chars → Chars → Bool) (as bs : List Chars) : List Change :=
  let fuel := as.length + bs.length + 1
  (changesFrom same fuel 0 0 ⟨0, 0, [], []⟩ as bs (commonTable same bs as)).filter
    fun c => !(c.old.isEmpty && c.new.isEmpty)

/-- Numbers of lines as a change names them. -/
def spanText (before : Nat) (lines : List Chars) : Chars :=
  match lines.length with
  | 0 => Chars.ofNat before
  | 1 => Chars.ofNat (before + 1)
  | n => Chars.ofNat (before + 1) ++ ',' :: Chars.ofNat (before + n)

/-- Lines of a change behind a mark. -/
def markedLines (mark : Char) (lines : List Chars) : Chars :=
  lines.flatMap fun line =>
    mark :: ' ' :: (if line.getLast? = some '\n' then line
      else line ++ chars "\n\\ No newline at end of file\n")

/-- A change as it is written. -/
def Change.text (c : Change) : Chars :=
  let letter := if c.old.isEmpty then 'a' else if c.new.isEmpty then 'd' else 'c'
  spanText c.beforeOld c.old ++ letter :: spanText c.beforeNew c.new ++ '\n' ::
    markedLines '<' c.old ++
    (if letter = 'c' then chars "---\n" else []) ++ markedLines '>' c.new

/-- Changes in groups with so many lines around them that those between two changes of a group are
all among them. -/
def grouped (around : Nat) : List Change → List (List Change)
  | [] => []
  | c :: cs =>
    match grouped around cs with
    | (d :: ds) :: rest =>
      if d.beforeOld ≤ c.beforeOld + c.old.length + 2 * around then (c :: d :: ds) :: rest
      else [c] :: (d :: ds) :: rest
    | rest => [c] :: rest

/-- Lines behind a mark, without a blank after it. -/
def signedLines (mark : Char) (lines : List Chars) : Chars :=
  lines.flatMap fun line =>
    mark :: (if line.getLast? = some '\n' then line
      else line ++ chars "\n\\ No newline at end of file\n")

/-- The lines of a group of changes, from a place in the old text up to another. -/
def unifiedBody (old : List Chars) (stop : Nat) : Nat → List Change → Chars
  | place, [] => signedLines ' ' ((old.take stop).drop place)
  | place, c :: cs =>
    signedLines ' ' ((old.take c.beforeOld).drop place) ++ signedLines '-' c.old ++
      signedLines '+' c.new ++ unifiedBody old stop (c.beforeOld + c.old.length) cs

/-- A group of changes with `around` lines around them, as one text with marks. -/
def unifiedGroup (around : Nat) (old : List Chars) (group : List Change) : Chars :=
  let first := group.head?.getD ⟨0, 0, [], []⟩
  let last := group.getLast?.getD first
  let start := first.beforeOld - around
  let stop := min old.length (last.beforeOld + last.old.length + around)
  let newStart := first.beforeNew - (first.beforeOld - start)
  let grown := (group.map (·.new.length)).foldl (· + ·) 0
  let shrunk := (group.map (·.old.length)).foldl (· + ·) 0
  let span (start length : Nat) : Chars :=
    if length = 1 then Chars.ofNat (start + 1)
    else Chars.ofNat (if length = 0 then start else start + 1) ++ ',' :: Chars.ofNat length
  chars "@@ -" ++ span start (stop - start) ++ chars " +" ++
    span newStart (stop - start + grown - shrunk) ++ chars " @@\n" ++
    unifiedBody old stop start group

/-- What of a line counts for a comparison. -/
def essence (o : Options) (line : Chars) : Chars :=
  let isBlank (c : Char) : Bool := Chars.isBlank c || c = '\n'
  let line := if o.has 'i' then line.map Char.toLower else line
  if o.has 'w' then line.filter fun c => !isBlank c
  else if o.has 'b' then
    let kept := (line.reverse.dropWhile isBlank).reverse.map fun c => if isBlank c then ' ' else c
    kept.foldr (fun c rest => if c = ' ' ∧ rest.head? = some ' ' then rest else c :: rest) []
  else line

/-- Compares two files by their contents. The answer is whether they differ. -/
def compareContents (inv : Invocation) (o : Options) (first second : Chars) (a b : Bytes) :
    HostM Bool := do
  let (as, bs) := (endedLines (Chars.ofBytes a), endedLines (Chars.ofBytes b))
  let same (x y : Chars) : Bool := essence o x = essence o y
  let changes := if a = b then [] else changesOf same as bs
  if changes.isEmpty then
    if o.has 's' then
      say inv (chars "Files " ++ first ++ chars " and " ++ second ++ chars " are identical\n")
    return false
  else
    say inv (if o.has 'q' then
        chars "Files " ++ first ++ chars " and " ++ second ++ chars " differ\n"
      else if (o.value? 'U').isSome ∨ o.has 'u' then
        let around := ((o.value? 'U').bind Chars.toNat?).getD 3
        let label (mark name : Chars) (i : Nat) : Chars :=
          let usual := name ++ chars "\t1970-01-01 00:00:00.000000000 +0000"
          mark ++ ' ' :: ((o.valuesOf 'L')[i]?.getD usual) ++ ['\n']
        label (chars "---") first 0 ++ label (chars "+++") second 1 ++
          (grouped around changes).flatMap (unifiedGroup around as)
      else changes.flatMap Change.text)
    return true

/-- Compares files and directories, at most `depth` directories deep. The answer is an exit
code. -/
def comparePaths (inv : Invocation) (o : Options) (flags : Chars) (inner : Bool) :
    Nat → Chars → Chars → HostM Nat
  | 0, _, _ => return 2
  | depth + 1, first, second => do
    let tree := (← get).tree
    let find (name : Chars) : Option File := (tree.statAt inv.view (path name)).toOption
    let names (f : File) : List Chars :=
      (tree.children f.location).map fun g => Chars.ofBytes g.name
    match find first, find second with
    | some f, some g =>
      if f.isDir && g.isDir then
        let all := ((names f ++ names g).mergeSort fun a b => compareParts [] a b != .gt).eraseReps
        let codes ← all.mapM fun name => do
          let (a, b) := (below first name, below second name)
          let only (place : Chars) : HostM Nat := do
            say inv (chars "Only in " ++ place ++ chars ": " ++ name ++ ['\n'])
            return 1
          match (names f).contains name, (names g).contains name with
          | true, false => only first
          | false, _ => only second
          | true, true =>
            if (find a).any File.isDir ∧ (find b).any File.isDir ∧ ¬ o.has 'r' then
              say inv (chars "Common subdirectories: " ++ a ++ chars " and " ++ b ++ ['\n'])
              return 0
            else comparePaths inv o flags true depth a b
        return codes.foldl max 0
      else if f.isDir && !inner then
        comparePaths inv o flags inner depth (below first (lastName second)) second
      else if g.isDir && !inner then
        comparePaths inv o flags inner depth first (below second (lastName first))
      else compareTwo first second
    | _, _ => compareTwo first second
where
  /-- Compares two files that are no directories. -/
  compareTwo (first second : Chars) : HostM Nat := do
    match ← contentOf inv first, ← contentOf inv second with
    | .ok a, .ok b =>
      let differ := a ≠ b
      if inner ∧ differ ∧ ¬ o.has 'q' then
        say inv (Chars.join [' '] ([chars "diff"] ++ (if flags.isEmpty then [] else [flags]) ++
          [first, second]) ++ ['\n'])
      return if ← compareContents inv o first second a b then 1 else 0
    | a, b =>
      if let .error e := a then complainOver inv first e
      if let .error e := b then complainOver inv second e
      return 2

/-- Writes what differs between two files. -/
def diff : Body := withOptions "abBiL:NqrsuU:wdt" 2 fun inv o => do
  match o.operands with
  | [first, second] =>
    let flags := if o.letters.isEmpty then [] else '-' :: o.letters
    comparePaths inv o flags false ((← get).tree.depthBound + 2) first second
  | operands =>
    complainOfUse inv (match operands.getLast? with
      | none => chars "missing operand after 'diff'"
      | some last => if operands.length < 2 then chars "missing operand after " ++ named last
        else chars "extra operand " ++ named last)
    return 2

/-- How many bytes two contents have in common at their beginnings. -/
def commonLength : Bytes → Bytes → Nat
  | a :: as, b :: bs => if a = b then commonLength as bs + 1 else 0
  | _, _ => 0

/-- Writes where two files differ first. -/
def cmp : Body := withOptions "bi:ln:s" 2 fun inv o => do
  match o.operands with
  | [] =>
    complainOfUse inv (chars "missing operand after 'cmp'")
    return 2
  | first :: rest =>
    let second := rest.head?.getD ['-']
    match ← contentOf inv first, ← contentOf inv second with
    | .ok a, .ok b =>
      let cut (bs : Bytes) : Bytes :=
        match (o.value? 'n').bind Chars.toNat? with
        | some n => bs.take n
        | none => bs
      let (a, b) := (cut a, cut b)
      let n := commonLength a b
      let line := (a.take n).count 10
      if a = b then return 0
      else if o.has 's' then return 1
      else if o.has 'l' then
        let pairs := ((a.zip b).zipIdx 1).filter fun (pair, _) => pair.1 ≠ pair.2
        let width := (Chars.ofNat (min a.length b.length)).length
        let octal (byte : UInt8) : Chars := aligned 3 (Nat.toDigits 8 byte.toNat)
        say inv (unlines (pairs.map fun (pair, i) =>
          aligned width (Chars.ofNat i) ++ ' ' :: octal pair.1 ++ ' ' :: octal pair.2))
        if a.length ≠ b.length then
          complain inv (chars "cmp: EOF on " ++ (if a.length < b.length then first else second) ++
            chars " after byte " ++ Chars.ofNat (min a.length b.length) ++ ['\n'])
        return 1
      else if n = a.length ∨ n = b.length then
        let short := if n = a.length then first else second
        let part := if (a.take n).getLast? = some 10 then chars ", line " ++ Chars.ofNat line
          else chars ", in line " ++ Chars.ofNat (line + 1)
        complain inv (chars "cmp: EOF on " ++ short ++ (if n = 0 then chars " which is empty"
          else chars " after byte " ++ Chars.ofNat n ++ part) ++ ['\n'])
        return 1
      else
        say inv (first ++ ' ' :: second ++ chars " differ: char " ++ Chars.ofNat (n + 1) ++
          chars ", line " ++ Chars.ofNat (line + 1) ++ ['\n'])
        return 1
    | a, b =>
      if !o.has 's' then
        if let .error e := a then complainOver inv first e
        if let .error e := b then complainOver inv second e
      return 2

end Container.Programs
