import Container.Programs.Format
import Container.Programs.Files
import Container.Shell.Pattern

set_option autoImplicit false

/-!
# Programs on texts

## Main definitions

* `cat`, `head`, `tail`, `wc`, `tee`, `tr`, `cut`, `seq`, `yes` — the programs.
-/

namespace Container.Programs

/-- Lines with their ends. -/
def unlines (lines : List Chars) : Chars := lines.flatMap (· ++ ['\n'])

/-- The lines of a text with their ends, of which the last may have none. -/
def endedLines (content : Chars) : List Chars :=
  let lines := (Chars.lines content).map (· ++ ['\n'])
  if content.getLast?.any (· ≠ '\n') then
    lines.dropLast ++ [(lines.getLast?.getD []).dropLast]
  else lines

/-- A text with blanks before it, up to a width. -/
def aligned (width : Nat) (cs : Chars) : Chars := List.replicate (width - cs.length) ' ' ++ cs

/-! ## Whole files -/

/-- A byte as it is shown where everything is to be visible. -/
def visible (c : Char) : Chars :=
  let low (n : Nat) : Chars :=
    if n < 32 then ['^', Char.ofNat (n + 64)] else if n = 127 then ['^', '?'] else [Char.ofNat n]
  if c = '\n' then [c]
  else if c.toNat < 128 then low c.toNat
  else 'M' :: '-' :: low (c.toNat - 128)

/-- Lines as `cat` shows them: numbered from `n` and with marks, as far as that is asked for. -/
def decorated (o : Options) : Nat → Bool → List Chars → Chars
  | _, _, [] => []
  | n, afterEmpty, line :: lines =>
    let isEmpty := line = ['\n']
    if o.has 's' && isEmpty && afterEmpty then decorated o n true lines
    else
      let counted := if o.has 'b' then !isEmpty else o.has 'n'
      let shown := if o.hasAny "Ave" then line.flatMap fun c =>
          if c = '\t' ∧ ¬ o.hasAny "AT" then [c] else visible c
        else if o.has 'T' then line.flatMap fun c => if c = '\t' then ['^', 'I'] else [c]
        else line
      let shown := if o.hasAny "AeE" ∧ shown.getLast? = some '\n' then shown.dropLast ++ ['$', '\n']
        else shown
      (if counted then aligned 6 (Chars.ofNat n) ++ ['\t'] else []) ++ shown ++
        decorated o (if counted then n + 1 else n) isEmpty lines

/-- Writes files one after the other. -/
def cat : Body := withOptions "AbeEnstTuv" 1 fun inv o => do
  if o.letters.all (· = 'u') then
    overContents inv o.operands fun _ content => do
      say inv content
      return true
  else
    let contents ← (if o.operands.isEmpty then [['-']] else o.operands).mapM fun name => do
      match ← contentOf inv name with
      | .ok content => return some (Chars.ofBytes content)
      | .error e =>
        complainOver inv name e
        return none
    say inv (decorated o 1 false (endedLines (contents.filterMap id).flatten))
    return if contents.all Option.isSome then 0 else 1

/-! ## Beginnings and ends -/

/-- How much of a text is meant: so many pieces of it, or all but so many. -/
structure Extent where
  fromOtherEnd : Bool
  count : Nat

/-- What the options of a program say about how much is meant, in bytes or in lines, of which ten
are meant where nothing is said. A sign says that the pieces are counted from the other end. -/
def extent? (o : Options) (sign : Char) : Option (Bool × Extent) :=
  let read (cs : Chars) : Option Extent :=
    match cs with
    | c :: rest =>
      if c = sign then (Chars.toNat? rest).map (⟨true, ·⟩)
      else if c = '+' ∨ c = '-' then (Chars.toNat? rest).map (⟨false, ·⟩)
      else (size? cs).map (⟨false, ·⟩)
    | [] => none
  match o.value? 'c', o.value? 'n' with
  | some text, _ => (read text).map (true, ·)
  | none, some text => (read text).map (false, ·)
  | none, none =>
    match o.letters.filter Char.isDigit with
    | [] => some (false, ⟨false, 10⟩)
    | digits => (Chars.toNat? digits).map fun n => (false, ⟨false, n⟩)

/-- Writes a part of files, of several under their names. -/
def writeParts (sign : Char) (part : Extent → Nat → Nat × Nat) : Body :=
  withOptions "0123456789c:fn:qv" 1 fun inv o => do
    match extent? o sign with
    | none =>
      let (what, text) := match o.value? 'c' with
        | some text => ("bytes", text)
        | none => ("lines", (o.value? 'n').getD [])
      let complaint := chars (": invalid number of " ++ what ++ ": ") ++ named text
      complain inv (ownName inv ++ complaint ++ ['\n'])
      return 1
    | some (inBytes, extent) =>
      let labelled := (1 < o.operands.length || o.has 'v') && !o.has 'q'
      let mut first := true
      let mut code := 0
      for name in (if o.operands.isEmpty then [['-']] else o.operands) do
        match ← contentOf inv name with
        | .error e =>
          if e = .isDirectory then complainOver inv (chars "error reading " ++ named name) e
          else complainOver inv (chars "cannot open " ++ named name ++ chars " for reading") e
          code := 1
        | .ok content =>
          let content := Chars.ofBytes content
          let pieces := if inBytes then content.map fun c => [c] else endedLines content
          let (start, count) := part extent pieces.length
          let label := if name = ['-'] then chars "standard input" else name
          let header := (if first then [] else ['\n']) ++ chars "==> " ++ label ++ chars " <==\n"
          say inv ((if labelled then header else []) ++ ((pieces.drop start).take count).flatten)
          first := false
      return code

/-- Writes the first lines or bytes of files. -/
def head : Body := writeParts '-' fun extent n =>
  (0, if extent.fromOtherEnd then n - extent.count else extent.count)

/-- Writes the last lines or bytes of files. -/
def tail : Body := writeParts '+' fun extent n =>
  (if extent.fromOtherEnd then extent.count - 1 else n - extent.count, n)

/-! ## Counting -/

/-- How many words a text has. -/
def wordCount (cs : Chars) : Nat :=
  (cs.foldl (fun (acc : Nat × Bool) c =>
    let blank := Chars.isBlank c || c = '\n'
    (if !blank && !acc.2 then acc.1 + 1 else acc.1, !blank)) (0, false)).1

/-- The lines, words and bytes of a text, as far as they are asked for. -/
def counts (o : Options) (content : Chars) : List Nat :=
  let wanted (c : String) := o.hasAny c || !o.hasAny "lwcmL"
  (if wanted "l" then [content.count '\n'] else []) ++
    (if wanted "w" then [wordCount content] else []) ++
    (if wanted "cm" then [content.length] else []) ++
    (if o.has 'L' then [((Chars.lines content).map List.length).foldl max 0] else [])

/-- Writes counts in columns of a width, with what they are the counts of. -/
def sayCounts (inv : Invocation) (width : Nat) (shown : List Nat) (label : Chars) : HostM Unit :=
  say inv (Chars.join [' '] (shown.map fun n => aligned width (Chars.ofNat n)) ++ label ++ ['\n'])

/-- Counts lines, words and bytes. Of several files it also writes the sums. -/
def wc : Body := withOptions "clLmw" 1 fun inv o => do
  let contents ← (if o.operands.isEmpty then [['-']] else o.operands).mapM fun name => do
    return (name, ← contentOf inv name)
  let sizes := contents.map fun (_, result) => match result with
    | .ok content => some content.length
    | .error _ => none
  let figures (content : Bytes) : List Nat := counts o (Chars.ofBytes content)
  let hasDirectory := contents.any fun (_, result) => match result with
    | .error e => e = .isDirectory
    | .ok _ => false
  let width :=
    if (counts o []).length = 1 ∧ contents.length = 1 then 0
    else if o.operands.isEmpty ∨ hasDirectory then 7
    else (Chars.ofNat ((sizes.filterMap id).foldl (· + ·) 0)).length
  let mut total := (counts o []).map fun _ => 0
  for (name, result) in contents do
    let label := if o.operands.isEmpty then [] else ' ' :: name
    match result with
    | .ok content =>
      sayCounts inv width (figures content) label
      total := total.zipWith (· + ·) (figures content)
    | .error e =>
      complainOver inv name e
      if e = .isDirectory then sayCounts inv width (figures []) label
  if 1 < contents.length then sayCounts inv width total (chars " total")
  return if sizes.all Option.isSome then 0 else 1

/-! ## Copying and choosing -/

/-- Copies its input to files and to its output. -/
def tee : Body := withOptions "aip" 1 fun inv o => do
  let content ← input inv
  say inv (Chars.ofBytes content)
  forEach o.operands fun name => do
    if let some fd := descriptorOf? name then
      Host.write (inv.stream fd) content
      return true
    match ← Host.openOutput inv.view (path name) (!o.has 'a') with
    | .ok stream =>
      Host.write stream content
      return true
    | .error e =>
      complainOver inv name e
      return false

/-- The characters of a class with a name. -/
def classMembers (ranges : List (Char × Char)) : Chars :=
  ranges.flatMap fun (first, last) =>
    (List.range (last.toNat + 1 - first.toNat)).map fun i => Char.ofNat (first.toNat + i)

/-- The names of classes of characters, and the characters in them. -/
def classes : List (String × Chars) :=
  Shell.Pattern.classes.map fun (name, ranges) => ("[:" ++ name ++ ":]", classMembers ranges)

/-- A part of a set: characters, or one character as often as the set needs it to be as large as
another one. -/
inductive SetPart where
  | members (cs : Chars)
  | filler (c : Char)

/-- A character that is written to be repeated and how often, and what follows. -/
def repetition? (cs : Chars) : Option (SetPart × Chars) :=
  match cs with
  | '[' :: c :: '*' :: rest =>
    match rest.span Char.isDigit with
    | ([], ']' :: rest) => some (.filler c, rest)
    | (digits, ']' :: rest) =>
      let n := if digits.head? = some '0' then (Format.digits 8 digits.length 0 digits).1
        else (Chars.toNat? digits).getD 0
      some (if n = 0 then .filler c else .members (List.replicate n c), rest)
    | _ => none
  | '[' :: '=' :: c :: '=' :: ']' :: rest => some (.members [c], rest)
  | _ => none

/-- The parts of a set, in which two characters with a hyphen between them stand for a range. There
is no answer where a range is written backwards. -/
def partsOf : Nat → Chars → Option (List SetPart)
  | 0, _ => some []
  | _, [] => some []
  | fuel + 1, c :: cs => do
    let class? := classes.find? fun (name, _) => name.toList.isPrefixOf (c :: cs)
    match class?, repetition? (c :: cs) with
    | some (name, members), _ =>
      return .members members :: (← partsOf fuel ((c :: cs).drop name.length))
    | none, some (part, rest) => return part :: (← partsOf fuel rest)
    | none, none =>
      match cs with
      | '-' :: d :: cs =>
        if d < c then none
        else
          let range := (List.range (d.toNat + 1 - c.toNat)).map fun i => Char.ofNat (c.toNat + i)
          return .members range :: (← partsOf fuel cs)
      | cs => return .members [c] :: (← partsOf fuel cs)

/-- The characters of a set with escapes, where fillers make it as large as `size` says. -/
def setOf (size : Nat) (cs : Chars) : Option Chars := do
  let (plain, _) := Format.unescaped false cs
  let parts ← partsOf (plain.length + 1) plain
  let written := (parts.map fun part => match part with
    | .members cs => cs.length
    | .filler _ => 0).foldl (· + ·) 0
  return parts.flatMap fun part => match part with
    | .members cs => cs
    | .filler c => List.replicate (size - written) c

/-- What a character becomes where each of one set becomes the one at its place in another, of
which the last goes on for ever. -/
def translated (source target : Chars) (c : Char) : Char :=
  let places := (source.zipIdx.filter fun (d, _) => d = c).map (·.2)
  match places.getLast? with
  | none => c
  | some i => (target[i]?.orElse fun () => target.getLast?).getD c

/-- A text in which characters of a set do not follow themselves. -/
def squeezed (isMember : Char → Bool) : Chars → Chars
  | c :: d :: cs =>
    if c = d && isMember c then squeezed isMember (d :: cs) else c :: squeezed isMember (d :: cs)
  | cs => cs

/-- Copies its input with some characters changed, left out or not repeated. -/
def tr : Body := withOptions "cCdst" 1 fun inv o => do
  let shortened (source target : Chars) : Chars :=
    if o.has 't' then source.take target.length else source
  let others := o.hasAny "cC"
  let isIn (set : Chars) (c : Char) : Bool := set.contains c != others
  let text := Chars.ofBytes (← input inv)
  let sets : Option (List Chars) := match o.operands with
    | [first, second] => do
      let source ← setOf 0 first
      return [source, ← setOf source.length second]
    | operands => operands.mapM (setOf 0)
  if sets.isNone then
    complain inv (chars "tr: range-endpoints are in reverse collating sequence order\n")
    return 1
  match o.has 'd', o.has 's', sets.getD [] with
  | true, false, [source] =>
    say inv (text.filter fun c => !isIn source c)
    return 0
  | true, true, [source, repeated] =>
    say inv (squeezed repeated.contains (text.filter fun c => !isIn source c))
    return 0
  | false, true, [source] =>
    say inv (squeezed (isIn source) text)
    return 0
  | false, squeezes, [source, target] =>
    if target.isEmpty then
      complain inv (chars "tr: when not truncating set1, string2 must be non-empty\n")
      return 1
    else
      let changed := text.map fun c =>
        if !others then translated (shortened source target) target c
        else if source.contains c then c
        else target.getLast?.getD c
      say inv (if squeezes then squeezed target.contains changed else changed)
      return 0
  | _, _, _ =>
    complainOfUse inv (match o.operands.getLast? with
      | none => chars "missing operand"
      | some last => if o.operands.length < 2 then chars "missing operand after " ++ named last
        else chars "extra operand " ++ named last)
    return 1

/-- The fields that a list of numbers and ranges names. -/
def isListed (list : Chars) (i : Nat) : Bool :=
  let number (cs : Chars) (default : Nat) : Nat := (Chars.toNat? cs).getD default
  (list.splitOn ',').any fun part =>
    match part.span (· ≠ '-') with
    | (first, _ :: last) => number first 1 ≤ i && i ≤ number last i
    | (only, []) => Chars.toNat? only = some i

/-- Writes some fields or characters of lines. -/
def cut : Body := withOptions "b:c:Cd:f:nO:s" 1 fun inv o => do
  let pick (list : Chars) (parts : List Chars) : List Chars :=
    (parts.zipIdx 1).filterMap fun (part, i) =>
      if isListed list i != o.has 'C' then some part else none
  let isZero (list : Chars) : Bool :=
    (list.splitOn ',').any fun part => part.takeWhile (· ≠ '-') = ['0']
  match o.value? 'f', o.value? 'c' <|> o.value? 'b' with
  | some list, none =>
    if isZero list then
      complainOfUse inv (chars "fields are numbered from 1")
      return 1
    else
      let delimiter := ((o.value? 'd').bind List.head?).getD '\t'
      let between := (o.value? 'O').getD [delimiter]
      overContents inv o.operands fun _ content => do
        let lines := (Chars.lines content).filter fun line => line.contains delimiter || !o.has 's'
        say inv (unlines (lines.map fun line =>
          if line.contains delimiter then Chars.join between (pick list (line.splitOn delimiter))
          else line))
        return true
  | none, some list =>
    if isZero list then
      complainOfUse inv (chars "byte/character positions are numbered from 1")
      return 1
    else
      overContents inv o.operands fun _ content => do
        say inv (unlines ((Chars.lines content).map fun line =>
          (pick list (line.map fun c => [c])).flatten))
        return true
  | none, none =>
    complainOfUse inv (chars "you must specify a list of bytes, characters, or fields")
    return 1
  | some _, some _ =>
    complainOfUse inv (chars "only one type of list may be specified")
    return 1

/-! ## Making texts -/

/-- Reads the options of `seq`, which a negative number is none of. -/
def seqOptions : List Chars → Options → Options
  | [], o => o
  | argument :: rest, o =>
    let valued (c : Char) (value : Chars) : Options := { o with values := (c, value) :: o.values }
    match String.ofList argument, rest with
    | "-s", text :: rest => seqOptions rest (valued 's' text)
    | "-f", text :: rest => seqOptions rest (valued 'f' text)
    | "-w", rest | "--equal-width", rest => seqOptions rest { o with letters := 'w' :: o.letters }
    | "--", rest => { o with operands := o.operands ++ rest }
    | _, rest =>
      match argument with
      | '-' :: '-' :: spelled =>
        match spelled.span (· ≠ '=') with
        | (['s', 'e', 'p', 'a', 'r', 'a', 't', 'o', 'r'], _ :: text) =>
          seqOptions rest (valued 's' text)
        | (['f', 'o', 'r', 'm', 'a', 't'], _ :: text) => seqOptions rest (valued 'f' text)
        | _ => seqOptions rest (o.refuse (chars "unrecognized option " ++ named argument))
      | '-' :: 's' :: text => seqOptions rest (valued 's' text)
      | '-' :: 'f' :: text => seqOptions rest (valued 'f' text)
      | operand => seqOptions rest { o with operands := o.operands ++ [operand] }

/-- A decimal number: how many units of its last place it has, and how many places. -/
structure Decimal where
  units : Int
  places : Nat

/-- The decimal number that a text writes. -/
def Decimal.ofChars? (cs : Chars) : Option Decimal := do
  let (negative, cs) := Format.signOf (cs.dropWhile Chars.isBlank)
  let (whole, rest) := cs.span Char.isDigit
  let (fraction, rest) := match rest with
    | '.' :: rest => rest.span Char.isDigit
    | rest => ([], rest)
  let shift : Int ← match rest with
    | [] => some 0
    | e :: power =>
      if e = 'e' ∨ e = 'E' then (Chars.toInt? power).filter fun n => n.natAbs < 100 else none
  let n : Nat ← Chars.toNat? (whole ++ fraction)
  let places := fraction.length - shift
  let n := n * 10 ^ (-places).toNat
  return ⟨if negative then -n else n, places.toNat⟩

/-- How many units of a place a decimal number has, where it has no more places. -/
def Decimal.unitsAt (d : Decimal) (places : Nat) : Int := d.units * 10 ^ (places - d.places)

/-- The text of so many units of a place. -/
def Decimal.chars (d : Decimal) : Chars :=
  let digits := Chars.ofNat d.units.natAbs
  let digits := List.replicate (d.places + 1 - digits.length) '0' ++ digits
  let whole := digits.take (digits.length - d.places)
  (if d.units < 0 then ['-'] else []) ++ whole ++
    if d.places = 0 then [] else '.' :: digits.drop whole.length

/-- Numbers from one to another by steps, with as many places as the first two have. -/
def progression (first step last : Decimal) : List Decimal :=
  let shown := max first.places step.places
  let places := max shown last.places
  let (start, by_, stop) := (first.unitsAt places, step.unitsAt places, last.unitsAt places)
  let count : Nat :=
    if 0 < by_ then (if start ≤ stop then ((stop - start) / by_).toNat + 1 else 0)
    else if stop ≤ start then ((start - stop) / (-by_)).toNat + 1
    else 0
  (List.range count).map fun (i : Nat) => ⟨first.unitsAt shown + step.unitsAt shown * i, shown⟩

/-- Texts of numbers with zeros before them, so that all are equally long. -/
def equallyWide (texts : List Chars) : List Chars :=
  let width := (texts.map List.length).foldl max 0
  texts.map fun cs => match cs with
    | '-' :: digits => '-' :: (List.replicate (width - cs.length) '0' ++ digits)
    | digits => List.replicate (width - cs.length) '0' ++ digits

/-- Writes the numbers from one to another. -/
def seq : Body := fun inv => do
  let o := seqOptions (inv.arguments.drop 1) .start
  let wrong? := (o.operands.find? fun text => (Decimal.ofChars? text).isNone).map fun text =>
    chars "invalid floating point argument: " ++ named text
  match o.fault? <|> wrong? with
  | some fault =>
    complainOfUse inv fault
    return 1
  | none =>
    let one : Decimal := ⟨1, 0⟩
    let bounds : Option (Decimal × Decimal × Decimal) :=
      match o.operands.filterMap Decimal.ofChars? with
      | [last] => some (one, one, last)
      | [first, last] => some (first, one, last)
      | [first, step, last] => some (first, step, last)
      | _ => none
    match bounds with
    | none =>
      complainOfUse inv (chars (if o.operands.isEmpty then "missing operand" else "extra operand"))
      return 1
    | some (first, step, last) =>
      if step.units = 0 then
        complainOfUse inv (chars "invalid Zero increment value")
        return 1
      let texts := (progression first step last).map Decimal.chars
      let texts := match o.value? 'f' with
        | some format => texts.map fun text => (Format.render format [text]).shown
        | none => if o.has 'w' then equallyWide texts else texts
      if !texts.isEmpty then say inv (Chars.join ((o.value? 's').getD ['\n']) texts ++ ['\n'])
      return 0

/-- Writes a line again and again, as long as anybody may read. -/
def yes : Body := fun inv => do
  let words := inv.arguments.drop 1
  let line := (if words.isEmpty then ['y'] else Chars.join [' '] words) ++ ['\n']
  say inv (List.replicate (FileTree.endlessSupply / line.length) line).flatten
  return 0

end Container.Programs
