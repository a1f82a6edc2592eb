import Container.Programs.Paths

set_option autoImplicit false

/-!
# Lists of files

Entries are shown one to a line, with or without what is known of them, or several to a line.

## Main definitions

* `Listing.Layout` — how entries are put on lines.
* `Listing.columns` — texts put in columns.
* `ls` — the program.
-/

namespace Container.Programs

namespace Listing

/-- How entries are put on lines. -/
inductive Layout where
  | lines
  | long
  | commas
  /-- In columns, row by row if `across` is set, and column by column otherwise. -/
  | columns (across : Bool)
  deriving DecidableEq

/-- How the options say that entries are put on lines. -/
def layoutOf (o : Options) : Layout :=
  match (o.letters.filter "1Cxmlgno".toList.contains).reverse with
  | 'm' :: _ => .commas
  | 'C' :: _ => .columns false
  | 'x' :: _ => .columns true
  | ['1'] | [] => .lines
  | '1' :: rest => if rest.any "lgno".toList.contains then .long else .lines
  | _ :: _ => .long

/-- A text in quotes, with backslashes before what would end them. -/
def quoted (cs : Chars) : Chars :=
  Chars.doubleQuote :: (cs.flatMap fun c =>
    if c = Chars.doubleQuote ∨ c = '\\' then ['\\', c] else if c = '\n' then ['\\', 'n'] else [c])
    ++ [Chars.doubleQuote]

/-- A name as a list shows it: what it is the name of may be told by a mark. -/
def nameOf (o : Options) (name : Chars) (f : File) : Chars :=
  let mark : Chars := match f.kind with
    | .directory => ['/']
    | .link _ => if o.has 'F' && layoutOf o ≠ .long then ['@'] else []
    | .socket => if o.has 'F' then ['='] else []
    | .pipe => if o.has 'F' then ['|'] else []
    | _ => if o.has 'F' && f.permits .run then ['*'] else []
  let shown := if o.has 'Q' then quoted name else name
  if o.hasAny "Fp" then shown ++ mark else shown

/-- A size in the largest unit that leaves a whole one of it, rounded up. -/
def scaled (n : Nat) : Chars :=
  let place := (List.range 6).find? fun p => n < 1024 ^ (p + 1)
  match place with
  | none | some 0 => Chars.ofNat n
  | some p =>
    let unit := 1024 ^ p
    let tenths := (n * 10 + unit - 1) / unit
    let letter := ("KMGTP".toList[p - 1]?).toList
    if tenths < 100 then Chars.ofNat (tenths / 10) ++ '.' :: Chars.ofNat (tenths % 10) ++ letter
    else Chars.ofNat ((n + unit - 1) / unit) ++ letter

/-- How much room a file takes, in units of 1024 bytes. -/
def roomOf (f : File) : Nat :=
  match f.kind with
  | .regular content => (content.length + 4095) / 4096 * 4
  | .directory => 4
  | _ => 0

/-- What is known of a file, part by part. -/
def details (host : Host) (o : Options) (f : File) : List Chars :=
  let owner := chars (if o.has 'n' then "0" else "root")
  [kindLetter f :: Mode.letters f.mode, Chars.ofNat (linkCount host f)] ++
    (if o.has 'g' then [] else [owner]) ++ (if o.has 'o' || o.has 'G' then [] else [owner]) ++
    [if o.has 'h' then scaled (sizeOf f) else Chars.ofNat (sizeOf f)]

/-- A text with blanks before it, up to a width. -/
def padded (width : Nat) (cs : Chars) : Chars := List.replicate (width - cs.length) ' ' ++ cs

/-- Rows whose parts are filled up so that all of one place are equally long. -/
def aligned (rows : List (List Chars)) : List (List Chars) :=
  let widths := rows.foldl (fun widths row =>
    (List.range (max widths.length row.length)).map fun i =>
      max (widths[i]?.getD 0) ((row[i]?.getD []).length)) []
  rows.map fun row => (row.zip widths).map fun (part, width) => padded width part

/-- Blanks and tabs from one column to another. -/
def gap : Nat → Nat → Nat → Chars
  | 0, _, _ => []
  | fuel + 1, start, stop =>
    if stop ≤ start then []
    else if (start + 1) / 8 < stop / 8 then '\t' :: gap fuel (start + 8 - start % 8) stop
    else ' ' :: gap fuel (start + 1) stop

/-- How long a line may be. -/
def lineWidth : Nat := 80

/-- The column in which a text stands where there are so many columns. -/
def columnOf (across : Bool) (total count i : Nat) : Nat :=
  if across then i % count else i / ((total + count - 1) / count)

/-- How wide columns have to be for some texts. -/
def widthsFor (across : Bool) (texts : List Chars) (count : Nat) : List Nat :=
  (List.range count).map fun c =>
    (texts.zipIdx.filter fun (_, i) => columnOf across texts.length count i = c).foldl
      (fun width (text, _) => max width (text.length + if c + 1 = count then 0 else 2)) 3

/-- Texts in as many columns as there is room for. -/
def columns (across : Bool) (texts : List Chars) : List Chars :=
  let fits (count : Nat) : Bool := (widthsFor across texts count).foldl (· + ·) 0 < lineWidth
  let most := min texts.length (lineWidth / 3)
  let count := (((List.range most).map (· + 1)).filter fits).foldl max 1
  let widths := widthsFor across texts count
  let rows := (texts.length + count - 1) / count
  (List.range rows).map fun row =>
    let members := (List.range count).filterMap fun c =>
      (texts[if across then row * count + c else c * rows + row]?).map (c, ·)
    let ends := members.getLast?.map (·.1)
    (members.foldl (fun (line, start) (c, text) =>
      let stop := start + (widths[c]?.getD 0)
      let after := if ends = some c then [] else gap lineWidth (start + text.length) stop
      (line ++ text ++ after, stop)) (([] : Chars), 0)).1

/-- Texts on lines with commas between them. -/
def commas (texts : List Chars) : List Chars :=
  let step (state : List Chars × Nat) (text : Chars) : List Chars × Nat :=
    match state with
    | ([], _) => ([text], text.length)
    | (line :: lines, place) =>
      if place + text.length + 2 < lineWidth then
        ((line ++ [',', ' '] ++ text) :: lines, place + 2 + text.length)
      else (text :: (line ++ [',']) :: lines, text.length)
  (texts.foldl step ([], 0)).1.reverse

/-- The lines that show entries. -/
def linesOf (host : Host) (o : Options) (entries : List (Chars × File)) : List Chars :=
  let fronts := aligned (entries.map fun (_, f) =>
    (if o.has 'i' then [Chars.ofNat f.inode] else []) ++
      (if o.has 's' then [Chars.ofNat (roomOf f)] else []))
  let front (row : List Chars) : Chars := row.flatMap (· ++ [' '])
  let names := entries.map fun (name, f) => nameOf o name f
  let texts := (fronts.zip names).map fun (row, name) => front row ++ name
  match layoutOf o with
  | .lines => texts
  | .commas => if texts.isEmpty then [] else commas texts
  | .columns across => if texts.isEmpty then [] else columns across texts
  | .long =>
    let rows := aligned (entries.map fun (_, f) => details host o f)
    ((fronts.zip rows).zip (entries.zip names)).map fun ((before, row), ((_, f), name)) =>
      let pointed := match f.kind with
        | .link target => chars " -> " ++ Chars.ofBytes target
        | _ => []
      front before ++ Chars.join [' '] row ++ chars " Jan  1 00:00 " ++ name ++ pointed

/-- Entries in the order in which they are shown. -/
def inOrder (o : Options) (entries : List (Chars × File)) : List (Chars × File) :=
  let entries := if o.has 'S' then entries.mergeSort fun a b => sizeOf b.2 ≤ sizeOf a.2 else entries
  if o.has 'r' then entries.reverse else entries

/-- Whether an entry of a directory is shown. -/
def isShown (o : Options) (f : File) : Bool :=
  o.has 'a' || o.has 'A' || o.has 'f' || f.name.head? != some Path.dot

/-- The entries of a directory that are shown. -/
def entriesOf (host : Host) (o : Options) (directory : File) : List (Chars × File) :=
  let inner := (host.tree.children directory.location).filter (isShown o)
  let named (f : File) : Chars × File := (Chars.ofBytes f.name, f)
  let outer := (host.tree.find? directory.location.dropLast).getD directory
  let around := if o.hasAny "af" then [(['.'], directory), (['.', '.'], outer)] else []
  inOrder o (around ++ inner.map named)

/-- Directories with those below them, as far as they can be looked into, at most `depth`
deep. -/
def withInner (host : Host) (o : Options) : Nat → Chars × File → List (Chars × File)
  | 0, entry => [entry]
  | depth + 1, (name, f) =>
    let inner := (host.tree.children f.location).filter fun g => g.isDir && isShown o g
    let inner := if o.has 'r' then inner.reverse else inner
    (name, f) :: (if f.permits .read then inner.flatMap fun g =>
      withInner host o depth (below name (Chars.ofBytes g.name), g) else [])

end Listing

/-- Lists files, and the entries of directories. -/
def ls : Body := withOptions "aAbBcCdfFgGhHiIklLmnNopqQrRsStuUvxX1" 2 fun inv o => do
  let host ← get
  let operands := (if o.operands.isEmpty then [['.']] else o.operands).mergeSort fun a b =>
    FileTree.nameLE (Chars.bytes a) (Chars.bytes b)
  let look (name : Chars) : Except Errno File :=
    if (o.hasAny "dF" || Listing.layoutOf o = .long) ∧ ¬ o.has 'L' ∧ name.getLast? ≠ some '/' then
      host.tree.linkStatAt inv.view (path name)
    else
      match host.tree.statAt inv.view (path name) with
      | .ok f => .ok f
      | .error e => (host.tree.linkStatAt inv.view (path name)).mapError fun _ => e
  let found := operands.map fun name => (name, look name)
  for (name, result) in found do
    if let .error e := result then complainOf inv "cannot access" name e
  let known := Listing.inOrder o (found.filterMap fun (name, result) =>
    result.toOption.map (name, ·))
  let plain := known.filter fun (_, f) => o.has 'd' || !f.isDir
  let dirs := known.filter fun (_, f) => !o.has 'd' && f.isDir
  let dirs := if o.has 'R' then dirs.flatMap (Listing.withInner host o host.tree.depthBound)
    else dirs
  for line in Listing.linesOf host o plain do
    say inv (line ++ ['\n'])
  let mut first := plain.isEmpty
  for (name, f) in dirs do
    if ¬ f.permits .read then complainOf inv "cannot open directory" name .accessDenied
    else
      if 1 < operands.length || o.has 'R' then
        say inv ((if first then [] else ['\n']) ++ name ++ [':', '\n'])
      first := false
      let entries := Listing.entriesOf host o f
      if Listing.layoutOf o = .long ∨ o.has 's' then
        let room := (entries.map fun (_, f) => Listing.roomOf f).foldl (· + ·) 0
        say inv (chars "total " ++ Chars.ofNat room ++ ['\n'])
      for line in Listing.linesOf host o entries do
        say inv (line ++ ['\n'])
  let hidden := dirs.any fun (_, f) => !f.permits .read
  return if known.length = found.length ∧ ¬ hidden then 0 else 2

end Container.Programs
