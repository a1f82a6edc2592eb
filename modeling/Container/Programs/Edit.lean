import Container.Programs.Lines

set_option autoImplicit false

/-!
# Editing lines

A script of edits is run once for every line of a text. Each edit may be tied to lines by their
numbers, by patterns, or to all lines from one to another; it changes the line, writes it, leaves
it out or says where the script goes on.

## Main definitions

* `Edit.Address`, `Edit.Action`, `Edit.Step` — what a script is made of.
* `Edit.read?` — the script that a text writes.
* `Edit.run` — runs a script over lines.
* `sed` — the program.
-/

namespace Container.Programs

namespace Edit

/-- A line that an edit is tied to. -/
inductive Address where
  | line (n : Nat)
  /-- Every so many lines from one on. -/
  | every (first step : Nat)
  | last
  | pattern (fold : Bool) (p : Search.Pattern)
  /-- So many lines after the first one of a range. -/
  | after (n : Nat)

/-- How letters are changed. -/
inductive Casing where
  | upper
  | lower
  | asIs

/-- A part of the text that replaces what a pattern matched. -/
inductive Piece where
  | text (cs : Chars)
  | group (n : Nat)
  /-- From here on letters are changed, or only the next one. -/
  | casing (c : Casing) (once : Bool)

/-- How a pattern is replaced. -/
structure Substitution where
  pattern : Search.Pattern
  pieces : List Piece
  fold : Bool
  /-- The first occurrence that is replaced, counted from one. -/
  from_ : Nat
  onward : Bool
  printed : Bool
  /-- The file to which a changed line is added. -/
  file? : Option Chars

/-- What an edit does. -/
inductive Action where
  | substitute (s : Substitution)
  | delete
  | deleteFirst
  | print
  | printFirst
  | quit (code : Nat) (shown : Bool)
  | append (text : Chars)
  | insert (text : Chars)
  | change (text : Chars)
  | translate (source target : Chars)
  | number
  | next
  | join
  | hold (adding : Bool)
  | fetch (adding : Bool)
  | exchange
  | open_
  | close
  | label (name : Chars)
  | jump (name : Chars)
  /-- A jump if something was replaced since the last one, or if nothing was. -/
  | jumpIf (replaced : Bool) (name : Chars)
  /-- The line is written with marks for what cannot be seen. -/
  | reveal
  /-- The line is emptied. -/
  | clear
  /-- A file is written after the line. -/
  | readFile (name : Chars)
  /-- The line is added to a file. -/
  | writeFile (name : Chars)

/-- An edit: the lines it is tied to, whether to all others instead, and what it does. -/
structure Step where
  first? : Option Address
  second? : Option Address
  negated : Bool
  action : Action

/-! ## Reading scripts -/

/-- A text up to a delimiter, and what follows it. A delimiter behind a backslash counts as a
character; any other backslash stays. -/
def upTo (delimiter : Char) : Chars → Chars → Option (Chars × Chars)
  | _, [] => none
  | found, '\\' :: c :: cs =>
    if c = delimiter then upTo delimiter (c :: found) cs
    else upTo delimiter (c :: '\\' :: found) cs
  | found, c :: cs =>
    if c = delimiter then some (found.reverse, cs) else upTo delimiter (c :: found) cs

/-- Reads an address, if there is one. -/
def address? (extended : Bool) (cs : Chars) : Option (Option Address × Chars) :=
  match cs with
  | '$' :: rest => some (some .last, rest)
  | '/' :: rest => do
    let (text, rest) ← upTo '/' [] rest
    let p ← Search.read? extended text
    match rest with
    | 'I' :: rest => return (some (.pattern true p), rest)
    | rest => return (some (.pattern false p), rest)
  | '+' :: rest =>
    let (digits, rest) := rest.span Char.isDigit
    some ((Chars.toNat? digits).map .after, rest)
  | cs =>
    let (digits, rest) := cs.span Char.isDigit
    match Chars.toNat? digits, rest with
    | some first, '~' :: rest =>
      let (digits, rest) := rest.span Char.isDigit
      (Chars.toNat? digits).map fun step => (some (.every first step), rest)
    | some n, rest => some (some (.line n), rest)
    | none, rest => some (none, rest)

/-- The letters for changes of letters. -/
def casings : List (Char × Casing × Bool) := [('U', .upper, false), ('L', .lower, false),
  ('E', .asIs, false), ('u', .upper, true), ('l', .lower, true)]

/-- The pieces of a replacement, after a text that is not complete, which is in reverse. -/
def piecesOf : Chars → Chars → List Piece
  | text, [] => [.text text.reverse]
  | text, '&' :: cs => .text text.reverse :: .group 0 :: piecesOf [] cs
  | text, '\\' :: c :: cs =>
    if c.isDigit then .text text.reverse :: .group (c.toNat - 48) :: piecesOf [] cs
    else if let some (casing, once) := casings.lookup c then
      .text text.reverse :: .casing casing once :: piecesOf [] cs
    else piecesOf ((if c = 'n' then '\n' else if c = 't' then '\t' else c) :: text) cs
  | text, c :: cs => piecesOf (c :: text) cs

/-- The flags of a substitution, and what follows them. -/
def flagsOf : Substitution → Chars → Substitution × Chars
  | s, [] => (s, [])
  | s, c :: cs =>
    if c = 'g' then flagsOf { s with onward := true } cs
    else if c = 'p' then flagsOf { s with printed := true } cs
    else if c = 'i' ∨ c = 'I' then flagsOf { s with fold := true } cs
    else if c.isDigit then flagsOf { s with from_ := c.toNat - 48 } cs
    else if c = 'w' then
      let (name, rest) := (cs.dropWhile Chars.isBlank).span (· ≠ '\n')
      ({ s with file? := some name }, rest)
    else (s, c :: cs)

/-- A text that ends with its line, without the blanks before it; a backslash goes before an end
of a line that belongs to it. -/
def lineText (cs : Chars) : Chars × Chars :=
  let cs := match cs.dropWhile Chars.isBlank with
    | '\\' :: '\n' :: cs => cs
    | '\\' :: cs => cs
    | cs => cs
  let rec take : Chars → Chars → Chars × Chars
    | found, '\\' :: c :: cs => take (c :: found) cs
    | found, '\n' :: cs => (found.reverse, cs)
    | found, c :: cs => take (c :: found) cs
    | found, [] => (found.reverse, [])
  let (text, rest) := take [] cs
  (text ++ ['\n'], rest)

/-- Reads what an edit does. -/
def action? (extended : Bool) (cs : Chars) : Option (Action × Chars) := do
  let word (cs : Chars) : Chars × Chars :=
    (cs.dropWhile Chars.isBlank).span fun c => !(c = '\n' || c = ';' || Chars.isBlank c)
  match cs with
  | 's' :: delimiter :: rest =>
    let (pattern, rest) ← upTo delimiter [] rest
    let (replacement, rest) ← upTo delimiter [] rest
    let p ← Search.read? extended pattern
    let (s, rest) := flagsOf ⟨p, piecesOf [] replacement, false, 1, false, false, none⟩ rest
    return (.substitute s, rest)
  | 'y' :: delimiter :: rest =>
    let (source, rest) ← upTo delimiter [] rest
    let (target, rest) ← upTo delimiter [] rest
    if source.length = target.length then return (.translate source target, rest) else none
  | 'a' :: rest =>
    let (text, rest) := lineText rest
    return (.append text, rest)
  | 'i' :: rest =>
    let (text, rest) := lineText rest
    return (.insert text, rest)
  | 'c' :: rest =>
    let (text, rest) := lineText rest
    return (.change text, rest)
  | 'q' :: rest | 'Q' :: rest =>
    let (digits, rest) := (rest.dropWhile Chars.isBlank).span Char.isDigit
    return (.quit ((Chars.toNat? digits).getD 0) (cs.head? = some 'q'), rest)
  | ':' :: rest =>
    let (name, rest) := word rest
    return (.label name, rest)
  | 'b' :: rest =>
    let (name, rest) := word rest
    return (.jump name, rest)
  | 't' :: rest =>
    let (name, rest) := word rest
    return (.jumpIf true name, rest)
  | 'T' :: rest =>
    let (name, rest) := word rest
    return (.jumpIf false name, rest)
  | 'r' :: rest =>
    let (name, rest) := (rest.dropWhile Chars.isBlank).span (· ≠ '\n')
    return (.readFile name, rest)
  | 'w' :: rest =>
    let (name, rest) := (rest.dropWhile Chars.isBlank).span (· ≠ '\n')
    return (.writeFile name, rest)
  | c :: rest =>
    let simple : List (Char × Action) := [('d', .delete), ('D', .deleteFirst), ('p', .print),
      ('P', .printFirst), ('=', .number), ('n', .next), ('N', .join), ('h', .hold false),
      ('H', .hold true), ('g', .fetch false), ('G', .fetch true), ('x', .exchange),
      ('l', .reveal), ('z', .clear),
      ('\x7b', .open_), ('\x7d', .close)]
    return (← simple.lookup c, rest)
  | [] => none

/-- Reads the steps of a script, at most `fuel` of them. -/
def steps? (extended : Bool) : Nat → Chars → Option (List Step)
  | 0, _ => none
  | fuel + 1, cs => do
    let isGap (c : Char) : Bool := Chars.isBlank c || c = '\n' || c = ';'
    let cs := cs.dropWhile isGap
    if cs.isEmpty then return []
    else if cs.head? = some '#' then steps? extended fuel (cs.dropWhile (· ≠ '\n'))
    else
      let (first?, cs) ← address? extended cs
      let (second?, cs) ← match cs.dropWhile Chars.isBlank with
        | ',' :: cs => address? extended (cs.dropWhile Chars.isBlank)
        | _ => some (none, cs)
      let cs := cs.dropWhile Chars.isBlank
      let (negated, cs) := match cs with
        | '!' :: cs => (true, cs.dropWhile Chars.isBlank)
        | cs => (false, cs)
      let (action, rest) ← action? extended cs
      let isOpen := match action with
        | .open_ | .append _ | .insert _ | .change _ => true
        | _ => false
      let rest := rest.dropWhile Chars.isBlank
      if !isOpen && rest.head?.any fun c => !(isGap c || c = '\x7d' || c = '#') then none
      else return ⟨first?, second?, negated, action⟩ :: (← steps? extended fuel rest)

/-- The script that a text writes. -/
def read? (extended : Bool) (cs : Chars) : Option (List Step) := steps? extended (cs.length + 2) cs

/-! ## Running scripts -/

/-- What a script works on. -/
structure State where
  space : Chars
  held : Chars
  number : Nat
  rest : List Chars
  /-- What was written, in reverse. -/
  written : List Chars
  /-- What is written after the line. -/
  later : List Chars
  replaced : Bool
  /-- The steps that are within their ranges, with the numbers of the lines where they began. -/
  inside : List (Nat × Nat)
  ended? : Option Nat
  /-- The lines for files, the latest first. -/
  filed : List (Chars × Chars)

namespace State

/-- Writes a text. -/
def write (s : State) (cs : Chars) : State := { s with written := cs :: s.written }

/-- Writes the line as it is. -/
def show_ (s : State) : State := s.write (s.space ++ ['\n'])

/-- Adds the line to a file. -/
def file (s : State) (name : Chars) : State :=
  { s with filed := (name, s.space ++ ['\n']) :: s.filed }

end State

/-- Whether an address is that of the line. -/
def Address.fits (a : Address) (s : State) : Bool :=
  match a with
  | .line n => s.number = n
  | .every first step =>
    if step = 0 then s.number = first else first ≤ s.number && (s.number - first) % step = 0
  | .last => s.rest.isEmpty
  | .pattern fold p => Search.occurs fold p s.space
  | .after _ => false

/-- Whether a step, the one with this index, is tied to the line. -/
def Step.applies (step : Step) (index : Nat) (s : State) : Bool × State :=
  let (chosen, s) : Bool × State :=
    match step.first?, step.second? with
    | none, _ => (true, s)
    | some a, none => (a.fits s, s)
    | some a, some b =>
      let leave : State := { s with inside := s.inside.filter (·.1 ≠ index) }
      match s.inside.lookup index with
      | some began =>
        let isOver : Bool := match b with
          | .line n => n ≤ s.number
          | .after n => began + n ≤ s.number
          | b => b.fits s
        let beyond : Bool := match b with
          | .line n => n < s.number
          | _ => false
        if beyond then (a.fits s, leave) else (true, if isOver then leave else s)
      | none =>
        if a.fits s then
          let single : Bool := match b with
            | .line n => n ≤ s.number
            | .after n => n = 0
            | _ => false
          (true, if single then s else { s with inside := (index, s.number) :: s.inside })
        else (false, s)
  (chosen != step.negated, s)

/-- A letter changed. -/
def Casing.change (c : Casing) (d : Char) : Char :=
  match c with
  | .upper => d.toUpper
  | .lower => d.toLower
  | .asIs => d

/-- A text with its letters changed, the first of them in its own way if there is one. -/
def cased (once? : Option Casing) (all : Casing) : Chars → Chars
  | [] => []
  | c :: cs => (once?.getD all).change c :: cs.map all.change

/-- The replacement for what was matched. -/
def replacement (pieces : List Piece) (found : Search.Occurrence) : Chars :=
  go none .asIs pieces
where
  /-- The replacement by pieces, with how letters are changed. -/
  go (once? : Option Casing) (all : Casing) : List Piece → Chars
    | [] => []
    | .casing c true :: pieces => go (some c) all pieces
    | .casing c false :: pieces => go none c pieces
    | .text cs :: pieces => cased once? all cs ++ go (if cs.isEmpty then once? else none) all pieces
    | .group n :: pieces =>
      let cs := if n = 0 then found.text else (found.groups.lookup n).getD []
      cased once? all cs ++ go (if cs.isEmpty then once? else none) all pieces

/-- A line with marks for what cannot be seen. -/
def revealed (cs : Chars) : Chars :=
  (cs.flatMap fun c =>
    let escapes : List (Char × Char) := [('\\', '\\'), ('\n', 'n'), ('\t', 't'),
      (Char.ofNat 7, 'a'), (Char.ofNat 8, 'b'), (Char.ofNat 12, 'f'), (Char.ofNat 13, 'r'),
      (Char.ofNat 11, 'v')]
    match escapes.lookup c with
    | some d => ['\\', d]
    | none =>
      if 32 ≤ c.toNat ∧ c.toNat < 127 then [c]
      else
        let digits := Nat.toDigits 8 c.toNat
        '\\' :: List.replicate (3 - digits.length) '0' ++ digits) ++ ['$', '\n']

/-- A text after a substitution, if anything was replaced. -/
def Substitution.apply? (sub : Substitution) (cs : Chars) : Option Chars :=
  let all := Search.occurrences sub.fold sub.pattern cs
  let chosen := if sub.onward then all.drop (sub.from_ - 1) else (all.drop (sub.from_ - 1)).take 1
  if chosen.isEmpty then none
  else
    let (text, place) := chosen.foldl (fun (acc : Chars × Nat) found =>
      let start := found.before.length
      (acc.1 ++ (cs.drop acc.2).take (start - acc.2) ++ replacement sub.pieces found,
        start + found.text.length)) ([], 0)
    some (text ++ cs.drop place)

/-- The place behind the brace that closes the block before which `depth` others were opened. -/
def afterBlock : Nat → Nat → List Step → Nat
  | _, n, [] => n
  | depth, n, step :: steps =>
    match step.action, depth with
    | .open_, _ => afterBlock (depth + 1) (n + 1) steps
    | .close, 0 => n + 1
    | .close, depth + 1 => afterBlock depth (n + 1) steps
    | _, _ => afterBlock depth (n + 1) steps

/-- The place of a label; without a name, the end. -/
def placeOf (script : List Step) (name : Chars) : Nat :=
  if name.isEmpty then script.length
  else (script.findIdx? fun step => match step.action with
    | .label n => n = name
    | _ => false).getD script.length

/-- Runs a script on one line from a place on, for at most `fuel` steps. The answer says whether
the line is written at the end. The texts of files that are read are given. -/
def runFrom (textOf : Chars → Chars) (quiet : Bool) (script : List Step) : Nat → Nat → State →
    Bool × State
  | 0, _, s => (true, s)
  | fuel + 1, place, s =>
    match script[place]? with
    | none => (true, s)
    | some step =>
      let (applies, s) := step.applies place s
      let on := runFrom textOf quiet script fuel
      if !applies then
        match step.action with
        | .open_ => on (place + 1 + afterBlock 0 0 (script.drop (place + 1))) s
        | _ => on (place + 1) s
      else
        let firstLine := s.space.takeWhile (· ≠ '\n')
        match step.action with
        | .substitute sub =>
          match sub.apply? s.space with
          | none => on (place + 1) s
          | some space =>
            let s := { s with space, replaced := true }
            let s := if sub.printed then s.show_ else s
            on (place + 1) ((sub.file?.map s.file).getD s)
        | .delete => (false, s)
        | .deleteFirst =>
          if s.space.contains '\n' then
            on 0 { s with space := (s.space.dropWhile (· ≠ '\n')).drop 1 }
          else (false, s)
        | .print => on (place + 1) s.show_
        | .printFirst => on (place + 1) (s.write (firstLine ++ ['\n']))
        | .quit code shown => (shown, { s with ended? := some code })
        | .append text => on (place + 1) { s with later := s.later ++ [text] }
        | .insert text => on (place + 1) (s.write text)
        | .change text =>
          let within := step.second?.isSome && (s.inside.lookup place).isSome && !step.negated
          (false, if within then s else s.write text)
        | .translate source target =>
          on (place + 1) { s with space := s.space.map (translated source target) }
        | .number => on (place + 1) (s.write (Chars.ofNat s.number ++ ['\n']))
        | .next =>
          match s.rest with
          | [] => (true, { s with ended? := some 0 })
          | line :: rest =>
            let s := if quiet then s else s.show_
            on (place + 1) { s with space := line, rest, number := s.number + 1 }
        | .join =>
          match s.rest with
          | [] => (true, { s with ended? := some 0 })
          | line :: rest =>
            on (place + 1) { s with space := s.space ++ '\n' :: line, rest, number := s.number + 1 }
        | .hold adding =>
          on (place + 1) { s with held := if adding then s.held ++ '\n' :: s.space else s.space }
        | .fetch adding =>
          on (place + 1) { s with space := if adding then s.space ++ '\n' :: s.held else s.held }
        | .exchange => on (place + 1) { s with space := s.held, held := s.space }
        | .open_ | .close | .label _ => on (place + 1) s
        | .jump name => on (placeOf script name) s
        | .jumpIf replaced name =>
          let after := { s with replaced := false }
          if s.replaced = replaced then on (placeOf script name) after else on (place + 1) after
        | .reveal => on (place + 1) (s.write (revealed s.space))
        | .clear => on (place + 1) { s with space := [] }
        | .readFile name => on (place + 1) { s with later := s.later ++ [textOf name] }
        | .writeFile name => on (place + 1) (s.file name)

/-- How many steps may be made for one line. -/
def stepLimit : Nat := 10000

/-- Runs a script over the lines that are left, at most `fuel` of them. -/
def runLines (textOf : Chars → Chars) (quiet : Bool) (script : List Step) : Nat → State → State
  | 0, s => s
  | fuel + 1, s =>
    match s.rest with
    | [] => s
    | line :: rest =>
      let begun :=
        { s with space := line, rest, number := s.number + 1, replaced := false, later := [] }
      let (shown, s) := runFrom textOf quiet script stepLimit 0 begun
      let s := if shown && !quiet then s.show_ else s
      let s := s.later.foldl State.write s
      if s.ended?.isSome then s else runLines textOf quiet script fuel s

/-- What a script comes to: what it writes, the code it ends with, and what it adds to files. -/
structure Result where
  shown : Chars
  code : Nat
  filed : List (Chars × Chars)

/-- Runs a script over lines. -/
def run (textOf : Chars → Chars) (quiet : Bool) (script : List Step) (lines : List Chars) :
    Result :=
  let s := runLines textOf quiet script (lines.length + 1)
    ⟨[], [], 0, lines, [], [], false, [], none, []⟩
  ⟨s.written.reverse.flatten, s.ended?.getD 0, s.filed.reverse⟩

/-- What a script makes of a text, the last line of which may have no end. -/
def ofText (textOf : Chars → Chars) (quiet : Bool) (script : List Step) (content : Chars) :
    Result :=
  let r := run textOf quiet script (Chars.lines content)
  let isOpen := content.getLast?.any (· ≠ '\n')
  if isOpen ∧ r.shown.getLast? = some '\n' ∧ ¬ quiet then { r with shown := r.shown.dropLast }
  else r

/-- The files that a script writes. -/
def filesWritten (script : List Step) : List Chars :=
  (script.filterMap fun step => match step.action with
    | .substitute sub => sub.file?
    | .writeFile name => some name
    | _ => none).eraseDups

/-- The files that a script reads. -/
def filesRead (script : List Step) : List Chars :=
  (script.filterMap fun step => match step.action with
    | .readFile name => some name
    | _ => none).eraseDups

end Edit

/-- Opens the files that a script of edits writes. -/
def openAll (inv : Invocation) (names : List Chars) : HostM (List (Chars × Stream)) :=
  names.filterMapM fun name => do
    match descriptorOf? name with
    | some fd => return some (name, inv.stream fd)
    | none =>
      match ← Host.openOutput inv.view (path name) true with
      | .ok stream => return some (name, stream)
      | .error _ => return none

/-- Edits the texts of files by a script: in the files themselves, of which the old texts may be
kept under names with an ending, or one after the other. -/
def editFiles (inv : Invocation) (o : Options) (kept : Chars) (script : List Edit.Step)
    (operands : List Chars) : HostM Nat := do
  let outputs ← openAll inv (Edit.filesWritten script)
  let texts ← (Edit.filesRead script).mapM fun name => do
    return (name, Chars.ofBytes ((← contentOf inv name).toOption.getD []))
  let edited (content : Chars) : HostM Edit.Result := do
    let r := Edit.ofText (fun name => (texts.lookup name).getD []) (o.has 'n') script content
    for (name, line) in r.filed do
      if let some stream := outputs.lookup name then Host.write stream (Chars.bytes line)
    return r
  let read (name : Chars) : HostM (Option Chars) := do
    match ← contentOf inv name with
    | .ok content => return some (Chars.ofBytes content)
    | .error e =>
      if e = .isDirectory then
        complain inv (chars "sed: couldn't edit " ++ name ++ chars ": not a regular file\n")
      else complain inv (chars "sed: can't read " ++ name ++ chars ": " ++ wordingOf e ++ ['\n'])
      return none
  let replace (name content : Chars) : HostM Unit := do
    if let .ok stream ← Host.openOutput inv.view (path name) true then
      Host.write stream (Chars.bytes content)
  if o.hasAny "is" ∧ ¬ operands.isEmpty then
    let code ← forEach operands fun name => do
      match ← read name with
      | none => return false
      | some content =>
        let r ← edited content
        if o.has 'i' then
          if !kept.isEmpty then replace (name ++ kept) content
          replace name r.shown
        else say inv r.shown
        return true
    return if code = 0 then 0 else 2
  else
    let contents ← (if operands.isEmpty then [['-']] else operands).mapM read
    let r ← edited (contents.filterMap id).flatten
    say inv r.shown
    return if contents.all Option.isSome then r.code else 2

/-- Edits lines by a script. -/
def sed : Body := fun inv => do
  let inPlace (a : Chars) : Bool := a.take 2 = ['-', 'i'] && a.length > 2
  let given := inv.arguments.drop 1
  let kept := ((given.find? inPlace).getD []).drop 2
  let o :=
    (Usage.mk "e:Ef:inrsuz").read true (given.map fun a => if inPlace a then ['-', 'i'] else a)
  let (texts, operands) := match o.valuesOf 'e', o.valuesOf 'f', o.operands with
    | [], [], text :: operands => ([text], operands)
    | texts, _, operands => (texts, operands)
  let files ← (o.valuesOf 'f').mapM fun name => do
    return Chars.ofBytes ((← contentOf inv name).toOption.getD [])
  match o.fault?, Edit.read? (o.hasAny "Er") (Chars.join ['\n'] (texts ++ files)) with
  | some fault, _ =>
    complainOfUse inv fault
    return 1
  | none, none =>
    complain inv (chars "sed: -e expression #1, char 1: unknown command\n")
    return 1
  | none, some script =>
    if texts.isEmpty ∧ files.isEmpty then
      complain inv (chars ("Usage: sed [OPTION]... " ++
        "\x7bscript-only-if-no-other-script\x7d [input-file]...\n"))
      return 1
    else editFiles inv o kept script operands

end Container.Programs
