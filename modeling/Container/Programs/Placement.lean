import Container.Programs.Paths
import Container.Programs.Transfers
import Container.Programs.Texts

set_option autoImplicit false

/-!
# Programs that put files somewhere

## Main definitions

* `install`, `link`, `unlink`, `mktemp`, `split` — programs that make files and links.
* `chown` — the program that gives files to somebody.
-/

namespace Container.Programs

/-- Makes directories, or copies files with permission bits of their own. -/
def install : Body := withOptions "bcCdDg:m:o:pst:Tv" 1 fun inv o => do
  let changed? (text : Chars) : Option Nat := Mode.changed? 0 false 0o755 text
  match (o.value? 'm').elim (some 0o755) changed? with
  | none =>
    complain inv (chars "install: invalid mode\n")
    return 1
  | some mode =>
    if o.has 'd' then
      forEachOf inv o.operands fun name => do
        let done ← reported inv "cannot create directory" name
          (Host.changePartly (·.makeDirs inv.view (path name)))
        if let .ok f := (← get).tree.statAt inv.view (path name) then setMode f mode
        return done
    else
      toTarget inv o (o.has 'T') fun source target => do
        if o.has 'D' then
          let _ ← Host.changePartly (·.makeDirs inv.view (path (upToLast target)))
        match (← get).tree.statAt inv.view (path source) with
        | .error e =>
          complainOf inv "cannot stat" source e
          return false
        | .ok f =>
          if f.isDir then
            complain inv (chars "install: omitting directory " ++ named source ++ ['\n'])
            return false
          let done ← copyFile inv false source target f
          if done then
            tellOfWay inv o "" source (chars " -> ") target
            if let .ok g := (← get).tree.statAt inv.view (path target) then setMode g mode
          return done

/-- Does something with the operands of a program, which are to be a number of them. -/
def withExactly (count : Nat) (inv : Invocation) (act : List Chars → HostM Bool) : HostM Nat := do
  let operands := match inv.arguments.drop 1 with
    | ['-', '-'] :: operands => operands
    | operands => operands
  match operands[count]?, operands.getLast? with
  | some extra, _ =>
    complainOfUse inv (chars "extra operand " ++ named extra)
    return 1
  | none, last? =>
    if operands.length = count then return if ← act operands then 0 else 1
    else
      complainOfUse inv (match last? with
        | some last => chars "missing operand after " ++ named last
        | none => chars "missing operand")
      return 1

/-- Gives a file a second path. -/
def link : Body := fun inv => withExactly 2 inv fun operands => do
  match operands with
  | [source, target] =>
    reported inv "cannot create link" target
      (Host.change (·.makeLink inv.view (path source) (path target)))
  | _ => return false

/-- Removes a path of a file. -/
def unlink : Body := fun inv => withExactly 1 inv fun operands => do
  match operands with
  | [name] => reported inv "cannot unlink" name (Host.change (·.unlink inv.view (path name)))
  | _ => return false

/-! ## Names that are new -/

/-- The digits of a number in base 36, as many as asked for. -/
def digitsOf : Nat → Nat → Chars
  | 0, _ => []
  | count + 1, n =>
    let d := n % 36
    digitsOf count (n / 36) ++ [if d < 10 then Char.ofNat (48 + d) else Char.ofNat (87 + d)]

/-- Makes a file or a directory with a new name, and writes the name. -/
def mktemp : Body := withOptions "dp:qtu" 1 fun inv o => do
  let usual := chars "tmp.XXXXXXXXXX"
  let template := o.operands.head?.getD usual
  let place := (o.value? 'p').getD ((inv.setting? (chars "TMPDIR")).getD (chars "/tmp"))
  let isInPlace : Bool := o.operands.isEmpty || (o.value? 'p').isSome || o.has 't'
  let marks := (template.reverse.takeWhile (· = 'X')).length
  if marks < 3 then
    complain inv (chars "mktemp: too few X's in template " ++ named template ++ ['\n'])
    return 1
  let number ← Host.newId
  let name := template.take (template.length - marks) ++ digitsOf marks number
  let name := if isInPlace then below place name else name
  let call (tree : FileTree) : Except Errno FileTree :=
    if o.has 'd' then tree.make inv.view (path name) false 0o700 .directory
    else tree.make inv.view (path name) false 0o600 (.regular [])
  match ← (if o.has 'u' then pure (.ok ()) else Host.change call) with
  | .ok () =>
    say inv (name ++ ['\n'])
    return 0
  | .error e =>
    if !o.has 'q' then
      complainOver inv (chars "failed to create " ++
        chars (if o.has 'd' then "directory" else "file") ++ chars " via template " ++
        named (if isInPlace then below place template else template)) e
    return 1

/-! ## Parts of a file -/

/-- The end of the name of a part: letters or digits, as many as asked for. -/
def partName (digits : Bool) : Nat → Nat → Chars
  | 0, _ => []
  | count + 1, n =>
    let base := if digits then 10 else 26
    partName digits count (n / base) ++ [Char.ofNat ((if digits then 48 else 97) + n % base)]

/-- Writes the parts of a file into files of their own: so many lines or bytes each. -/
def split : Body := withOptions "a:b:C:dl:n:" 1 fun inv o => do
  let source := o.operands.head?.getD ['-']
  let start := (o.operands[1]?).getD ['x']
  match ← contentOf inv source with
  | .error e =>
    complainOver inv (chars "cannot open " ++ named source ++ chars " for reading") e
    return 1
  | .ok content =>
    let content := Chars.ofBytes content
    let (units, count?) := match o.value? 'b' with
      | some text => (content.map fun c => [c], size? text)
      | none => (endedLines content, ((o.value? 'l').elim (some 1000) Chars.toNat?))
    match count?.filter (0 < ·) with
    | none =>
      complain inv (chars "split: invalid number\n")
      return 1
    | some count =>
      let total := (units.length + count - 1) / count
      let width := ((o.value? 'a').bind Chars.toNat?).getD 2
      forEach ((List.range total).map (partName (o.has 'd') width)) fun ending => do
        let i := ((List.range total).find? fun i => partName (o.has 'd') width i = ending).getD 0
        match ← Host.openOutput inv.view (path (start ++ ending)) true with
        | .ok stream =>
          Host.write stream (Chars.bytes ((units.drop (i * count)).take count).flatten)
          return true
        | .error e =>
          complainOver inv (start ++ ending) e
          return false

/-! ## Owners -/

/-- Whether a text names the one user that owns all files, and nobody else. -/
def isOwner (cs : Chars) : Bool := cs = chars "root" || cs = ['0']

/-- Whether a text may name a user at all. -/
def isUser (cs : Chars) : Bool := isOwner cs || cs.all Char.isDigit

/-- Gives files to somebody. They can only be given to the user that has them already. -/
def chown : Body := withOptions "cfhHLPRv" 1 fun inv o => do
  match o.operands with
  | [] | [_] =>
    complainOfUse inv (match o.operands with
      | [one] => chars "missing operand after " ++ named one
      | _ => chars "missing operand")
    return 1
  | owner :: names =>
    let parties := (owner.map fun c => if c = '.' then ':' else c).splitOn ':'
    if !parties.all isUser then
      complain inv (ownName inv ++ chars ": invalid user: " ++ named owner ++ ['\n'])
      return 1
    forEach names fun name => do
      match (← get).tree.statAt inv.view (path name) with
      | .error e =>
        if !o.has 'f' then complainOf inv "cannot access" name e
        return false
      | .ok _ =>
        if parties.all fun p => p.isEmpty || isOwner p then return true
        complainOf inv "changing ownership of" name .notPermitted
        return false

end Container.Programs
