import Container.Programs.Files

set_option autoImplicit false

/-!
# Programs that copy, move and link files

## Main definitions

* `cp`, `mv`, `ln` — the programs.
-/

namespace Container.Programs

/-- Complains that an operand is missing, after the last one if there is one. -/
def complainOfMissing (inv : Invocation) (operands : List Chars) : HostM Unit :=
  complainOfUse inv (match operands.getLast? with
    | none => chars "missing file operand"
    | some last => chars "missing destination file operand after " ++ named last)

/-- Does something with each source and the place it goes to: the target, or a name in it where
it is a directory. Several sources need a directory. A directory that goes by its `last` name
only takes nothing in. An option may name the directory instead of the last operand. -/
def toTarget (inv : Invocation) (o : Options) (last : Bool)
    (act : Chars → Chars → HostM Bool) : HostM Nat := do
  let tree := (← get).tree
  if let some target := o.value? 't' then
    if ¬ tree.isDirAt inv.view (path target) then
      let e := match tree.statAt inv.view (path target) with
        | .error e => e
        | .ok _ => .notDirectory
      complainOver inv (chars "target directory " ++ named target) e
      return 1
    if o.operands.isEmpty then
      complainOfMissing inv []
      return 1
    return ← forEach o.operands fun source => act source (below target (lastName source))
  match o.operands.reverse with
  | target :: source :: others =>
    let isDir := tree.isDirAt inv.view (path target) && !last
    if others ≠ [] ∧ ¬ isDir then
      let e := match tree.statAt inv.view (path target) with
        | .error e => e
        | .ok _ => .notDirectory
      complainOver inv (chars "target " ++ named target) e
      return 1
    else
      forEach (source :: others).reverse fun source =>
        act source (if isDir then below target (lastName source) else target)
  | operands =>
    complainOfMissing inv operands
    return 1

/-- Tells where something went, where telling is asked for. -/
def tellOfWay (inv : Invocation) (o : Options) (deed : String) (source mark target : Chars) :
    HostM Unit :=
  if o.has 'v' then
    say inv (chars deed ++ named source ++ mark ++ named target ++ ['\n'])
  else pure ()

/-- Copies the content of a file, and its permission bits where it is new or `kept` is set. -/
def copyFile (inv : Invocation) (kept : Bool) (source target : Chars) (f : File) : HostM Bool := do
  let old? := ((← get).tree.statAt inv.view (path target)).toOption
  if old?.any fun g => g.inode = f.inode then
    complain inv (ownName inv ++ chars ": " ++ named source ++ chars " and " ++ named target ++
      chars " are the same file\n")
    return false
  else if ¬ f.permits .read then
    complainOver inv (chars "cannot open " ++ named source ++ chars " for reading") .accessDenied
    return false
  else
    match ← Host.openOutput inv.view (path target) true with
    | .error e =>
      let e := if e = .isDirectory ∧ target.getLast? = some '/' then .notDirectory else e
      complainOf inv "cannot create regular file" target e
      return false
    | .ok stream =>
      if let .file inode := stream then
        modify fun host => { host with
          tree := host.tree.update inode fun g => match g.kind with
            | .regular _ => { g with
                kind := f.kind
                mode := if kept then f.mode
                  else if old?.isNone then FileTree.masked f.mode inv.view.mask else g.mode }
            | _ => g }
      return true

/-- Copies a directory with everything in it. -/
def copyTree (source target : Location) : HostM Unit :=
  modify fun host =>
    let files := host.tree.files.filter fun f => FileTree.isBelow source f.location
    { host with
      tree := files.foldl (fun tree f =>
        let location := target ++ f.location.drop source.length
        match tree.find? location with
        | none => tree.add location f.mode f.kind
        | some g =>
          if f.isDir then tree else tree.update g.inode fun g => { g with kind := f.kind })
        host.tree }

/-- Tells where a directory with everything in it went, where telling is asked for. -/
def tellOfTree (inv : Invocation) (o : Options) (source target : Chars) (f : File) :
    HostM Unit := do
  for g in (← get).tree.files do
    if FileTree.isBelow f.location g.location then
      let place (start : Chars) : Chars :=
        (g.location.drop f.location.length).foldl (fun at_ n => below at_ (Chars.ofBytes n)) start
      tellOfWay inv o "" (place source) (chars " -> ") (place target)

/-- Copies files, and directories where that is asked for. -/
def cp : Body := withOptions "adfHilLnpPrRst:Tuvx" 1 fun inv o => do
  let whole := o.hasAny "rRa"
  let keepsLinks := o.hasAny "rRaPd" && !o.hasAny "LH"
  toTarget inv o (o.has 'T') fun source target => do
    let host ← get
    let found := if keepsLinks then host.tree.linkStatAt inv.view (path source)
      else host.tree.statAt inv.view (path source)
    let present := (host.tree.linkStatAt inv.view (path target)).toOption.isSome
    let told (act : HostM Bool) : HostM Bool := do
      let done ← act
      if done then tellOfWay inv o "" source (chars " -> ") target
      return done
    match found with
    | .error e =>
      complainOf inv "cannot stat" source e
      return false
    | .ok f =>
      if o.has 'n' ∧ present then return true
      else if f.isDir then
        if whole then
          match host.tree.resolve inv.view.root inv.view.cwd true (Chars.bytes target) with
          | .ok (.free location _) =>
            tellOfTree inv o source target f
            copyTree f.location location
            return true
          | .ok (.file g) =>
            if g.isDir then
              tellOfTree inv o source target f
              copyTree f.location g.location
              return true
            else
              complain inv (chars "cp: cannot overwrite non-directory " ++ named target ++
                chars " with directory " ++ named source ++ ['\n'])
              return false
          | .error e =>
            complainOf inv "cannot create directory" target e
            return false
        else
          complain inv (chars "cp: -r not specified; omitting directory " ++ named source ++ ['\n'])
          return false
      else
        match f.kind with
        | .link pointed =>
          told (reported inv "cannot create symbolic link" target
            (Host.change (·.make inv.view (path target) false 0o777 (.link pointed))))
        | _ => told (copyFile inv (o.hasAny "pa") source target f)

/-- Moves files. -/
def mv : Body := withOptions "fint:Tuv" 1 fun inv o =>
  toTarget inv o (o.has 'T') fun source target => do
    let host ← get
    let refused (what : Chars) : HostM Bool := do
      complain inv (ownName inv ++ chars ": " ++ what ++ ['\n'])
      return false
    let cannot (e : Errno) : HostM Bool := do
      complainOver inv (chars "cannot move " ++ named source ++ chars " to " ++ named target) e
      return false
    match host.tree.linkStatAt inv.view (path source),
        host.tree.resolve inv.view.root inv.view.cwd false (Chars.bytes target) with
    | .error e, _ =>
      complainOf inv "cannot stat" source e
      return false
    | .ok _, .error e => cannot e
    | .ok f, .ok place =>
      let (location, old?, slash) := match place with
        | .free location slash => (location, none, slash)
        | .file g => (g.location, some g, false)
      let directories := [f.location.dropLast, location.dropLast] ++
        (if f.isDir ∧ f.location.dropLast ≠ location.dropLast then [f.location] else [])
      if o.has 'n' ∧ old?.isSome then return true
      else if old?.any fun g => g.inode = f.inode then
        refused (named source ++ chars " and " ++ named target ++ chars " are the same file")
      else if f.isDir ∧ FileTree.isBelow f.location location then
        refused (chars "cannot move " ++ named source ++ chars " to a subdirectory of itself, " ++
          named target)
      else if slash ∧ ¬ f.isDir then cannot .notDirectory
      else if f.isDir ∧ old?.any fun g => !g.isDir then
        refused (chars "cannot overwrite non-directory " ++ named target ++
          chars " with directory " ++ named source)
      else if ¬ f.isDir ∧ old?.any File.isDir then
        refused (chars "cannot overwrite directory " ++ named target ++ chars " with non-directory")
      else if old?.any fun g => !(host.tree.children g.location).isEmpty then
        refused (chars "cannot overwrite " ++ named target ++ chars ": Directory not empty")
      else if directories.any fun d => !(host.tree.require d .write).isOk then cannot .accessDenied
      else
        let tree := if old?.isSome then host.tree.remove location else host.tree
        set { host with tree := tree.move f.location location }
        tellOfWay inv o "renamed " source (chars " -> ") target
        return true

/-- Makes links. -/
def ln : Body := withOptions "bdfinst:TvLPr" 1 fun inv o => do
  let operands := match o.operands, o.value? 't' with
    | [one], none => if o.has 'T' then [one] else [one, ['.']]
    | operands, _ => operands
  let tree := (← get).tree
  let isLink := operands.getLast?.any fun target =>
    match tree.linkStatAt inv.view (path target) with
    | .ok f => !f.isDir
    | .error _ => false
  let told (mark : String) (source target : Chars) (act : HostM Bool) : HostM Bool := do
    let done ← act
    if done then tellOfWay inv o "" target (chars mark) source
    return done
  toTarget inv { o with operands } (o.has 'T' || (o.has 'n' && isLink)) fun source target => do
    if o.has 'f' then
      let _ ← Host.change (·.unlink inv.view (path target))
    if o.has 's' then
      told " -> " source target (reported inv "failed to create symbolic link" target
        (Host.change (·.makeSymbolic inv.view (path target) (Chars.bytes source))))
    else
      match (← get).tree.linkStatAt inv.view (path source) with
      | .error e =>
        complainOf inv "failed to access" source e
        return false
      | .ok f =>
        if f.isDir then
          complain inv (named source |>.append (chars ": hard link not allowed for directory\n"))
          return false
        else
          told " => " source target (reported inv "failed to create hard link" target
            (Host.change (·.makeLink inv.view (path source) (path target))))

end Container.Programs
