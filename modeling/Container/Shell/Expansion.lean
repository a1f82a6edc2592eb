import Container.Shell.Session

set_option autoImplicit false

/-!
# Putting values into words

A word becomes fields: values are put in for its parameters, commands and calculations; values
that are not quoted are split where they have separators; and a field with special characters
becomes the names of the files it matches.

## Main definitions

* `fieldsOf` — the fields of words.
* `textOf` — the text of a word that is not split.
* `patternOf` — a word as a pattern.
-/

namespace Container.Shell

/-- Fields that are being put together: those that are complete, in reverse, and the one at
the end if there is one. -/
structure Fields where
  complete : List (List Mark)
  last? : Option (List Mark)

namespace Fields

/-- No fields. -/
def start : Fields := ⟨[], none⟩

/-- Adds a text to the last field, which is begun by a quoted text even if that is empty. -/
def add (f : Fields) (quoted : Bool) (cs : Chars) : Fields :=
  if cs.isEmpty ∧ ¬ quoted then f
  else { f with last? := some (f.last?.getD [] ++ Mark.all quoted cs) }

/-- Completes the last field, if there is one. -/
def close (f : Fields) : Fields :=
  match f.last? with
  | some field => ⟨field :: f.complete, none⟩
  | none => f

/-- Completes the last field, which is empty if there is none. -/
def closeAlways (f : Fields) : Fields := ⟨f.last?.getD [] :: f.complete, none⟩

/-- What stands between two fields so far. -/
inductive Gap where
  | nothing
  /-- Blanks. -/
  | soft
  /-- A separator that is no blank, and blanks around it. -/
  | hard
  deriving DecidableEq

/-- Adds a character of a value that is split at separators. Blanks next to another separator
belong to it. -/
def addChar (separators : Chars) : Fields × Gap → Char → Fields × Gap
  | (f, gap), c =>
    if !separators.contains c then (f.add false [c], .nothing)
    else if Chars.isBlank c || c = '\n' then
      match gap, f.last? with
      | .nothing, some _ => (f.close, .soft)
      | gap, _ => (f, gap)
    else if gap = .soft then (f, .hard)
    else (f.closeAlways, .hard)

/-- Adds a value that is split at separators. -/
def addSplit (separators : Chars) (f : Fields) (cs : Chars) : Fields :=
  (cs.foldl (addChar separators) (f, .nothing)).1

/-- Adds several values, each a field of its own but for its ends. -/
def addMany (addOne : Fields → Chars → Fields) : Fields → List Chars → Fields
  | f, [] => f
  | f, [cs] => addOne f cs
  | f, cs :: rest => addMany addOne (addOne f cs).close rest

/-- All fields in order. -/
def all (f : Fields) : List (List Mark) := f.close.complete.reverse

end Fields

/-- Why a shell ends over what it cannot put in or do. -/
inductive Fault where
  | unset (name : Chars)
  | unsetOrEmpty (name : Chars)
  /-- The parameter is needed, for a reason in the script. -/
  | needed (name reason : Chars)
  | constant (name : Chars)
  | calculation (fault : Arithmetic.Fault) (text : Chars)
  | substitution
  /-- A descriptor is named by something that is no number. -/
  | descriptor

/-- The words for a fault. -/
def Fault.words : Fault → Chars
  | .unset name => name ++ Chars.ofText ": parameter not set"
  | .unsetOrEmpty name => name ++ Chars.ofText ": parameter not set or null"
  | .needed name reason => name ++ Chars.ofText ": " ++ reason
  | .constant name => name ++ Chars.ofText ": is read only"
  | .calculation (.illegalNumber value) _ => Chars.ofText "Illegal number: " ++ value
  | .calculation (.expecting what) text => inExpression ("expecting " ++ what) text
  | .calculation .zeroDivision text => inExpression "division by zero" text
  | .substitution => Chars.ofText "Bad substitution"
  | .descriptor => Chars.ofText "Syntax error: Bad fd number"
where
  /-- What is wrong in an expression. -/
  inExpression (what : String) (text : Chars) : Chars :=
    Chars.ofText ("arithmetic expression: " ++ what ++ ": ") ++ Chars.doubleQuote :: text ++
      [Chars.doubleQuote]

/-- Computations that end the shell where they go wrong. -/
abbrev ExpandM := ExceptT Fault ShellM

/-- The command whose output is put in for a script. -/
abbrev PutIn := Chars → ShellM Chars

/-- Adds a value to fields. -/
def addValue (split quoted : Bool) (f : Fields) (cs : Chars) : ShellM Fields := do
  if quoted || !split then return f.add quoted cs
  else return f.addSplit (← get).separators cs

/-- Whether a parameter counts as set. -/
def countsAsSet (emptyCounts : Bool) (value? : Option Chars) : Bool :=
  match value? with
  | none => false
  | some cs => !emptyCounts || !cs.isEmpty

/-- Whether a parameter may be put in: a demanding shell wants it to have a value. -/
def mayPutIn (s : Session) (name : Chars) : Bool :=
  !s.demanding || name = ['@'] || name = ['*'] || (s.value? name).isSome

/-- The text of fields that were not split. -/
def joined (f : Fields) : Chars := Chars.join [' '] (f.all.map Mark.text)

/-- Gives a variable a value, unless it is one that keeps its own. -/
def setVariable (name value : Chars) : ExpandM Unit := do
  if (← get).constants.contains name then throw (.constant name)
  else modify fun s => s.assign name value

/-- How the parts of a word are added to fields. -/
structure Manner where
  /-- Whether values are split. -/
  split : Bool
  /-- Whether the word is inside another one, where its text is split like a value. -/
  inner : Bool

/-- Adds the parts of a word to fields. Words inside words are at most `fuel` deep. -/
def addParts (putIn : PutIn) (manner : Manner) : Nat → Fields → Word → ExpandM Fields
  | 0, _, _ => throw .substitution
  | fuel + 1, f, w =>
    w.foldlM (m := ExpandM) (fun f part => do
      let split := manner.split
      match part with
      | .text cs quoted =>
        if manner.inner then addValue split quoted f cs else return f.add quoted cs
      | .command script quoted => addValue split quoted f (← putIn script)
      | .arithmetic expression quoted =>
        let inner ← wordOf true expression
        let text := joined (← addParts putIn ⟨false, true⟩ fuel .start inner)
        let s ← get
        match Arithmetic.value (fun name => (s.variableValue? name).getD []) text with
        | .ok (n, changes) =>
          for (name, n) in changes do
            setVariable name (Chars.ofInt n.toInt)
          addValue split quoted f (Chars.ofInt n.toInt)
        | .error fault => throw (.calculation fault text)
      | .parameter name form quoted =>
        let value? := (← get).value? name
        let usable := mayPutIn (← get) name
        match form with
        | .plain =>
          if !usable then throw (.unset name)
          else if split ∧ (name = ['@'] ∨ (name = ['*'] ∧ ¬ quoted)) then
            let separators := (← get).separators
            let addOne (f : Fields) (cs : Chars) : Fields :=
              if quoted then f.add quoted cs else f.addSplit separators cs
            return Fields.addMany addOne f (← get).arguments
          else addValue split quoted f (value?.getD [])
        | .length =>
          if usable then addValue split quoted f (Chars.ofNat (value?.getD []).length)
          else throw (.unset name)
        | .orElse empty word =>
          if countsAsSet empty value? then
            addParts putIn ⟨split, true⟩ fuel f [.parameter name .plain quoted]
          else addParts putIn ⟨split, true⟩ fuel f (← wordOf quoted word)
        | .instead empty word =>
          if countsAsSet empty value? then
            addParts putIn ⟨split, true⟩ fuel f (← wordOf quoted word)
          else return f
        | .orAssign empty word =>
          if countsAsSet empty value? then
            addParts putIn ⟨split, true⟩ fuel f [.parameter name .plain quoted]
          else
            let cs := joined (← addParts putIn ⟨false, true⟩ fuel .start (← wordOf quoted word))
            setVariable name cs
            addValue split quoted f cs
        | .orFail empty word =>
          if countsAsSet empty value? then
            addParts putIn ⟨split, true⟩ fuel f [.parameter name .plain quoted]
          else
            let reason := joined (← addParts putIn ⟨false, true⟩ fuel .start (← wordOf quoted word))
            throw (if reason.isEmpty then (if empty then .unsetOrEmpty name else .unset name)
              else .needed name reason)
        | .without atEnd longest word =>
          if !usable then throw (.unset name)
          else
            let pattern ← addParts putIn ⟨false, true⟩ fuel .start (← wordOf false word)
            addValue split quoted f
              (Pattern.strip atEnd longest pattern.all.flatten (value?.getD []))) f
where
  /-- The word that a text inside another word writes. -/
  wordOf (quoted : Bool) (cs : Chars) : ExpandM Word :=
    match Word.ofText quoted cs with
    | some w => pure w
    | none => throw .substitution

/-- How deep words may lie inside words. -/
def wordDepth : Nat := 50

/-! ## Files that a field matches -/

/-- A field cut at its slashes. -/
def segmentsOf (field : List Mark) : List (List Mark) :=
  field.foldr (fun m segs =>
    if m.char = '/' then [] :: segs
    else match segs with
      | [] => [[m]]
      | seg :: segs => (m :: seg) :: segs) [[]]

/-- The paths that a field matches, where `found` are those that its first segments match. -/
def matchSegments (tree : FileTree) (v : Viewpoint) : List Chars → List (List Mark) → List Chars
  | found, [] => found
  | found, seg :: segs =>
    let last := segs.isEmpty
    let go (path : Chars) : Chars := if last then path else path ++ ['/']
    if Pattern.isPattern seg then
      let extended := found.flatMap fun base =>
        let directory : Chars := if base.isEmpty then ['.'] else base
        match tree.list v ⟨Chars.bytes directory⟩ with
        | .error _ => []
        | .ok files =>
          let names := ['.'] :: ['.', '.'] :: files.map fun f => Chars.ofBytes f.name
          (names.filter fun name =>
            Pattern.fits seg name && (name.head? ≠ some '.' || (seg.head?.map (·.char)) = some '.')
              && (last || tree.isDirAt v ⟨Chars.bytes (base ++ name)⟩)).map
            fun name => go (base ++ name)
      matchSegments tree v extended segs
    else
      let extended := found.map fun base => go (base ++ Mark.text seg)
      matchSegments tree v extended segs

/-- The texts of a field: the files it matches, or itself where it matches none. Names that were
found in a directory are there. -/
def matched (tree : FileTree) (v : Viewpoint) (field : List Mark) : List Chars :=
  if Pattern.isPattern field then
    let isFound := (segmentsOf field).getLast?.any Pattern.isPattern
    let paths := (matchSegments tree v [[]] (segmentsOf field)).filter fun p =>
      isFound || match tree.linkStatAt v ⟨Chars.bytes p⟩ with
        | .ok _ => true
        | .error _ => false
    if paths.isEmpty then [Mark.text field] else paths
  else [Mark.text field]

/-! ## Words -/

/-- The fields of words. -/
def fieldsOf (putIn : PutIn) (words : List Word) : ExpandM (List Chars) := do
  let fields ← words.mapM fun w => do
    return (← addParts putIn ⟨true, false⟩ wordDepth .start w).all
  let s ← get
  let host ← (MonadState.get : HostM Host)
  return if s.literal then fields.flatten.map Mark.text
    else fields.flatten.flatMap (matched host.tree s.view)

/-- The text of a word that is not split. -/
def textOf (putIn : PutIn) (w : Word) : ExpandM Chars := do
  return joined (← addParts putIn ⟨false, false⟩ wordDepth .start w)

/-- A word as a pattern. -/
def patternOf (putIn : PutIn) (w : Word) : ExpandM (List Mark) := do
  return (← addParts putIn ⟨false, false⟩ wordDepth .start w).all.flatten

end Container.Shell
