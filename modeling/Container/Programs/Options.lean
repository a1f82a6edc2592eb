import Container.Programs.Basic

set_option autoImplicit false

/-!
# Options of programs

Most programs take options by letters, several of which may follow one hyphen, and operands
anywhere between them. Some letters take a value: the rest of their argument, or the argument
after it.

## Main definitions

* `Usage` — the letters that a program knows.
* `Options` — what the arguments of a program come to.
* `Usage.read` — reads arguments.
* `withOptions` — what a program does with its options, if it knows them all.
-/

namespace Container.Programs

/-- The letters that a program knows. A colon after a letter says that it takes a value. -/
structure Usage where
  text : String

/-- Whether a program knows a letter. -/
def Usage.knows (u : Usage) (c : Char) : Bool := c ≠ ':' && u.text.toList.contains c

/-- Whether a letter takes a value. -/
def Usage.takesValue (u : Usage) (c : Char) : Bool :=
  (u.text.toList.dropWhile (· ≠ c)).drop 1 |>.head? |> (· == some ':')

/-- What the arguments of a program come to: letters, values of letters, the last first, and
operands. The fault is a complaint about the first option that cannot be used. -/
structure Options where
  letters : Chars
  values : List (Char × Chars)
  operands : List Chars
  fault? : Option Chars

namespace Options

/-- No options. -/
def start : Options := ⟨[], [], [], none⟩

/-- Options with a fault, unless there was one before. -/
def refuse (o : Options) (fault : Chars) : Options :=
  match o.fault? with
  | some _ => o
  | none => { o with fault? := some fault }

/-- Whether a letter was given. -/
def has (o : Options) (c : Char) : Bool := o.letters.contains c

/-- Whether one of some letters was given. -/
def hasAny (o : Options) (cs : String) : Bool := cs.toList.any o.has

/-- The value that was given last with a letter. -/
def value? (o : Options) (c : Char) : Option Chars := o.values.lookup c

/-- All values that were given with a letter, in order. -/
def valuesOf (o : Options) (c : Char) : List Chars :=
  (o.values.filter (·.1 = c)).reverse.map (·.2)

end Options

/-- The letters for options that are spelled out. One name may stand for different letters in
different programs. -/
def spelledOut : List (String × Char) := [
  ("all", 'a'), ("almost-all", 'A'), ("append", 'a'), ("archive", 'a'), ("basic-regexp", 'G'),
  ("after-context", 'A'), ("before-context", 'B'), ("body-numbering", 'b'), ("brief", 'q'),
  ("bytes", 'c'), ("canonicalize", 'f'), ("canonicalize-existing", 'e'),
  ("canonicalize-missing", 'm'), ("chars", 'm'), ("characters", 'c'), ("check", 'c'),
  ("check-chars", 'w'), ("classify", 'F'), ("complement", 'C'), ("context", 'C'), ("count", 'c'),
  ("date", 'd'),
  ("decode", 'd'), ("delete", 'd'), ("delimiter", 'd'), ("delimiters", 'd'), ("dereference", 'L'),
  ("dictionary-order", 'd'), ("dir", 'd'), ("directory", 'd'), ("equal-width", 'w'),
  ("expression", 'e'), ("extended-regexp", 'E'), ("field-separator", 't'), ("fields", 'f'),
  ("file", 'f'), ("files-with-matches", 'l'), ("files-without-match", 'L'), ("fixed-strings", 'F'),
  ("force", 'f'), ("format", 'c'), ("format", 'f'), ("general-numeric-sort", 'g'), ("group", 'g'),
  ("groups", 'G'), ("human-numeric-sort", 'h'), ("human-readable", 'h'),
  ("ignore-blank-lines", 'B'), ("ignore-all-space", 'w'), ("ignore-case", 'i'),
  ("ignore-case", 'f'), ("ignore-fail-on-non-empty", 'I'), ("ignore-garbage", 'i'),
  ("ignore-leading-blanks", 'b'), ("ignore-space-change", 'b'), ("in-place", 'i'), ("inode", 'i'),
  ("invert-match", 'v'), ("key", 'k'), ("kernel-name", 's'), ("label", 'L'), ("line-number", 'n'),
  ("line-numbering", 'l'), ("line-regexp", 'x'), ("lines", 'n'), ("lines", 'l'), ("machine", 'm'),
  ("max-args", 'n'), ("max-count", 'm'), ("max-line-length", 'L'), ("mode", 'm'),
  ("multiple", 'a'), ("name", 'n'), ("no-clobber", 'n'), ("no-create", 'c'),
  ("no-dereference", 'P'), ("no-dereference", 'n'), ("no-filename", 'h'), ("no-messages", 's'),
  ("no-newline", 'n'), ("no-run-if-empty", 'r'), ("no-symlinks", 's'),
  ("no-target-directory", 'T'), ("null", '0'), ("null-data", 'z'), ("number", 'n'),
  ("number-nonblank", 'b'), ("numeric-sort", 'n'), ("numeric-uid-gid", 'n'),
  ("only-delimited", 's'), ("only-matching", 'o'), ("operating-system", 'o'), ("output", 'o'),
  ("output-delimiter", 'O'), ("parents", 'p'), ("preserve", 'p'), ("printf", 'P'), ("quiet", 'q'),
  ("quiet", 'n'), ("quiet", 's'), ("quote-name", 'Q'), ("real", 'r'), ("recursive", 'r'),
  ("recursive", 'R'), ("regexp", 'e'), ("regexp-extended", 'E'), ("relative-to", 'o'),
  ("repeated", 'd'), ("replace", 'I'), ("reverse", 'r'), ("separate", 's'), ("separator", 's'),
  ("serial", 's'), ("show-all", 'A'), ("show-ends", 'E'), ("show-nonprinting", 'v'),
  ("show-tabs", 'T'), ("silent", 'q'), ("silent", 's'), ("silent", 'n'), ("size", 's'),
  ("skip-chars", 's'), ("skip-fields", 'f'), ("spaces", 's'), ("squeeze-blank", 's'),
  ("squeeze-repeats", 's'), ("stable", 's'), ("suffix", 's'), ("symbolic", 's'),
  ("target-directory", 't'), ("text", 'a'), ("truncate-set1", 't'), ("unified", 'U'),
  ("unique", 'u'), ("update", 'u'), ("user", 'u'), ("verbose", 'v'), ("version-sort", 'V'),
  ("width", 'w'), ("with-filename", 'H'), ("word-regexp", 'w'), ("words", 'w'), ("wrap", 'w'),
  ("zero", 'z'), ("zero-terminated", 'z')]

namespace Usage

/-- Reads the letters of one argument, and the next arguments as far as they are needed. -/
def readLetters (u : Usage) (o : Options) : Chars → List Chars → Options × List Chars
  | [], rest => (o, rest)
  | c :: cs, rest =>
    if !u.knows c then
      (o.refuse (chars "invalid option -- " ++ named [c]), rest)
    else if u.takesValue c then
      match cs, rest with
      | [], [] => (o.refuse (chars "option requires an argument -- " ++ named [c]), [])
      | [], value :: rest => ({ o with values := (c, value) :: o.values }, rest)
      | value, rest => ({ o with values := (c, value) :: o.values }, rest)
    else readLetters u { o with letters := o.letters ++ [c] } cs rest

/-- Reads an option that is spelled out. One that asks for colours asks for nothing here. -/
def readSpelled (u : Usage) (o : Options) (argument : Chars) (rest : List Chars) :
    Options × List Chars :=
  let (name, value) := argument.span (· ≠ '=')
  if name = chars "color" then (o, rest) else
  let spelled := spelledOut.filter fun (word, c) => word.toList = name && u.knows c
  match spelled.head?.map (·.2), value with
  | none, _ => (o.refuse (chars "unrecognized option " ++ named ('-' :: '-' :: argument)), rest)
  | some c, [] => u.readLetters o [c] rest
  | some c, _ :: value => u.readLetters o (c :: value) rest

/-- Reads arguments, at most `fuel` of them. Where operands are not mixed with options, the first
of them ends the options. -/
def readWithin (u : Usage) (mixed : Bool) : Nat → Options → List Chars → Options
  | 0, o, arguments => { o with operands := o.operands ++ arguments }
  | _, o, [] => o
  | fuel + 1, o, argument :: rest =>
    match argument with
    | ['-', '-'] => { o with operands := o.operands ++ rest }
    | '-' :: '-' :: name =>
      let (o, rest) := u.readSpelled o name rest
      u.readWithin mixed fuel o rest
    | '-' :: c :: cs =>
      let (o, rest) := u.readLetters o (c :: cs) rest
      u.readWithin mixed fuel o rest
    | operand =>
      if mixed then u.readWithin mixed fuel { o with operands := o.operands ++ [operand] } rest
      else { o with operands := o.operands ++ operand :: rest }

/-- Reads arguments. -/
def read (u : Usage) (mixed : Bool) (arguments : List Chars) : Options :=
  u.readWithin mixed (arguments.length + 1) .start arguments

end Usage

/-- What a program does with its options and operands. If it does not know an option, it complains
and ends with a code for that. -/
def withOptions (usage : String) (misuse : Nat) (act : Invocation → Options → HostM Nat) : Body :=
  fun inv => do
    let o := (Usage.mk usage).read true (inv.arguments.drop 1)
    match o.fault? with
    | some fault =>
      complainOfUse inv fault
      return misuse
    | none => act inv o

end Container.Programs
