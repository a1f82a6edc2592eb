import Container.Host.FileTree

set_option autoImplicit false

/-!
# Where a path leads

A path is followed name by name. Links on the way are followed too, up to a limit; a link at
its end only where that is asked for, or where the path goes on with a slash.

## Main definitions

* `Followed` — the directory a path leads to and its last step there.
* `FileTree.follow` — follows all but the last step of a path.
* `FileTree.resolve` — follows a path to its end.
-/

namespace Container

/-- The last step of a path. -/
inductive LastStep where
  | name (n : Bytes)
  | current
  | parent
  | root
  deriving DecidableEq

/-- Where a path leads but for its last step, and whether a slash follows that. -/
structure Followed where
  directory : Location
  last : LastStep
  slash : Bool

/-- Where a path leads: to a file, or to a name that is free in a directory. -/
inductive Resolved where
  | file (f : File)
  | free (location : Location) (slash : Bool)

namespace FileTree

/-- How many links may be followed for one path. -/
def linkLimit : Nat := 40

/-- The greatest length of a path. -/
def pathLimit : Nat := 4095

/-- The greatest length of a name. -/
def nameLimit : Nat := 255

/-- The steps of a path. -/
def stepsOf (bs : Bytes) : List Bytes := (Path.segments bs).filter (· ≠ [])

/-- Whether a path ends in a slash. -/
def endsInSlash (bs : Bytes) : Bool := bs.getLast? == some Path.slash

/-- Where a path starts: at the root, or in the working directory. -/
def startOf (root cwd : Location) (bs : Bytes) : Location :=
  if bs.head? = some Path.slash then root else cwd

/-- The directory above one, which the root has none of. -/
def above (root location : Location) : Location :=
  if location = root then root else location.dropLast

/-- Follows steps from a directory, all but the last, while `links` more links may be
followed. Every directory that a step is taken in has to let it. -/
def followSteps (tree : FileTree) (root : Location) (links : Nat) (directory : Location)
    (slash : Bool) : List Bytes → Except Errno Followed
  | [] => .ok ⟨directory, .root, slash⟩
  | [step] => do
    tree.require directory .run
    if step = [Path.dot] then .ok ⟨directory, .current, slash⟩
    else if step = [Path.dot, Path.dot] then .ok ⟨directory, .parent, slash⟩
    else if nameLimit < step.length then .error .nameTooLong
    else .ok ⟨directory, .name step, slash⟩
  | step :: next :: steps => do
    tree.require directory .run
    if step = [Path.dot] then followSteps tree root links directory slash (next :: steps)
    else if step = [Path.dot, Path.dot] then
      followSteps tree root links (above root directory) slash (next :: steps)
    else if nameLimit < step.length then .error .nameTooLong
    else
      match tree.find? (directory ++ [step]) with
      | none => .error .notFound
      | some f =>
        match f.kind with
        | .directory => followSteps tree root links f.location slash (next :: steps)
        | .link target =>
          match links with
          | 0 => .error .tooManyLinks
          | links + 1 =>
            if target = [] then .error .notFound
            else
              followSteps tree root links (startOf root directory target) slash
                (stepsOf target ++ next :: steps)
        | _ => .error .notDirectory
termination_by steps => (links, steps.length)

/-- Follows all but the last step of a path. -/
def follow (tree : FileTree) (root cwd : Location) (bs : Bytes) : Except Errno Followed :=
  if bs = [] then .error .notFound
  else if pathLimit < bs.length then .error .nameTooLong
  else followSteps tree root linkLimit (startOf root cwd bs) (endsInSlash bs) (stepsOf bs)

/-- The file at a location that is known to be there. -/
def fileAt (tree : FileTree) (location : Location) : Except Errno Resolved :=
  match tree.find? location with
  | some f => .ok (.file f)
  | none => .error .notFound

/-- Takes the last step of a path, while `links` more links may be followed. A link there is
followed if `through` says so. -/
def lastStep (tree : FileTree) (root : Location) (through : Bool) :
    Nat → Followed → Except Errno Resolved
  | links, ⟨directory, last, slash⟩ =>
    match last with
    | .root | .current => tree.fileAt directory
    | .parent => tree.fileAt (above root directory)
    | .name n =>
      match tree.find? (directory ++ [n]) with
      | none =>
        if (tree.find? directory).isSome then .ok (.free (directory ++ [n]) slash)
        else .error .notFound
      | some f =>
        match f.kind with
        | .directory => .ok (.file f)
        | .link target =>
          if through || slash then
            match links with
            | 0 => .error .tooManyLinks
            | links + 1 =>
              if target = [] then .error .notFound
              else do
                let followed ← followSteps tree root links (startOf root directory target)
                  (slash || endsInSlash target) (stepsOf target)
                lastStep tree root through links followed
          else .ok (.file f)
        | _ => if slash then .error .notDirectory else .ok (.file f)

/-- Follows a path to its end. -/
def resolve (tree : FileTree) (root cwd : Location) (through : Bool) (bs : Bytes) :
    Except Errno Resolved := do
  let followed ← tree.follow root cwd bs
  tree.lastStep root through linkLimit followed

/-- The file a path leads to. -/
def lookup (tree : FileTree) (root cwd : Location) (through : Bool) (bs : Bytes) :
    Except Errno File := do
  match ← tree.resolve root cwd through bs with
  | .file f => return f
  | .free .. => throw .notFound

end FileTree
end Container
