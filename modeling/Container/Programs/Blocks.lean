import Container.Programs.Files

set_option autoImplicit false

/-!
# Copying by blocks

## Main definitions

* `Blocks.Job` — what is to be copied, in how large blocks.
* `dd` — the program.
-/

namespace Container.Programs

namespace Blocks

/-- What is to be copied: from where, to where, in blocks of how many bytes to read and to write,
how many of them, and how many are passed over first. -/
structure Job where
  source? : Option Chars
  target? : Option Chars
  read : Nat
  written : Nat
  count? : Option Nat
  skipped : Nat
  sought : Nat
  conversions : List String
  status : String

/-- The job that nothing is said about. -/
def Job.start : Job := ⟨none, none, 512, 512, none, 0, 0, [], ""⟩

/-- A number of bytes or blocks, of which several may be multiplied. -/
def amount? (cs : Chars) : Option Nat :=
  (cs.splitOn 'x').foldlM (fun n factor =>
    let (digits, unit) := factor.span Char.isDigit
    let scaled (k : Nat) : Option Nat := (Chars.toNat? digits).map (n * k * ·)
    match String.ofList unit with
    | "" | "c" => scaled 1
    | "w" => scaled 2
    | "b" => scaled 512
    | "k" | "K" | "KiB" => scaled 1024
    | "kB" | "KB" => scaled 1000
    | "M" | "MiB" => scaled (1024 * 1024)
    | "MB" => scaled (1000 * 1000)
    | "G" => scaled (1024 * 1024 * 1024)
    | _ => none) 1

/-- The words for a conversion that there is. -/
def knownConversions : List String :=
  ["notrunc", "ucase", "lcase", "sync", "noerror", "fsync", "fdatasync", "swab", "excl", "nocreat"]

/-- A job with what one operand says about it, or what is wrong with the operand. -/
def Job.with (job : Job) (operand : Chars) : Except Chars Job := do
  let (name, value) := operand.span (· ≠ '=')
  let value := value.drop 1
  let number : Except Chars Nat := match amount? value with
    | some n => return n
    | none => throw (chars "invalid number: " ++ named value)
  let size : Except Chars Nat := do
    let n ← number
    if n = 0 then throw (chars "invalid number: " ++ named value) else return n
  match String.ofList name with
  | "if" => return { job with source? := some value }
  | "of" => return { job with target? := some value }
  | "bs" => return { job with read := ← size, written := ← size }
  | "ibs" => return { job with read := ← size }
  | "obs" => return { job with written := ← size }
  | "count" => return { job with count? := some (← number) }
  | "skip" | "iseek" => return { job with skipped := ← number }
  | "seek" | "oseek" => return { job with sought := ← number }
  | "iflag" | "oflag" | "cbs" => return job
  | "status" => return { job with status := String.ofList value }
  | "conv" =>
    let words := (value.splitOn ',').map String.ofList
    match words.find? (!knownConversions.contains ·) with
    | some word => throw (chars ("invalid conversion: ") ++ named word.toList)
    | none => return { job with conversions := job.conversions ++ words }
  | _ => throw (chars "unrecognized operand " ++ named operand)

/-- A byte as the job converts it. -/
def Job.convert (job : Job) (b : UInt8) : UInt8 :=
  let c := Char.ofNat b.toNat
  if job.conversions.contains "ucase" then UInt8.ofNat c.toUpper.toNat
  else if job.conversions.contains "lcase" then UInt8.ofNat c.toLower.toNat
  else b

/-- The part of a content that the job copies. -/
def Job.part (job : Job) (content : Bytes) : Bytes :=
  let rest := content.drop (job.skipped * job.read)
  (match job.count? with
    | some n => rest.take (n * job.read)
    | none => rest).map job.convert

/-- A content in which bytes are put over those from a place on. What is after them goes, unless
`kept` is set. -/
def overlaid (kept : Bool) (old : Bytes) (place : Nat) (new : Bytes) : Bytes :=
  old.take place ++ List.replicate (place - old.length) 0 ++ new ++
    if kept then old.drop (place + new.length) else []

/-- How many blocks some bytes are: whole ones, and one that is not. -/
def blocksIn (size n : Nat) : Chars :=
  Chars.ofNat (n / size) ++ '+' :: Chars.ofNat (if n % size = 0 then 0 else 1)

/-- What is said at the end about what was copied. -/
def Job.report (job : Job) (n : Nat) : Chars :=
  if job.status = "none" then []
  else
    blocksIn job.read n ++ chars " records in\n" ++ blocksIn job.written n ++
      chars " records out\n" ++
      if job.status = "noxfer" then []
      else Chars.ofNat n ++ chars " bytes copied, 0 s, 0 B/s\n"

/-- The content that a job reads. Of a file without an end it is as much as the job needs. -/
def Job.content (job : Job) (inv : Invocation) : HostM (Except Errno Bytes) := do
  match job.source? with
  | none => return .ok (← input inv)
  | some source =>
    match (← get).tree.statAt inv.view (path source) with
    | .ok ⟨_, _, _, .zeros⟩ =>
      return .ok (List.replicate
        ((job.count?.map (· + job.skipped)).getD (FileTree.endlessSupply / job.read) * job.read) 0)
    | .ok f => if f.isDir then return .ok [] else contentOf inv source
    | .error _ => contentOf inv source

/-- Writes what a job copies. -/
def Job.deliver (job : Job) (inv : Invocation) (new : Bytes) : HostM (Except Errno Unit) := do
  match job.target? with
  | none =>
    Host.write (inv.stream 1) new
    return .ok ()
  | some target =>
    match descriptorOf? target with
    | some fd =>
      Host.write (inv.stream fd) new
      return .ok ()
    | none =>
      match ← Host.openOutput inv.view (path target) false with
      | .error e => return .error e
      | .ok stream =>
        if let .file inode := stream then
          modify fun host => { host with
            tree := host.tree.update inode fun f => match f.kind with
              | .regular old => { f with
                  kind := .regular (overlaid (job.conversions.contains "notrunc") old
                    (job.sought * job.written) new) }
              | _ => f }
        return .ok ()

end Blocks

/-- Copies by blocks. -/
def dd : Body := fun inv => do
  let operands := match inv.arguments.drop 1 with
    | ['-', '-'] :: operands => operands
    | operands => operands
  match operands.foldlM Blocks.Job.with .start with
  | .error what =>
    if what.head? = some 'u' then complainOfUse inv what
    else complain inv (chars "dd: " ++ what ++ ['\n'])
    return 1
  | .ok job =>
    let failed (name : Chars) (e : Errno) : HostM Nat := do
      complainOf inv "failed to open" name e
      return 1
    match ← job.content inv with
    | .error e => failed (job.source?.getD []) e
    | .ok content =>
      let new := job.part content
      match ← job.deliver inv new with
      | .error e => failed (job.target?.getD []) e
      | .ok () =>
        complain inv (job.report new.length)
        return 0

end Container.Programs
