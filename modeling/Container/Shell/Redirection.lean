import Container.Shell.Builtin

set_option autoImplicit false

/-!
# Redirections

The descriptors of a command can be made to lead to files, to one another, or to texts in the
script.

## Main definitions

* `redirectAll` — makes redirections.
* `withRedirects` — runs something with redirections.
-/

namespace Container.Shell

/-- What is said about a redirection that failed. -/
def failing (kind : Redirection) (target : Chars) (e : Errno) : Chars :=
  let isMissing : Bool := e = .notFound || e = .notDirectory
  let (deed, missing) := match kind with
    | .input => ("cannot open ", "No such file")
    | .duplicate => ("", "not found")
    | _ => ("cannot create ", "Directory nonexistent")
  Programs.chars deed ++ target ++ Programs.chars ": " ++
    if isMissing then Programs.chars missing else Programs.wordingOf e

/-- Whether a file may not be written over because the shell is careful not to. -/
def isKept (host : Host) (s : Session) (p : Path) : Bool :=
  s.options.contains 'C' && match host.tree.statAt s.view p with
    | .ok f => match f.kind with
      | .regular _ => true
      | _ => false
    | .error _ => false

/-- What a redirection leads to. -/
def opened (kind : Redirection) (target : Chars) : ShellM (Except Errno Stream) := do
  let s ← get
  let p : Path := ⟨Chars.bytes target⟩
  let descriptor (fd : Nat) : Except Errno Stream :=
    match s.streams.lookup fd with
    | some stream => .ok stream
    | none => .error .badDescriptor
  match kind, Programs.descriptorOf? target with
  | .input, some fd | .output, some fd | .replacing, some fd | .appending, some fd
  | .both, some fd => return (descriptor fd).mapError fun _ => .notFound
  | .input, none => Host.openInput s.view p
  | .output, none =>
    if isKept (← (MonadState.get : HostM Host)) s p then return .error .alreadyExists
    else Host.openOutput s.view p true
  | .replacing, none => Host.openOutput s.view p true
  | .appending, none | .both, none => Host.openOutput s.view p false
  | .written, _ => return .ok (← Host.newPipe (Chars.bytes target))
  | .duplicate, _ =>
    match Chars.toNat? target with
    | some fd => return descriptor fd
    | none => return .error .badDescriptor

/-- Makes the redirections of a command. The answer is whether they could be made. -/
def redirectAll (putIn : PutIn) : List Redirect → ExpandM Bool
  | [] => return true
  | r :: rest => do
    let target ← textOf putIn r.target
    if r.kind = .duplicate ∧ target = ['-'] then
      modify fun s => { s with streams := s.streams.filter (·.1 ≠ r.fd) }
      redirectAll putIn rest
    else if r.kind = .duplicate ∧ (Chars.toNat? target).isNone then throw .descriptor
    else
      match ← opened r.kind target with
      | .ok stream =>
        modify fun s => s.redirect r.fd stream
        redirectAll putIn rest
      | .error e =>
        complain "" (failing r.kind target e)
        return false

/-- Runs something with redirections, which end with it unless `lasting` says otherwise. Where
they cannot be made, `otherwise` says what happens. -/
def withRedirectsOr (otherwise : ShellM Flow) (putIn : PutIn) (redirects : List Redirect)
    (lasting : Bool) (act : ShellM Flow) : ShellM Flow := do
  let before := (← get).streams
  match ← (redirectAll putIn redirects).run with
  | .ok true =>
    let flow ← act
    if !lasting then modify fun s => { s with streams := before }
    return flow
  | .ok false =>
    modify fun s => { s with streams := before }
    otherwise
  | .error fault =>
    modify fun s => { s with streams := before }
    giveUpFor fault

/-- Runs something with redirections. Where they cannot be made it is not run, and that counts as
its failing. -/
def withRedirects (putIn : PutIn) (redirects : List Redirect) (lasting : Bool)
    (act : ShellM Flow) : ShellM Flow :=
  withRedirectsOr (finish 2) putIn redirects lasting act

end Container.Shell
