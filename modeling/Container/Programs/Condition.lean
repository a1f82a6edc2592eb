import Container.Programs.Basic

set_option autoImplicit false

/-!
# Conditions on files and texts

The conditions that a shell script tests: what a path leads to, how texts and numbers compare,
and these joined by and, or and not.

## Main definitions

* `Condition.holds?` — whether a condition holds, if it makes sense.
-/

namespace Container.Programs.Condition

/-- What a condition asks of a path. -/
def ofFile? (host : Host) (v : Viewpoint) (letter : Char) (operand : Chars) : Option Bool :=
  let at_ := host.tree.statAt v (path operand)
  let kind (test : File → Bool) : Bool := match at_ with
    | .ok f => test f
    | .error _ => false
  match letter with
  | 'e' => some (kind fun _ => true)
  | 'f' => some (kind fun f => match f.kind with | .regular _ | .program _ => true | _ => false)
  | 'd' => some (kind File.isDir)
  | 's' => some (kind fun f => match f.kind with
      | .regular content => !content.isEmpty
      | .directory | .program _ => true
      | _ => false)
  | 'r' => some (kind (·.permits .read))
  | 'w' => some (kind (·.permits .write))
  | 'x' => some (kind (·.permits .run))
  | 'S' => some (kind fun f => f.kind == .socket)
  | 'h' | 'L' => match host.tree.linkStatAt v (path operand) with
    | .ok f => some (match f.kind with | .link _ => true | _ => false)
    | .error _ => some false
  | 'p' => some (kind fun f => f.kind == .pipe)
  | 'c' => some (kind fun f => f.kind == .nothing || f.kind == .zeros)
  | 'g' => some (kind fun f => f.mode / 0o2000 % 2 = 1)
  | 'u' => some (kind fun f => f.mode / 0o4000 % 2 = 1)
  | 'k' => some (kind fun f => f.mode / 0o1000 % 2 = 1)
  | 'O' | 'G' => some (kind fun _ => true)
  | 'b' | 't' => some false
  | _ => none

/-- What a condition asks of one operand. -/
def unary? (host : Host) (v : Viewpoint) (op operand : Chars) : Option Bool :=
  match op with
  | ['-', 'n'] => some (!operand.isEmpty)
  | ['-', 'z'] => some operand.isEmpty
  | ['-', letter] => ofFile? host v letter operand
  | _ => none

/-- Whether one text comes before another. -/
def comesBefore (a b : Chars) : Bool := FileTree.nameLE (Chars.bytes a) (Chars.bytes b) && a != b

/-- What a condition asks of two operands. -/
def binary? (a op b : Chars) : Option Bool :=
  let numbers (test : Int → Int → Bool) : Option Bool := do
    return test (← Chars.toInt? a) (← Chars.toInt? b)
  match String.ofList op with
  | "=" | "==" => some (a = b)
  | "!=" => some (a ≠ b)
  | "<" => some (comesBefore a b)
  | ">" => some (comesBefore b a)
  | "-eq" => numbers fun a b => a = b
  | "-ne" => numbers fun a b => a ≠ b
  | "-lt" => numbers fun a b => a < b
  | "-le" => numbers fun a b => a ≤ b
  | "-gt" => numbers fun a b => b < a
  | "-ge" => numbers fun a b => b ≤ a
  | _ => none

/-- Whether a text is an operator on two operands. -/
def isBinary (op : Chars) : Bool :=
  ["=", "==", "!=", "<", ">", "-eq", "-ne", "-lt", "-le", "-gt", "-ge"].contains (String.ofList op)

mutual

/-- The value of conditions joined by or, and what follows them. -/
def anyOf (host : Host) (v : Viewpoint) : Nat → List Chars → Option (Bool × List Chars)
  | 0, _ => none
  | fuel + 1, tokens => do
    let (a, rest) ← allOf host v fuel tokens
    match rest with
    | ['-', 'o'] :: rest =>
      let (b, rest) ← anyOf host v fuel rest
      return (a || b, rest)
    | rest => return (a, rest)

/-- The value of conditions joined by and, and what follows them. -/
def allOf (host : Host) (v : Viewpoint) : Nat → List Chars → Option (Bool × List Chars)
  | 0, _ => none
  | fuel + 1, tokens => do
    let (a, rest) ← single host v fuel tokens
    match rest with
    | ['-', 'a'] :: rest =>
      let (b, rest) ← allOf host v fuel rest
      return (a && b, rest)
    | rest => return (a, rest)

/-- The value of one condition, and what follows it. -/
def single (host : Host) (v : Viewpoint) : Nat → List Chars → Option (Bool × List Chars)
  | 0, _ => none
  | fuel + 1, tokens =>
    match tokens with
    | [] => none
    | ['!'] :: rest => (single host v fuel rest).map fun (b, rest) => (!b, rest)
    | ['('] :: rest => do
      let (b, rest) ← anyOf host v fuel rest
      match rest with
      | [')'] :: rest => return (b, rest)
      | _ => none
    | a :: op :: b :: rest =>
      if isBinary op then (binary? a op b).map fun value => (value, rest)
      else unaryOrText host v a (op :: b :: rest)
    | a :: rest => unaryOrText host v a rest

/-- The value of an operator on one operand, or of a text by itself. -/
def unaryOrText (host : Host) (v : Viewpoint) (a : Chars) (rest : List Chars) :
    Option (Bool × List Chars) :=
  match rest with
  | operand :: rest =>
    match unary? host v a operand with
    | some value => some (value, rest)
    | none => some (!a.isEmpty, operand :: rest)
  | [] => some (!a.isEmpty, [])

end

/-- Whether a condition holds, if it makes sense. How few words it has decides what they mean. -/
def holds? (host : Host) (v : Viewpoint) (words : List Chars) : Option Bool :=
  match words with
  | [] => some false
  | [a] => some (!a.isEmpty)
  | [['!'], a] => some a.isEmpty
  | [op, a] => unary? host v op a
  | [['!'], op, a] =>
    if isBinary op then binary? ['!'] op a else (unary? host v op a).map (!·)
  | words =>
    match anyOf host v (4 * words.length + 4) words with
    | some (b, []) => some b
    | _ => none

/-- The exit code for a condition. -/
def exitCode : Option Bool → Nat
  | some true => 0
  | some false => 1
  | none => 2

end Container.Programs.Condition
