import Container.Shell.Token

set_option autoImplicit false

/-!
# Scripts

What a script says, once its tokens are put together: commands with their words, assignments
and redirections, and the constructions that say which of them run and how often.

## Main definitions

* `Script` — a script.
* `Script.read` — the commands of a script, line by line, up to the first that makes no sense.
-/

namespace Container.Shell

/-- A redirection with the word it goes to. -/
structure Redirect where
  fd : Nat
  kind : Redirection
  target : Word

/-- A script. -/
inductive Script where
  | simple (assignments : List (Chars × Word)) (words : List Word) (redirects : List Redirect)
  /-- Scripts joined so that each reads what the one before it writes. -/
  | pipeline (negated : Bool) (scripts : List Script)
  | both (first second : Script)
  | either (first second : Script)
  | sequence (scripts : List Script)
  | background (script : Script)
  /-- A script in a shell of its own. -/
  | nested (script : Script) (redirects : List Redirect)
  | group (script : Script) (redirects : List Redirect)
  | branch (condition consequence : Script) (alternative : Option Script)
      (redirects : List Redirect)
  | loop (untilHolds : Bool) (condition body : Script) (redirects : List Redirect)
  | each (name : Chars) (words : Option (List Word)) (body : Script) (redirects : List Redirect)
  | choice (word : Word) (cases : List (List Word × Script)) (redirects : List Redirect)
  | define (name : Chars) (body : Script)

namespace Script

instance : Inhabited Script := ⟨.sequence []⟩

/-- The unquoted text of a token. -/
def plain? : Token → Option String
  | .word w => w.plain?.map String.ofList
  | _ => none

/-- Words that begin or end a construction. -/
def reserved : List String :=
  ["if", "then", "else", "elif", "fi", "while", "until", "for", "do", "done", "case", "esac", "in",
    "\x7b", "\x7d", "!"]

/-- Words and marks that end a list of commands. -/
def endings : List String :=
  ["then", "else", "elif", "fi", "do", "done", "esac", "\x7d"]

/-- Tokens after ends of lines. -/
def skipLines (tokens : List Token) : List Token :=
  tokens.dropWhile (· = .mark "\n")

/-- Tokens after a word that has to be there. -/
def expect (word : String) : List Token → Option (List Token)
  | token :: tokens => if plain? token = some word then some tokens else none
  | [] => none

/-- An assignment that a word makes. -/
def assignment? (w : Word) : Option (Chars × Word) :=
  match w with
  | .text s false :: rest =>
    match s.span (· ≠ '=') with
    | (name, _ :: value) =>
      if Chars.isName name then
        some (name, withHomes true (if value.isEmpty then rest else .text value false :: rest))
      else none
    | _ => none
  | _ => none

/-- A redirection at the beginning of tokens. -/
def redirect? : List Token → Option (Redirect × List Token)
  | .redirect fd? kind :: .word w :: tokens =>
    let fd := fd?.getD (match kind with | .input | .both => 0 | _ => 1)
    some (⟨fd, kind, w⟩, tokens)
  | _ => none

/-- The redirections at the beginning of tokens, of which there are at most `fuel`. -/
def redirects : Nat → List Redirect → List Token → List Redirect × List Token
  | 0, found, tokens => (found, tokens)
  | fuel + 1, found, tokens =>
    match redirect? tokens with
    | some (r, tokens) => redirects fuel (found ++ [r]) tokens
    | none => (found, tokens)

/-- A simple command, of which the parts already read are given. -/
def readSimple : Nat → List (Chars × Word) → List Word → List Redirect → List Token →
    Option (Script × List Token)
  | 0, _, _, _, _ => none
  | fuel + 1, assignments, words, redirects, tokens =>
    match tokens with
    | .redirect .. :: _ =>
      match redirect? tokens with
      | some (r, tokens) => readSimple fuel assignments words (redirects ++ [r]) tokens
      | none => none
    | .word w :: rest =>
      match (if words.isEmpty then assignment? w else none) with
      | some a => readSimple fuel (assignments ++ [a]) words redirects rest
      | none => readSimple fuel assignments (words ++ [w]) redirects rest
    | _ =>
      if assignments.isEmpty ∧ words.isEmpty ∧ redirects.isEmpty then none
      else some (.simple assignments words redirects, tokens)

/-- Words up to the end of a line or of a command. -/
def readWords : List Word → List Token → List Word × List Token
  | words, .word w :: tokens => readWords (words ++ [w]) tokens
  | words, tokens => (words, tokens)

/-- The patterns of one case, up to the parenthesis that ends them. -/
def readPatterns : Nat → List Word → List Token → Option (List Word × List Token)
  | 0, _, _ => none
  | fuel + 1, patterns, tokens =>
    match tokens with
    | .word w :: .mark "|" :: tokens => readPatterns fuel (patterns ++ [w]) tokens
    | .word w :: .mark ")" :: tokens => some (patterns ++ [w], tokens)
    | _ => none

/-- Texts that stand for the first words of commands, by name. -/
abbrev Aliases := List (Chars × Chars)

/-- Tokens in which the first word of a command is replaced by what it is an alias for, and that
by what its own first word is an alias for, but not twice by the same. Where a text ends in a
blank, the word after it is replaced too. -/
def withAliases (aliases : Aliases) : Nat → List Chars → List Token → List Token
  | 0, _, tokens => tokens
  | fuel + 1, used, tokens =>
    match tokens with
    | .redirect fd? kind :: target :: rest =>
      .redirect fd? kind :: target :: withAliases aliases fuel used rest
    | .word w :: rest =>
      if (assignment? w).isSome then .word w :: withAliases aliases fuel used rest
      else
        match w.plain?.bind fun name => (aliases.lookup name).map (name, ·) with
        | none => tokens
        | some (name, value) =>
          if used.contains name then tokens
          else
            let rest := if value.getLast?.any Chars.isBlank then withAliases aliases fuel used rest
              else rest
            withAliases aliases fuel (name :: used) ((Token.scan value).1 ++ rest)
    | tokens => tokens

mutual

/-- Commands one after the other, up to what ends them, of which there is at least one. -/
def readBody (aliases : Aliases) : Nat → List Token → Option (Script × List Token)
  | 0, _ => none
  | fuel + 1, tokens =>
    match readList aliases fuel [] tokens with
    | some (.sequence [], _) => none
    | body? => body?

/-- Commands one after the other, up to what ends them. -/
def readList (aliases : Aliases) : Nat → List Script → List Token → Option (Script × List Token)
  | 0, _, _ => none
  | fuel + 1, found, tokens =>
    let tokens := skipLines tokens
    match tokens with
    | [] | .mark ")" :: _ | .mark ";;" :: _ => some (.sequence found, tokens)
    | token :: _ =>
      if (plain? token).any endings.contains then some (.sequence found, tokens)
      else
        match readConditional aliases fuel tokens with
        | none => none
        | some (script, tokens) =>
          match tokens with
          | .mark ";" :: tokens => readList aliases fuel (found ++ [script]) tokens
          | .mark "\n" :: tokens => readList aliases fuel (found ++ [script]) tokens
          | .mark "&" :: tokens => readList aliases fuel (found ++ [.background script]) tokens
          | tokens => some (.sequence (found ++ [script]), tokens)

/-- Pipelines joined by conditions. -/
def readConditional (aliases : Aliases) : Nat → List Token → Option (Script × List Token)
  | 0, _ => none
  | fuel + 1, tokens =>
    match readPipeline aliases fuel tokens with
    | none => none
    | some (script, tokens) => readConditionals aliases fuel script tokens

/-- Further pipelines joined to a script. -/
def readConditionals (aliases : Aliases) : Nat → Script → List Token → Option (Script × List Token)
  | 0, _, _ => none
  | fuel + 1, first, tokens =>
    match tokens with
    | .mark "&&" :: tokens =>
      match readPipeline aliases fuel (skipLines tokens) with
      | some (second, tokens) => readConditionals aliases fuel (.both first second) tokens
      | none => none
    | .mark "||" :: tokens =>
      match readPipeline aliases fuel (skipLines tokens) with
      | some (second, tokens) => readConditionals aliases fuel (.either first second) tokens
      | none => none
    | tokens => some (first, tokens)

/-- A pipeline. -/
def readPipeline (aliases : Aliases) : Nat → List Token → Option (Script × List Token)
  | 0, _ => none
  | fuel + 1, tokens =>
    match tokens with
    | [] => none
    | token :: rest =>
      let negated := plain? token = some "!"
      match readPiped aliases fuel [] (if negated then rest else tokens) with
      | none => none
      | some (scripts, tokens) =>
        match scripts with
        | [script] => some (if negated then .pipeline true [script] else script, tokens)
        | scripts => some (.pipeline negated scripts, tokens)

/-- The commands of a pipeline, after those already read. -/
def readPiped (aliases : Aliases) : Nat → List Script → List Token →
    Option (List Script × List Token)
  | 0, _, _ => none
  | fuel + 1, found, tokens =>
    match readCommand aliases fuel tokens with
    | none => none
    | some (script, tokens) =>
      match tokens with
      | .mark "|" :: tokens => readPiped aliases fuel (found ++ [script]) (skipLines tokens)
      | tokens => some (found ++ [script], tokens)

/-- A simple command or a construction. -/
def readCommand (aliases : Aliases) : Nat → List Token → Option (Script × List Token)
  | 0, _ => none
  | fuel + 1, tokens =>
    match withAliases aliases (aliases.length + tokens.length + 1) [] tokens with
    | [] => none
    | .mark "(" :: tokens => do
      let (body, tokens) ← readBody aliases fuel tokens
      match tokens with
      | .mark ")" :: tokens =>
        let (rs, tokens) := redirects tokens.length [] tokens
        return (.nested body rs, tokens)
      | _ => none
    | .word w :: .mark "(" :: .mark ")" :: rest =>
      match w.plain? with
      | some name => do
        let (body, tokens) ← readCommand aliases fuel (skipLines rest)
        return (.define name body, tokens)
      | none => none
    | token :: rest =>
      match plain? token with
      | some "\x7b" => do
        let (body, tokens) ← readBody aliases fuel rest
        let tokens ← expect "\x7d" tokens
        let (rs, tokens) := redirects tokens.length [] tokens
        return (.group body rs, tokens)
      | some "if" => do
        let (script, tokens) ← readBranch aliases fuel rest
        let (rs, tokens) := redirects tokens.length [] tokens
        match script with
        | .branch c t e _ => return (.branch c t e rs, tokens)
        | other => return (other, tokens)
      | some "while" => readLoop aliases fuel false rest
      | some "until" => readLoop aliases fuel true rest
      | some "for" => readEach aliases fuel rest
      | some "case" => readChoice aliases fuel rest
      | some other =>
        if reserved.contains other then none
        else readSimple (rest.length + 2) [] [] [] (token :: rest)
      | none => readSimple (rest.length + 2) [] [] [] (token :: rest)

/-- What follows the word that begins a branch. -/
def readBranch (aliases : Aliases) : Nat → List Token → Option (Script × List Token)
  | 0, _ => none
  | fuel + 1, tokens => do
    let (condition, tokens) ← readBody aliases fuel tokens
    let tokens ← expect "then" tokens
    let (consequence, tokens) ← readBody aliases fuel tokens
    match tokens with
    | [] => none
    | token :: rest =>
      match plain? token with
      | some "fi" => return (.branch condition consequence none [], rest)
      | some "else" =>
        let (alternative, tokens) ← readBody aliases fuel rest
        let tokens ← expect "fi" tokens
        return (.branch condition consequence (some alternative) [], tokens)
      | some "elif" =>
        let (alternative, tokens) ← readBranch aliases fuel rest
        return (.branch condition consequence (some alternative) [], tokens)
      | _ => none

/-- What follows the word that begins a loop. -/
def readLoop (aliases : Aliases) : Nat → Bool → List Token → Option (Script × List Token)
  | 0, _, _ => none
  | fuel + 1, untilHolds, tokens => do
    let (condition, tokens) ← readBody aliases fuel tokens
    let tokens ← expect "do" tokens
    let (body, tokens) ← readBody aliases fuel tokens
    let tokens ← expect "done" tokens
    let (rs, tokens) := redirects tokens.length [] tokens
    return (.loop untilHolds condition body rs, tokens)

/-- What follows the word that begins a loop over words. -/
def readEach (aliases : Aliases) : Nat → List Token → Option (Script × List Token)
  | 0, _ => none
  | fuel + 1, tokens => do
    match tokens with
    | .word w :: tokens =>
      let name ← w.plain?
      let tokens := skipLines tokens
      let (words, tokens) := match expect "in" tokens with
        | some tokens =>
          let (words, tokens) := readWords [] tokens
          (some words, tokens)
        | none => (none, tokens)
      let tokens := match tokens with
        | .mark ";" :: tokens => tokens
        | tokens => tokens
      let tokens ← expect "do" (skipLines tokens)
      let (body, tokens) ← readBody aliases fuel tokens
      let tokens ← expect "done" tokens
      let (rs, tokens) := redirects tokens.length [] tokens
      return (.each name words body rs, tokens)
    | _ => none

/-- What follows the word that begins a choice. -/
def readChoice (aliases : Aliases) : Nat → List Token → Option (Script × List Token)
  | 0, _ => none
  | fuel + 1, tokens => do
    match tokens with
    | .word w :: tokens =>
      let tokens ← expect "in" (skipLines tokens)
      let (cases, tokens) ← readCases aliases fuel [] tokens
      let (rs, tokens) := redirects tokens.length [] tokens
      return (.choice w cases rs, tokens)
    | _ => none

/-- The cases of a choice, after those already read. -/
def readCases (aliases : Aliases) : Nat → List (List Word × Script) → List Token →
    Option (List (List Word × Script) × List Token)
  | 0, _, _ => none
  | fuel + 1, found, tokens =>
    let tokens := skipLines tokens
    match expect "esac" tokens with
    | some tokens => some (found, tokens)
    | none => do
      let tokens := match tokens with
        | .mark "(" :: tokens => tokens
        | tokens => tokens
      let (patterns, tokens) ← readPatterns fuel [] tokens
      let (body, tokens) ← readList aliases fuel [] tokens
      match tokens with
      | .mark ";;" :: tokens => readCases aliases fuel (found ++ [(patterns, body)]) tokens
      | tokens => do
        let tokens ← expect "esac" tokens
        return (found ++ [(patterns, body)], tokens)

end

/-- One line of commands at the beginning of tokens, after those already read. -/
def readLine (aliases : Aliases) (fuel : Nat) : Nat → List Script → List Token →
    Option (Script × List Token)
  | 0, _, _ => none
  | n + 1, found, tokens =>
    match readConditional aliases fuel tokens with
    | none => none
    | some (script, tokens) =>
      let (script, more, tokens) := match tokens with
        | .mark ";" :: tokens => (script, true, tokens)
        | .mark "&" :: tokens => (.background script, true, tokens)
        | tokens => (script, false, tokens)
      let found := found ++ [script]
      match tokens, more with
      | [], _ => some (.sequence found, [])
      | .mark "\n" :: tokens, _ => some (.sequence found, tokens)
      | tokens, true => readLine aliases fuel n found tokens
      | _, false => none

end Script
end Container.Shell
