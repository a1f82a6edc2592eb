import Container.Engine.Creation

set_option autoImplicit false

/-!
# Starting the program of a container

The process that created a container becomes its program. Everything that could keep the
program from being handed its arguments is found before anything is changed.

## Main definitions

* `Engine.handoffEnvironment` — the environment of the program.
* `Engine.handoff?` — all that is handed over, if it can be.
* `Engine.start` — the handing over.
-/

namespace Container

variable {σ : Type}

namespace Engine

/-- The prompt of a shell for which no other is set. -/
def defaultPrompt : String := "PS1=shell> "

/-- Whether a setting is that of the prompt. -/
def setsPrompt (setting : String) : Bool := setting.startsWith "PS1="

/-- The environment of a program: its own, with a prompt where none is set. -/
def handoffEnvironment (environment : List String) : List String :=
  if environment.any setsPrompt then environment else environment ++ [defaultPrompt]

/-- The first string with a zero byte, and the offset of that byte. -/
def firstZeroByte? (texts : List String) : Option (String × Nat) :=
  texts.findSome? fun text => ((Utf8.bytes text).findIdx? (· = 0)).map fun offset => (text, offset)

/-- All that is handed over to a program, if it can be. -/
def handoff? (program : Program) : Except ExecFault Handoff := do
  match program.arguments with
  | [] => throw .noArguments
  | path :: _ =>
    let environment := handoffEnvironment program.environment
    match firstZeroByte? (program.arguments ++ environment) with
    | some (text, offset) => throw (.zeroByte text offset)
    | none => return ⟨path, program.arguments, environment⟩

/-- Hands the process over to the program of the container. It comes back only by failing. -/
def start (sys : System σ) (engine : Engine) : Act σ Unit := do
  match handoff? engine.identity.program with
  | .error fault => Act.fail (.exec fault)
  | .ok handoff =>
    changeDir sys "/"
    sys.report .debug .handoff "exec container process"
      [("program", .shown handoff.program), ("argc", .number handoff.arguments.length)]
    match ← sys.execute handoff with
    | none => return
    | some errno => Act.fail (.exec (.refused handoff.program errno))

end Engine
end Container
