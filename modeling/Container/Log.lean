import Container.Text.Quoted

set_option autoImplicit false

/-!
# Log events

What the library reports about its own work: an event has a level, the part of the program it
comes from, a message, and named values.

## Main definitions

* `LogEvent` — an event.
* `LogEvent.line` — its message and values on one line.
* `LogEvent.isNotable` — whether it is shown to who runs the program.
-/

namespace Container

/-- How important an event is. -/
inductive Level where
  | debug | info | warn | error
  deriving DecidableEq

/-- The name of a level. -/
def Level.name : Level → String
  | .debug => "DEBUG"
  | .info => "INFO"
  | .warn => "WARN"
  | .error => "ERROR"

/-- The parts of the program that events come from. -/
inductive LogSource where
  | config | records | hooks | mounts | cgroups | privilege | network | crypt
  | creation | cleanup | handoff | remote | helper | helperMain | commandLine
  deriving DecidableEq

/-- The name under which events of a part are reported. -/
def LogSource.name : LogSource → String
  | .config => "shroud_core::config"
  | .records => "shroud_core::instance"
  | .hooks => "shroud_core::script"
  | .mounts => "shroud_core::isolation::mounts"
  | .cgroups => "shroud_core::isolation::cgroups"
  | .privilege => "shroud_core::isolation::privilege"
  | .network => "shroud_core::network"
  | .crypt => "shroud_core::crypt"
  | .creation => "shroud_core::engine::create"
  | .cleanup => "shroud_core::engine::cleanup"
  | .handoff => "shroud_core::engine::process"
  | .remote => "shroud_core::ops::rpc"
  | .helper => "shroud_helper::server"
  | .helperMain => "shroud_helper"
  | .commandLine => "shroud"

/-- A value of an event: shown as it is, shown in a form that is quoted already, a text of its
own, a number or a truth value. -/
inductive LogValue where
  | shown (s : String)
  | marked (s : String)
  | text (s : String)
  | number (n : Nat)
  | truth (b : Bool)
  deriving DecidableEq

/-- An event. -/
structure LogEvent where
  level : Level
  source : LogSource
  message : String
  values : List (String × LogValue)
  deriving DecidableEq

/-- A value as it stands on the line of an event. -/
def LogValue.line : LogValue → String
  | .shown s | .marked s => s
  | .text s => Quoted.text s
  | .number n => toString n
  | .truth b => toString b

/-- The message of an event with its values. -/
def LogEvent.line (e : LogEvent) : String :=
  e.message ++ String.join (e.values.map fun (name, value) => " " ++ name ++ "=" ++ value.line)

/-- Whether an event is important enough to be shown to who runs the program. -/
def LogEvent.isNotable (e : LogEvent) : Bool := e.level ≠ .debug

end Container
