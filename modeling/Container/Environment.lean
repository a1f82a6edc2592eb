import Container.Path

set_option autoImplicit false

/-!
# Environment variables

The variables a process is given. Both names and values are byte strings; a setting that is
wanted as text counts only where its value is well-formed.

## Main definitions

* `Environment` — variables with their values.
* `Environment.get?`, `Environment.text?` — the value of a variable.
* `Environment.pathOr` — a path taken from a variable.
-/

namespace Container

/-- Variables with their values. Of two entries with one name the first counts. -/
structure Environment where
  entries : List (Bytes × Bytes)

namespace Environment

/-- No variables. -/
def empty : Environment := ⟨[]⟩

/-- The value of a variable. -/
def get? (env : Environment) (name : String) : Option Bytes := env.entries.lookup (Utf8.bytes name)

/-- The value of a variable, if it is text. -/
def text? (env : Environment) (name : String) : Option String :=
  (env.get? name).bind Utf8.text?

/-- Gives a variable a value. -/
def set (env : Environment) (name value : Bytes) : Environment :=
  ⟨(name, value) :: env.entries.filter (·.1 ≠ name)⟩

/-- Takes a variable away. -/
def unset (env : Environment) (name : Bytes) : Environment :=
  ⟨env.entries.filter (·.1 ≠ name)⟩

/-- The variables that every process is given. -/
def usual : Environment :=
  ⟨[("HOME", "/root"), ("PATH", "/usr/local/sbin:/usr/local/bin:/usr/sbin:/usr/bin:/sbin:/bin")].map
    fun (name, value) => (Utf8.bytes name, Utf8.bytes value)⟩

/-- Gives variables values. -/
def withAll (env : Environment) (entries : List (Bytes × Bytes)) : Environment :=
  entries.foldl (fun env (name, value) => env.set name value) env

/-- The path that a variable holds as text, or another one. -/
def pathOr (env : Environment) (name : String) (fallback : Path) : Path :=
  match env.text? name with
  | some s => Path.ofText s
  | none => fallback

end Environment
end Container
