import ConditionalGet.Config.Reader
import ConditionalGet.Environment
import ConditionalGet.Notice
import ConditionalGet.Path

/-!
# Finding the configuration

The configuration is in the working directory or in the home directory. The first file that can be
read as text counts, and only that one; if it cannot be used, everything has its default.
-/

set_option autoImplicit false

namespace ConditionalGet

/-- A text and where it was found. -/
structure Found where
  path : String
  content : String
  deriving DecidableEq, Repr

namespace Config

/-- The name of a configuration file. -/
def fileName : String := ".forge-client.toml"

/-- Where a configuration is looked for, in order. -/
def candidates (env : Environment) : List String :=
  fileName :: ((env "HOME").map (Path.join · fileName)).toList

/-- The first of some files that can be read as text. -/
def readFirst : List String → FileProgram (Option Found)
  | [] => return none
  | path :: rest => do
    match ← FileProgram.read path with
    | .ok content => return some ⟨path, content⟩
    | .error _ => readFirst rest

/-- The configuration that was found, and what is to be told about it. -/
def ofFound : Option Found → Config × Option Notice
  | none => (.default, none)
  | some found =>
    match parse found.content with
    | .ok config => (config, some (.configurationLoaded found.path))
    | .error _ => (.default, some (.configurationIgnored found.path))

/-- Finds the configuration. -/
def load (env : Environment) : FileProgram (Config × Option Notice) := do
  return ofFound (← readFirst (candidates env))

end Config

end ConditionalGet
