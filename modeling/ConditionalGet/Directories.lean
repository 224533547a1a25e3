import ConditionalGet.Config
import ConditionalGet.Environment
import ConditionalGet.Files
import ConditionalGet.Path

/-!
# Directories of the command

Where responses are kept if nothing else is configured: below the user's cache directory, which
`XDG_CACHE_HOME` may name.
-/

set_option autoImplicit false

namespace ConditionalGet

inductive DirectoryFlaw where
  /-- It is not known where the user's files are. -/
  | noHome
  | notMade (path : String) (fault : IoFault)
  deriving DecidableEq, Repr

namespace DirectoryFlaw

def message : DirectoryFlaw → String
  | .noHome => "Could not determine cache directory"
  | .notMade path _ => "Failed to create cache directory " ++ path

/-- What brought a flaw about. -/
def causes : DirectoryFlaw → List String
  | .noHome => []
  | .notMade _ fault => [fault.text]

end DirectoryFlaw

namespace Environment

/-- The home directory: as the environment says, or else as the user's account does. -/
def home? (env : Environment) (account : Option String) : Option String :=
  ((env "HOME").filter (!·.isEmpty)).or account

/-- The user's cache directory. A relative path in `XDG_CACHE_HOME` does not count. -/
def cacheHome? (env : Environment) (account : Option String) : Option String :=
  ((env "XDG_CACHE_HOME").filter Path.isAbsolute).or
    ((env.home? account).map (Path.join · ".cache"))

/-- The directory of the command in the user's cache directory. -/
def ownCache? (env : Environment) (account : Option String) : Option String :=
  (env.cacheHome? account).map (Path.join · "forge-client")

end Environment

namespace Directories

/-- The directory of the command in the user's cache directory, which is made if it is missing. -/
def cache (env : Environment) (account : Option String) :
    FileProgram (Except DirectoryFlaw String) := do
  match env.ownCache? account with
  | none => return .error .noHome
  | some dir =>
    match ← FileProgram.createAll dir with
    | .ok () => return .ok dir
    | .error fault => return .error (.notMade dir fault)

/-- The directory of responses in the user's cache directory. -/
def responses (env : Environment) (account : Option String) :
    FileProgram (Except DirectoryFlaw String) := do
  return (← cache env account).map (Path.join · "http")

end Directories

namespace CacheConfig

/-- The directory where responses are kept: the configured one, or else the usual one. -/
def resolveDir (c : CacheConfig) (env : Environment) (account : Option String) :
    FileProgram (Except DirectoryFlaw String) :=
  match c.dir with
  | some dir => return .ok dir
  | none => Directories.responses env account

end CacheConfig

end ConditionalGet
