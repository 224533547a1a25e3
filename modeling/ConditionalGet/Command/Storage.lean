import ConditionalGet.Directories
import ConditionalGet.Failure
import ConditionalGet.Store.Disk
import ConditionalGet.Store.Memory

/-!
# Choosing a store

Where responses are kept in a run of the command.
-/

set_option autoImplicit false

namespace ConditionalGet

/-- A store as it is at the start of a run. -/
inductive Storage where
  /-- Responses are not kept. -/
  | none
  | memory
  | disk (store : DiskStore)

namespace Storage

/-- The failure of a directory that cannot be determined or made. -/
def directoryFailure (flaw : DirectoryFlaw) : Failure := ⟨flaw.message, flaw.causes⟩

def openFailure (dir : String) (e : StoreError) : Failure :=
  ⟨"Failed to open cache at " ++ dir, e.message :: e.causes⟩

/-- Opens the configured store, unless no responses are to be kept. -/
def ofConfig (c : CacheConfig) (env : Environment) (account : Option String) (noCache : Bool) :
    FileProgram (Except Failure Storage) := do
  if noCache then return .ok .none
  match c.backend with
  | .none => return .ok .none
  | .memory => return .ok .memory
  | .file =>
    match ← c.resolveDir env account with
    | .error flaw => return .error (directoryFailure flaw)
    | .ok dir =>
      match ← (DiskStore.openAt dir).run with
      | .error e => return .error (openFailure dir e)
      | .ok store => return .ok (.disk store)

end Storage

end ConditionalGet
