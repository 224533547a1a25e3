import ConditionalGet.Store
import ConditionalGet.Table

/-!
# The store in memory

A finite map from URIs to responses. Nothing is ever forgotten, and the last response stored for
a URI is the one on record.
-/

set_option autoImplicit false

namespace ConditionalGet

/-- The responses on record, by URI. -/
abbrev Memory := Table String CachedResponse

namespace Memory

def lookup (s : Memory) (uri : String) : Lookup :=
  match s.find? uri with
  | some r => .hit r
  | none => .miss

/-- The records after storing a response. -/
def store (s : Memory) (uri etag body : String) : Memory := s.insert uri ⟨etag, body⟩

theorem lookup_store (s : Memory) (uri etag body u : String) :
    (s.store uri etag body).lookup u = if u = uri then .hit ⟨etag, body⟩ else s.lookup u := by
  by_cases h : u = uri <;> simp [lookup, store, h]

/-- The store that keeps its records in the state of `m`. -/
def shared {m : Type → Type} [Monad m] [MonadStateOf Memory m] : Store m where
  lookup uri := do return .ok ((← get).lookup uri)
  store uri etag body := do
    modify fun s : Memory => s.store uri etag body
    return .ok ()

end Memory

end ConditionalGet
