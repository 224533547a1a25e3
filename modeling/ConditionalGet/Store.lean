import ConditionalGet.Files
import ConditionalGet.Json.Fault

/-!
# Stores of responses

A store keeps, for each URI, the validator and the body of a response. `Lookup` is what a store
knows about a URI, `StoreError` why it cannot say, and `Store m` a store whose operations are
actions of `m`.
-/

set_option autoImplicit false

namespace ConditionalGet

/-- A validator and the body it belongs to. -/
structure CachedResponse where
  etag : String
  body : String
  deriving DecidableEq, Repr

/-- What a store knows about a URI. -/
inductive Lookup where
  | miss
  | hit (response : CachedResponse)
  /-- A validator is on record, but its body is gone. -/
  | etagOnly (etag : String)
  deriving DecidableEq, Repr

namespace Lookup

/-- The validator on record. -/
def etag? : Lookup → Option String
  | .miss => none
  | .hit r => some r.etag
  | .etagOnly e => some e

def body? : Lookup → Option String
  | .hit r => some r.body
  | _ => none

/-- Whether nothing is on record. -/
def isMiss (l : Lookup) : Bool := l = .miss

/-- A body is on record only together with a validator. -/
theorem etag?_isSome_of_body? {l : Lookup} (h : l.body?.isSome = true) : l.etag?.isSome = true := by
  cases l <;> simp_all [body?, etag?]

end Lookup

/-! ## Errors -/

/-- Why an index cannot be used. -/
inductive IndexFlaw where
  /-- Its text is no index. -/
  | unreadable (complaint : Json.Complaint)
  /-- It is an index of another version. -/
  | unsupportedVersion (version : Nat)
  /-- Something else is wrong with it. -/
  | damaged (text : String)

def IndexFlaw.text : IndexFlaw → String
  | .unreadable complaint => complaint.message
  | .unsupportedVersion version => "unsupported index version " ++ toString version
  | .damaged text => text

/-- Why a store cannot answer. -/
inductive StoreError where
  | io (path : String) (fault : IoFault)
  | corruptIndex (path : String) (flaw : IndexFlaw)

def StoreError.message : StoreError → String
  | .io path fault => "Cache I/O error at " ++ path ++ ": " ++ fault.text
  | .corruptIndex path flaw => "Corrupt cache index at " ++ path ++ ": " ++ flaw.text

/-- What brought an error about. -/
def StoreError.causes : StoreError → List String
  | .io _ fault => [fault.text]
  | .corruptIndex .. => []

/-! ## Stores -/

/-- A store whose operations are actions of `m`. -/
structure Store (m : Type → Type) where
  /-- What is known about a URI. -/
  lookup : (uri : String) → m (Except StoreError Lookup)
  /-- Records a validator and a body for a URI in place of what was recorded before. -/
  store : (uri etag body : String) → m (Except StoreError Unit)

namespace Store

variable {m : Type → Type} [Monad m]

/-- The validator on record for a URI. -/
def etag? (s : Store m) (uri : String) : m (Except StoreError (Option String)) :=
  (Except.map Lookup.etag?) <$> s.lookup uri

def body? (s : Store m) (uri : String) : m (Except StoreError (Option String)) :=
  (Except.map Lookup.body?) <$> s.lookup uri

end Store

end ConditionalGet
