import ConditionalGet.Credential
import ConditionalGet.Failure
import ConditionalGet.Store
import ConditionalGet.Url

/-!
# Errors of clients

Why a request has no answer. A status other than success is none of these: it is an answer.
-/

set_option autoImplicit false

namespace ConditionalGet

/-- A failure of the transport: what went wrong, and what brought it about. -/
structure TransportFailure where
  message : String
  causes : List String := []
  deriving DecidableEq, Repr

/-- Why a client cannot answer. -/
inductive ClientError where
  /-- The request did not get through. -/
  | transport (failure : TransportFailure)
  /-- A page of a collection came with another status than 200. -/
  | unexpectedStatus (uri : Url) (status : Nat)
  /-- The link to the next page leads nowhere. -/
  | invalidLink (uri : Url) (link : String) (flaw : UrlFlaw)
  | store (error : StoreError)
  /-- The credential cannot be sent. -/
  | invalidHeader (name : String) (flaw : Credential.Flaw)
  /-- The body is not what was wanted of it. -/
  | json (complaint : Json.Complaint)

namespace ClientError

def message : ClientError → String
  | .transport failure => "HTTP transport failed: " ++ failure.message
  | .unexpectedStatus uri status =>
    "Unexpected HTTP status " ++ toString status ++ " fetching page " ++ uri.text
  | .invalidLink uri link flaw =>
    "Invalid next-page link '" ++ link ++ "' on " ++ uri.text ++ ": " ++ flaw.text
  | .store error => "Cache store failed: " ++ error.message
  | .invalidHeader name flaw => "Invalid header '" ++ name ++ "': " ++ flaw.text
  | .json complaint => "Failed to parse response body as JSON: " ++ complaint.message

/-- What brought an error about. -/
def causes : ClientError → List String
  | .transport failure => failure.message :: failure.causes
  | .unexpectedStatus .. | .invalidHeader .. => []
  | .invalidLink _ _ flaw => [flaw.text]
  | .store error => error.message :: error.causes
  | .json complaint => [complaint.message]

def failure (e : ClientError) : Failure := ⟨e.message, e.causes⟩

end ClientError

end ConditionalGet
