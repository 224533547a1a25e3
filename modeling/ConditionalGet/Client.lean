import ConditionalGet.Client.Error
import ConditionalGet.Resource

/-!
# Clients

A client answers requests with resources. `Client m` is a function whose answers are actions of
`m`; `authenticated` makes one that sends a credential from one that may or may not.
-/

set_option autoImplicit false

namespace ConditionalGet

/-- What is done to a resource. -/
inductive Method where
  | get
  | post
  | patch
  | put
  | delete
  deriving DecidableEq, Repr

def Method.name : Method → String
  | .get => "GET"
  | .post => "POST"
  | .patch => "PATCH"
  | .put => "PUT"
  | .delete => "DELETE"

/-- A request as a caller makes it. -/
structure Request where
  method : Method
  uri : Url
  headers : Fields := .empty
  body : Option Json.Value := none
  /-- Who the request is made for. -/
  credential : Option Credential := none

namespace Request

def get (uri : Url) (headers : Fields := .empty) : Request := { method := .get, uri, headers }

end Request

/-- Answers requests. -/
abbrev Client (m : Type → Type) := Request → m (Except ClientError Resource)

namespace Client

variable {m : Type → Type}

/-- The client that sends a credential with each request that has none yet. -/
def authenticated (client : Client m) (credential : Credential) : Client m := fun request =>
  client { request with credential := request.credential.or (some credential) }

/-- Of two credentials given to one client, the one given last is sent. -/
theorem authenticated_authenticated (client : Client m) (c d : Credential) :
    (client.authenticated c).authenticated d = client.authenticated d := by
  funext request
  cases h : request.credential <;> simp [authenticated, h]

end Client

end ConditionalGet
