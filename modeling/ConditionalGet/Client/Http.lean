import ConditionalGet.Client
import ConditionalGet.Config

/-!
# Clients over a transport

The client that asks servers: it puts the headers of a request together, hands the request to a
transport, and takes the headers of the answer over. How bytes get to a server is the transport's
business.
-/

set_option autoImplicit false

namespace ConditionalGet

/-- How the transport is set up. Times are in seconds. -/
structure HttpConfig where
  timeout : Nat
  connectTimeout : Nat
  userAgent : String
  version : HttpVersion
  deriving DecidableEq, Repr

/-- The part of a configuration that concerns the transport. -/
def Config.http (c : Config) : HttpConfig :=
  ⟨c.timeout, c.connectTimeout, c.userAgent, c.httpVersion⟩

/-- A request as the transport gets it. -/
structure HttpRequest where
  method : Method
  uri : Url
  headers : Fields
  /-- The text of a JSON body. -/
  body : Option String

/-- An answer as the transport gives it. -/
structure HttpResponse where
  status : Nat
  headers : Fields
  body : String

/-- Brings requests to servers. -/
abbrev Transport (m : Type → Type) := HttpRequest → m (Except TransportFailure HttpResponse)

namespace HttpConfig

/-- The setup, unless the transport cannot be built: a user agent must be a header value. -/
def check (c : HttpConfig) : Except ClientError Unit :=
  match FieldValue.ofString? c.userAgent with
  | some _ => .ok ()
  | none => .error (.transport ⟨"builder error", [Credential.Flaw.value.text]⟩)

end HttpConfig

namespace HttpRequest

def acceptJson : FieldValue :=
  { bytes := Text.bytes "application/json", valid := by decide +kernel }

/-- The headers that a request goes out with: JSON is asked for unless the caller asks for something
else, and the credential goes before both. -/
def fields (headers : Fields) (credential : Option Credential) : Except ClientError Fields :=
  let given := (Fields.empty.append .accept acceptJson).extend headers
  match credential with
  | none => .ok given
  | some c =>
    match c.field with
    | .ok (name, value) => .ok (given.insert name value)
    | .error flaw => .error (.invalidHeader c.name flaw)

/-- The request that a caller's request becomes. -/
def ofRequest (r : Request) : Except ClientError HttpRequest :=
  (fields r.headers r.credential).map fun headers =>
    ⟨r.method, r.uri, headers, r.body.map Json.Value.compact⟩

def isServed (scheme : String) : Bool := scheme = "http" || scheme = "https"

/-- The failure of a request to a scheme without servers. -/
def unserved (uri : Url) : TransportFailure :=
  ⟨"builder error for url (" ++ uri.anonymous.text ++ ")", ["URL scheme is not allowed"]⟩

end HttpRequest

/-- The transport of a machine that no server can be reached from. -/
def Transport.unreachable {m : Type → Type} [Monad m] : Transport m := fun request =>
  return .error {
    message := "error sending request for url (" ++ request.uri.anonymous.text ++ ")"
    causes := ["client error (Connect)", "tcp connect error",
      "Network is unreachable (os error 101)"] }

namespace HttpResponse

/-- The headers of an answer: every name with its values in order, bytes that are no text
replaced. -/
def collect (fs : Fields) : Headers :=
  fs.list.foldl (fun hs f => hs.push f.1.text f.2.text) Table.empty

/-- The resource that an answer brings. -/
def resource (r : HttpResponse) : Resource := ⟨r.status, r.body, collect r.headers⟩

end HttpResponse

namespace Client

variable {m : Type → Type} [Monad m]

def overHttp (transport : Transport m) : Client m := fun request =>
  match HttpRequest.ofRequest request with
  | .error e => return .error e
  | .ok r =>
    if !HttpRequest.isServed r.uri.scheme then
      return .error (.transport (HttpRequest.unserved r.uri))
    else do
      match ← transport r with
      | .ok response => return .ok response.resource
      | .error failure => return .error (.transport failure)

end Client

end ConditionalGet
