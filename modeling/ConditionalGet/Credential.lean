import ConditionalGet.Base64
import ConditionalGet.Header
import ConditionalGet.Text.Quoted

/-!
# Credentials

A credential is the header that authenticates a request. It can be shown without giving away its
value, and it may turn out not to be sendable when it is put on a request.
-/

set_option autoImplicit false

namespace ConditionalGet

/-- A header that authenticates requests. -/
structure Credential where
  name : String
  value : String
  deriving DecidableEq

namespace Credential

def bearer (token : String) : Credential := ⟨"Authorization", "Bearer " ++ token⟩

/-- A token by the scheme `token`. -/
def token (token : String) : Credential := ⟨"Authorization", "token " ++ token⟩

/-- The text that stands for a user and a password. -/
def basicText (user password : String) : String :=
  String.ofList (Base64.encode (Text.bytes (user ++ ":" ++ password)))

def basic (user password : String) : Credential :=
  ⟨"Authorization", "Basic " ++ basicText user password⟩

/-- A token in a header of its own. -/
def privateToken (token : String) : Credential := ⟨"PRIVATE-TOKEN", token⟩

/-- What a log shows of a credential: its header's name and nothing of its value. -/
def redacted (c : Credential) : String :=
  "Credential \x7b header_name: " ++ Text.quoted c.name ++ ", header_value: \"<redacted>\" \x7d"

/-- The part of a header that cannot be sent. -/
inductive Flaw where
  | name
  | value
  deriving DecidableEq, Repr

def Flaw.text : Flaw → String
  | .name => "invalid HTTP header name"
  | .value => "failed to parse header value"

/-- The credential as a header field; its value is sensitive. -/
def field (c : Credential) : Except Flaw (FieldName × FieldValue) :=
  match FieldName.ofString? c.name with
  | none => .error .name
  | some name =>
    match FieldValue.ofString? c.value with
    | none => .error .value
    | some value => .ok (name, { value with sensitive := true })

end Credential

end ConditionalGet
