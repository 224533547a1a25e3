/-!
# Configuration

How the client talks to servers, and where it keeps responses.
-/

set_option autoImplicit false

namespace ConditionalGet

/-- The protocol that is spoken. -/
inductive HttpVersion where
  | http1
  | http2
  deriving DecidableEq, Repr

/-- Where responses are kept. -/
inductive Backend where
  /-- Nowhere. -/
  | none
  /-- In memory, until the end of the run. -/
  | memory
  /-- In a directory. -/
  | file
  deriving DecidableEq, Repr

/-- Where responses are kept, and in which directory if they are kept in one. -/
structure CacheConfig where
  backend : Backend
  /-- None for the usual directory. -/
  dir : Option String
  deriving DecidableEq, Repr

/-- The configuration of the client. Times are in seconds. -/
structure Config where
  timeout : Nat
  connectTimeout : Nat
  userAgent : String
  httpVersion : HttpVersion
  cache : CacheConfig
  deriving DecidableEq, Repr

/-! ## Defaults -/

def HttpVersion.default : HttpVersion := .http1

def Backend.default : Backend := .memory

def CacheConfig.default : CacheConfig where
  backend := .default
  dir := none

namespace Config

def defaultTimeout : Nat := 30

def defaultConnectTimeout : Nat := 10

def defaultUserAgent : String := "forge-client/0.1.0"

/-- The configuration where nothing is configured. -/
def default : Config where
  timeout := defaultTimeout
  connectTimeout := defaultConnectTimeout
  userAgent := defaultUserAgent
  httpVersion := .default
  cache := .default

end Config

end ConditionalGet
