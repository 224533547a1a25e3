import ConditionalGet.Files
import ConditionalGet.Level

/-!
# Notices

What is told on the side while the library works: nothing of it changes a result.
-/

set_option autoImplicit false

namespace ConditionalGet

/-- Something worth telling. -/
inductive Notice where
  /-- The validator on record for a URI cannot be put on a request. -/
  | unsendableValidator (uri : String)
  /-- The server says that nothing changed, but there is no body on record. -/
  | bodyMissing (uri : String)
  /-- The body file of a replaced entry could not be removed. -/
  | leftover (path : String) (fault : IoFault)
  /-- The configuration file cannot be used. -/
  | configurationIgnored (path : String)
  | configurationLoaded (path : String)
  | transportReady
  | storeOpened (dir : String) (size : Nat)
  /-- No token is known for the host. -/
  | anonymous
  deriving DecidableEq, Repr

namespace Notice

/-- How urgent a notice is. -/
def level : Notice → Level
  | .unsendableValidator _ | .bodyMissing _ | .leftover .. | .configurationIgnored _ => .warn
  | .configurationLoaded _ | .transportReady | .storeOpened .. | .anonymous => .info

def text : Notice → String
  | .unsendableValidator uri => "Cached ETag for " ++ uri ++ " is not a valid header value"
  | .bodyMissing uri => "304 for " ++ uri ++ " but no cached body, refetching unconditionally"
  | .leftover path fault => "Failed to remove replaced body " ++ path ++ ": " ++ fault.text
  | .configurationIgnored path =>
    "Failed to parse config file " ++ path ++ ": Invalid client configuration"
  | .configurationLoaded path => "Loaded client config from " ++ path
  | .transportReady => "Created HTTP client"
  | .storeOpened dir size =>
    "Opened file cache at " ++ dir ++ " (" ++ toString size ++ " entries)"
  | .anonymous => "No token configured, sending anonymous requests"

end Notice

end ConditionalGet
