import ConditionalGet.Url.Host

/-!
# URLs

A URL by its parts, each in the form in which it is written. `Url.text` puts the parts together.
-/

set_option autoImplicit false

namespace ConditionalGet

/-- Who a URL addresses, and on whose behalf. -/
structure Authority where
  user : String
  password : Option String
  host : Host
  /-- None if it is the usual one of the scheme. -/
  port : Option Nat
  deriving DecidableEq, Repr

inductive UrlPath where
  /-- A text without hierarchy. -/
  | flat (text : String)
  /-- Names, with a slash before each. -/
  | steps (names : List String)
  deriving DecidableEq, Repr

structure Url where
  scheme : String
  authority : Option Authority
  path : UrlPath
  query : Option String
  fragment : Option String
  deriving DecidableEq, Repr

namespace Authority

/-- The text of an authority: the user and the password, if any, before an `@`. -/
def text (a : Authority) : String :=
  let user :=
    match a.password with
    | some password => a.user ++ ":" ++ password ++ "@"
    | none => if a.user.isEmpty then "" else a.user ++ "@"
  let port :=
    match a.port with
    | some port => ":" ++ toString port
    | none => ""
  user ++ a.host.text ++ port

end Authority

namespace UrlPath

def text : UrlPath → String
  | .flat text => text
  | .steps names => String.join (names.map ("/" ++ ·))

end UrlPath

namespace Url

/-- The host, if the URL has one that is not empty. -/
def host? (u : Url) : Option String :=
  match u.authority with
  | none => none
  | some a => if a.host = .empty then none else some a.host.text

/-- The URL without user and password. -/
def anonymous (u : Url) : Url :=
  { u with authority := u.authority.map fun a => { a with user := "", password := none } }

/-- The text between the scheme and the path. Without an authority the path must not look like
one. -/
def authorityText (u : Url) : String :=
  match u.authority with
  | some a => "//" ++ a.text
  | none => if "//".toList.isPrefixOf u.path.text.toList then "/." else ""

def textBeforeFragment (u : Url) : String :=
  let query :=
    match u.query with
    | some query => "?" ++ query
    | none => ""
  u.scheme ++ ":" ++ u.authorityText ++ u.path.text ++ query

def text (u : Url) : String :=
  match u.fragment with
  | some fragment => u.textBeforeFragment ++ "#" ++ fragment
  | none => u.textBeforeFragment

end Url

end ConditionalGet
