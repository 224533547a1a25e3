import ConditionalGet.Json.Document
import ConditionalGet.Link
import ConditionalGet.Table

/-!
# Resources

A resource is one response: status, body text and headers. Header names keep the case in which
they came and are looked up without regard to it; the body is parsed only when asked for.
-/

set_option autoImplicit false

namespace ConditionalGet

open Text

/-- The headers of a response: every name with its values in order of receipt. -/
abbrev Headers := Table String (List String)

namespace Headers

/-- Adds a value for a name after those it has. -/
def push (hs : Headers) (name value : String) : Headers :=
  hs.insert name ((hs.find? name).getD [] ++ [value])

/-- The headers of name and value pairs, values of one exact name together. -/
def ofPairs (pairs : List (String × String)) : Headers :=
  pairs.foldl (fun hs p => hs.push p.1 p.2) Table.empty

/-- The values of all names that agree with `name` up to case. -/
def values (hs : Headers) (name : String) : List String :=
  (hs.entries.filter fun e => sameLetters e.1 name).flatMap Prod.snd

end Headers

/-- One response. -/
structure Resource where
  status : Nat
  body : String
  headers : Headers

namespace Resource

def isSuccess (r : Resource) : Bool := 200 ≤ r.status && r.status < 300

/-- All values of a header, its name in any case. -/
def headerValues (r : Resource) (name : String) : List String := r.headers.values name

/-- The first value of a header, its name in any case. -/
def header? (r : Resource) (name : String) : Option String := (r.headerValues name).head?

/-- The validator of the body. -/
def etag? (r : Resource) : Option String := r.header? "etag"

/-- Where the next page of a collection is: the target of the first link with relation `next`
among all `Link` headers. -/
def nextLink? (r : Resource) : Option String :=
  (((r.headerValues "link").flatMap Link.parse).find? (·.hasRelation "next")).map Link.target

def json (r : Resource) : Except Json.Complaint Json.Value := Json.parse r.body

def jsonObject (r : Resource) : Except Json.Complaint (List (String × Json.Value)) :=
  Json.parseObject r.body

def jsonArray (r : Resource) : Except Json.Complaint (List Json.Value) := Json.parseArray r.body

/-- The resource with another status and body and the same headers. -/
def derive (r : Resource) (status : Nat) (body : String) : Resource :=
  { r with status := status, body := body }

def withHeaders (r : Resource) (headers : Headers) : Resource := { r with headers := headers }

/-- Whether two resources agree in status, body and the values of each header name. -/
def sameAs (r s : Resource) : Bool :=
  r.status == s.status && r.body == s.body && r.headers.sameAs s.headers

end Resource

end ConditionalGet
