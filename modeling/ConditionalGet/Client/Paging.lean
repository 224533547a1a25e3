import ConditionalGet.Client
import ConditionalGet.Url.Parser

/-!
# Paging through a collection

The pages of a collection come one after another, each from where the page before it leads to.
Each page takes one GET. A page with another status than 200, an error and a link that leads nowhere
end the sequence; there is no way back.
-/

set_option autoImplicit false

namespace ConditionalGet

/-- Where in a collection one is. -/
structure Paging where
  /-- Where the next page is, if there is one. -/
  next? : Option Url
  fetched : Nat
  deriving DecidableEq

namespace Paging

/-- Before the first page. -/
def start (uri : Url) : Paging := ⟨some uri, 0⟩

/-- Whether another page will be asked for. -/
def hasNext (p : Paging) : Bool := p.next?.isSome

/-- The value that asks for a fresh copy. -/
def noCache : FieldValue := { bytes := Text.bytes "no-cache", valid := by decide +kernel }

def request (uri : Url) : Request := .get uri (Fields.empty.append .cacheControl noCache)

/-- Where the page after a page is: none after the last one. -/
def following (uri : Url) (page : Resource) : Except ClientError (Option Url) :=
  match page.nextLink? with
  | none => .ok none
  | some link =>
    match uri.join link with
    | .ok next => .ok (some next)
    | .error flaw => .error (.invalidLink uri link flaw)

/-- The place after an answer to the request for a page, and the page. -/
def advance (fetched : Nat) (uri : Url) (answer : Except ClientError Resource) :
    Except ClientError Resource × Paging :=
  match answer with
  | .error e => (.error e, ⟨none, fetched⟩)
  | .ok page =>
    if page.status ≠ 200 then (.error (.unexpectedStatus uri page.status), ⟨none, fetched⟩)
    else
      match following uri page with
      | .error e => (.error e, ⟨none, fetched⟩)
      | .ok next => (.ok page, ⟨next, fetched + 1⟩)

variable {m : Type → Type} [Monad m]

/-- The next page, if there is one, and the place after it. -/
def step (client : Client m) (p : Paging) : m (Option (Except ClientError Resource) × Paging) := do
  match p.next? with
  | none => return (none, p)
  | some uri =>
    let (item, p) := advance p.fetched uri (← client (request uri))
    return (some item, p)

/-- At most `limit` pages, the last of which may be an error, and the place after them. -/
def take (client : Client m) :
    (limit : Nat) → Paging → m (List (Except ClientError Resource) × Paging)
  | 0, p => return ([], p)
  | limit + 1, p => do
    match ← p.step client with
    | (none, p) => return ([], p)
    | (some item, p) => do
      let (items, p) ← take client limit p
      return (item :: items, p)

/-- Visits at most `limit` pages, each before the next is asked for, up to the first error. -/
def visit (client : Client m) (page : Resource → m Unit) :
    (limit : Nat) → Paging → m (Except ClientError Unit)
  | 0, _ => return .ok ()
  | limit + 1, p => do
    match ← p.step client with
    | (none, _) => return .ok ()
    | (some (.error e), _) => return .error e
    | (some (.ok resource), p) => do
      page resource
      visit client page limit p

end Paging

end ConditionalGet
