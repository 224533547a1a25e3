import ConditionalGet.Client
import ConditionalGet.Notice
import ConditionalGet.Program
import ConditionalGet.Store

/-!
# Conditional GETs

A GET of a resource that is on record goes out with the validator on record. If the server answers
that nothing has changed, the body on record is the answer; whatever else it answers is handed on.
An answer with status 200 and a validator goes on record.

`Revalidation.get` is the course of one GET as a program: what is looked up, sent and stored, and in
which order. `Client.cached` runs it on a client and a store.
-/

set_option autoImplicit false

namespace ConditionalGet

/-- The status of an answer that brings the resource. -/
def statusOk : Nat := 200

/-- The status of an answer that says that nothing has changed. -/
def statusNotModified : Nat := 304

namespace Revalidation

open Program (question)

/-- What happens in the course of a GET. -/
inductive Question where
  | lookup (uri : String)
  | send (request : Request)
  | store (uri etag body : String)
  | notify (notice : Notice)

/-- What each of it answers. -/
def Answer : Question → Type
  | .lookup _ => Except StoreError Lookup
  | .send _ => Except ClientError Resource
  | .store .. => Except StoreError Unit
  | .notify _ => Unit

/-- The interface between a GET and what it needs. -/
def interface : Interface := ⟨Question, Answer⟩

/-- A part of the course of a GET, which may fail. -/
abbrev Course := ExceptT ClientError (Program interface)

def lookup (uri : String) : Course Lookup :=
  ExceptT.mk (Except.mapError .store <$> question (I := interface) (.lookup uri))

def send (request : Request) : Course Resource := ExceptT.mk (question (I := interface) (.send request))

/-- Puts a validator and a body on record. -/
def store (uri etag body : String) : Course Unit :=
  ExceptT.mk (Except.mapError .store <$> question (I := interface) (.store uri etag body))

/-- Tells something on the side. -/
def notify (notice : Notice) : Course Unit := ExceptT.lift (question (I := interface) (.notify notice))

/-- Puts an answer on record if it has status 200 and a validator. -/
def remember (uri : String) (response : Resource) : Course Unit :=
  if response.status ≠ statusOk then pure ()
  else
    match response.etag? with
    | some etag => store uri etag response.body
    | none => pure ()

/-- Sends a request and puts its answer on record. -/
def exchange (request : Request) : Course Resource := do
  let response ← send request
  remember request.uri.text response
  return response

/-- A request without a condition. -/
def unconditional (request : Request) : Request :=
  { request with headers := request.headers.remove .ifNoneMatch }

/-- A request on the condition that the validator has changed. -/
def conditional (request : Request) (validator : FieldValue) : Request :=
  { request with headers := request.headers.insert .ifNoneMatch validator }

/-- The answer to a request that was sent with the validator on record. -/
def settle (request : Request) (found : Lookup) (response : Resource) : Course Resource := do
  if response.status ≠ statusNotModified then
    remember request.uri.text response
    return response
  else
    match found.body? with
    | some body => return response.derive statusOk body
    | none => do
      notify (.bodyMissing request.uri.text)
      exchange (unconditional request)

/-- The course of a GET. A validator that cannot be put on a request is as good as none. -/
def get (request : Request) : Course Resource := do
  let found ← lookup request.uri.text
  match found.etag? with
  | none => exchange request
  | some etag =>
    match FieldValue.ofString? etag with
    | none => do
      notify (.unsendableValidator request.uri.text)
      exchange (unconditional request)
    | some validator => do settle request found (← send (conditional request validator))

end Revalidation

namespace Client

variable {m : Type → Type} [Monad m]

/-- Answers what happens in the course of a GET by a client and a store. -/
def answerCourse (client : Client m) (store : Store m) (notify : Notice → m Unit) :
    (q : Revalidation.Question) → m (Revalidation.Answer q)
  | .lookup uri => store.lookup uri
  | .send request => client request
  | .store uri etag body => store.store uri etag body
  | .notify notice => notify notice

/-- The client whose GETs are conditional on what a store has on record. All other requests pass
through and leave the store alone. -/
def cached (client : Client m) (store : Store m) (notify : Notice → m Unit) : Client m :=
  fun request =>
    match request.method with
    | .get => Program.run (client.answerCourse store notify) (Revalidation.get request).run
    | _ => client request

end Client

end ConditionalGet
