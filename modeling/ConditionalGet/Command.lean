import ConditionalGet.Client.Http
import ConditionalGet.Client.Paging
import ConditionalGet.Client.Revalidation
import ConditionalGet.Command.Arguments
import ConditionalGet.Command.Storage
import ConditionalGet.Config.Load

/-!
# The command

A run of the command as a program: it finds its configuration, opens its store, asks for the
resource or for the pages of the collection, and prints what it gets. `Command.run` says what it
asks of the system around it, and in which order, and how it ends.
-/

set_option autoImplicit false

namespace ConditionalGet.Command

open Program (question)

/-! ## What a run asks for -/

/-- What a run asks of the system around it. -/
inductive Question where
  | files (op : Files.Operation)
  /-- The time. -/
  | now
  /-- Brings a request to its server. -/
  | exchange (request : HttpRequest)
  /-- Tells something on the side. -/
  | notify (notice : Notice)
  | print (text : String)

/-- What each of it answers. -/
def Answer : Question → Type
  | .files op => Except IoFault op.Result
  | .now => Instant
  | .exchange _ => Except TransportFailure HttpResponse
  | .notify _ => Unit
  | .print _ => Unit

/-- The interface between a run and the system around it. -/
def interface : Interface := ⟨Question, Answer⟩

/-- A part of a run. -/
abbrev Action := Program interface

/-- A program on files as a part of a run. -/
def onFiles {α : Type} (p : FileProgram α) : Action α :=
  p.run fun op => question (I := interface) (.files op)

/-- How a run ends. -/
inductive Ending where
  | success
  | failure (failure : Failure)
  /-- The arguments are such that nothing is done. -/
  | refusal (error : ArgumentError)

def Ending.exitCode : Ending → Nat
  | .success => 0
  | .failure _ => 1
  | .refusal error => error.exitCode

/-- What is told at the end. -/
def Ending.report : Ending → String
  | .success => ""
  | .failure f => "Error: " ++ f.report
  | .refusal error => error.message

/-! ## Printing -/

/-- What is printed of a resource: its status, and its body in a readable form if it is JSON. -/
def pageText (r : Resource) : String :=
  "HTTP " ++ toString r.status ++ "\n" ++
    (match r.json with
      | .ok value => value.pretty
      | .error _ => r.body) ++ "\n"

def versionText : String := "forge-fetch 0.1.0\n"

/-- What is printed when help is wanted. -/
def helpText : String :=
  "Fetch JSON resources from a forge REST API, revalidating with ETags\n\n" ++
  "Usage: forge-fetch [OPTIONS] <URL>\n\n" ++
  "Arguments:\n" ++
  "  <URL>  Resource URL to fetch\n\n" ++
  "Options:\n" ++
  "      --all-pages              Follow \x60Link: rel=\"next\"\x60 headers" ++
  " and print every page\n" ++
  "      --max-pages <MAX_PAGES>  Stop after this many pages (implies --all-pages)\n" ++
  "      --token <TOKEN>          Bearer token (falls back to FORGE_TOKEN_<HOST>)" ++
  " [env: FORGE_TOKEN]\n" ++
  "      --no-cache               Send plain GETs without the response cache\n" ++
  "  -h, --help                   Print help\n" ++
  "  -V, --version                Print version\n"

/-! ## Fetching -/

section

variable {m : Type → Type} [Monad m]

/-- The limit on pages where none is given. -/
def noLimit : Nat := 18446744073709551615

/-- Fetches what the arguments name and prints it. A single resource must come with a status of
success; of the pages of a collection each is printed before the next is asked for. -/
def fetch (client : Client m) (print : String → m Unit) (a : Arguments) :
    m (Except Failure Unit) := do
  if !a.allPages && a.maxPages.isNone then
    match ← client (.get a.url) with
    | .error e => return .error e.failure
    | .ok resource => do
      print (pageText resource)
      if resource.isSuccess then return .ok ()
      else
        return .error
          { message := a.url.text ++ " answered with status " ++ toString resource.status }
  else
    let result ← Paging.visit client (fun r => print (pageText r)) (a.maxPages.getD noLimit)
      (Paging.start a.url)
    return result.mapError ClientError.failure

/-- The client that sends a credential, if there is one. -/
def withCredential (client : Client m) : Option Credential → Client m
  | none => client
  | some c => client.authenticated c

end

/-! ## Running -/

/-- Tells something on the side if the level of the log shows it. -/
def tell (level : Level) (n : Notice) : Action Unit :=
  if level.shows n.level then question (I := interface) (.notify n) else pure ()

/-- The client that asks servers. -/
def direct : Client Action :=
  Client.overHttp fun request => question (I := interface) (.exchange request)

/-- Fetches through a store. -/
def fetchThrough (level : Level) (a : Arguments) (credential : Option Credential) :
    Storage → Action (Except Failure Unit)
  | .none =>
    fetch (withCredential direct credential) (fun s => question (I := interface) (.print s)) a
  | .memory =>
    let client : Client (StateT Memory Action) :=
      Client.cached (fun r => direct r) Memory.shared (fun n => tell level n)
    (fetch (withCredential client credential)
      (fun s => question (I := interface) (.print s)) a).run' Table.empty
  | .disk store =>
    let client : Client (StateT DiskStore Action) :=
      Client.cached (fun r => direct r)
        (DiskStore.shared (fun op => question (I := interface) (.files op))
          (question (I := interface) .now) (fun n => tell level n))
        (fun n => tell level n)
    (fetch (withCredential client credential)
      (fun s => question (I := interface) (.print s)) a).run' store

def logLevel (env : Environment) : Level := ((env "RUST_LOG").map Level.ofSetting).getD .info

/-- What is told about a store that has been opened. -/
def opening : Storage → Option Notice
  | .disk store => some (.storeOpened store.dir store.size)
  | _ => none

/-- A run with arguments that can be followed. -/
def runWith (env : Environment) (account : Option String) (a : Arguments) : Action Ending := do
  let level := logLevel env
  let tellAll (n : Option Notice) : Action Unit :=
    match n with
    | some n => tell level n
    | none => pure ()
  let (config, notice) ← onFiles (Config.load env)
  tellAll notice
  match config.http.check with
  | .error e => return .failure ⟨"Failed to build HTTP client", e.message :: e.causes⟩
  | .ok () =>
    tell level .transportReady
    let credential := a.credential? env
    if credential.isNone then tell level .anonymous
    match ← onFiles (Storage.ofConfig config.cache env account a.noCache) with
    | .error failure => return .failure failure
    | .ok storage => do
      tellAll (opening storage)
      match ← fetchThrough level a credential storage with
      | .ok () => return .success
      | .error failure => return .failure failure

/-- A run with the arguments of a command line, in an environment, for a user whose home directory
the system knows as `account`. -/
def run (env : Environment) (account : Option String) (arguments : List String) :
    Action Ending := do
  match Arguments.parse env arguments with
  | .ok a => runWith env account a
  | .error .help => do
    question (I := interface) (.print helpText)
    return .refusal .help
  | .error .version => do
    question (I := interface) (.print versionText)
    return .refusal .version
  | .error error => return .refusal error

/-- The variables that a run looks at. -/
def variableNames (arguments : List String) : List String :=
  let host := (Arguments.parse (fun _ => none) arguments).toOption.bind (·.url.host?)
  ["HOME", "XDG_CACHE_HOME", "RUST_LOG", Environment.tokenVariable] ++
    (host.map Environment.hostVariable).toList

end ConditionalGet.Command
