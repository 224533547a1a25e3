import ConditionalGet.Command
import ConditionalGet.Proofs.Client.Session
import ConditionalGet.Proofs.Files.Faults
import ConditionalGet.Proofs.Store.Course

/-!
# A run of the command and what is around it

`world files` is the environment of a run: its files do as `files` says, and what the clock shows
and the servers answer is left open. It keeps what was sent. The clients of a run are taken apart
here, so that no proof about a run opens them again: `runs_direct` for the one that asks servers,
and `runs_client_get_iff` for the cached one on top of it, whose records are in memory or on disk
(`Backend`). What a run does before it fetches is `setUp` (`runWith_eq`), and nothing is sent in
it (`sent_of_preparing`).
-/

set_option autoImplicit false

namespace ConditionalGet

open Program

namespace Program

variable {I : Interface} {α σ τ : Type}

/-- What is answered further out is answered there for the whole of a program. -/
theorem run_lift {m : Type → Type} [Monad m] [LawfulMonad m]
    (answer : (q : I.Question) → m (I.Answer q)) (p : Program I α) :
    (p.run fun q => (StateT.lift (answer q) : StateT τ m _)) = StateT.lift (p.run answer) := by
  induction p with
  | pure a =>
    refine StateT.ext fun t => ?_
    simp [run]
  | ask q next ih =>
    refine StateT.ext fun t => ?_
    simp only [run, ih, StateT.run_bind, StateT.run_lift, bind_assoc, pure_bind]

/-- A part of the environment that nobody asks stays as it is. -/
theorem runs_frame_iff {step : Answering I σ} {p : Program I α} {a : α} {w w' : σ × τ} :
    Runs (fun w q r w' => step w.1 q r w'.1 ∧ w'.2 = w.2) p w a w' ↔
      Runs step p w.1 a w'.1 ∧ w'.2 = w.2 := by
  induction p generalizing w with
  | pure b => rw [runs_pure_iff, runs_pure_iff, Prod.ext_iff, and_assoc]
  | ask q next ih =>
    simp only [runs_ask_iff, ih]
    constructor
    · rintro ⟨r, w₁, ⟨hq, he⟩, h, he'⟩
      exact ⟨⟨r, w₁.1, hq, h⟩, he'.trans he⟩
    · rintro ⟨⟨r, s₁, hq, h⟩, he⟩
      exact ⟨r, (s₁, w.2), ⟨hq, rfl⟩, h, he⟩

end Program

namespace Command

/-- A request that has gone out to its server, and what has come back. -/
structure Sent where
  request : HttpRequest
  answer : Except TransportFailure HttpResponse

section
variable {φ : Type} (files : Answering Files.interface φ)

/-- The environment of a run (module doc). -/
def world : Answering interface (φ × List Sent)
  | w, .files op, r, w' => files w.1 op r w'.1 ∧ w'.2 = w.2
  | w, .exchange request, r, w' => w' = (w.1, w.2 ++ [⟨request, r⟩])
  | w, .now, _, w' => w' = w
  | w, .notify _, _, w' => w' = w
  | w, .print _, _, w' => w' = w

variable {files} {w w' : φ × List Sent}

/-- Answers file operations by asking for them. -/
def askFiles : (op : Files.interface.Question) → Action (Files.interface.Answer op) :=
  fun op => question (I := interface) (.files op)

theorem via_askFiles : via (world files) askFiles =
    fun w op r w' => files w.1 op r w'.1 ∧ w'.2 = w.2 := by
  funext w op r w'
  exact propext runs_ask_pure_iff

theorem runs_onFiles_iff {α : Type} {p : FileProgram α} {a : α} :
    Runs (world files) (onFiles p) w a w' ↔ Runs files p w.1 a w'.1 ∧ w'.2 = w.2 := by
  have hrun : onFiles p = p.run askFiles := rfl
  rw [hrun, runs_run_iff, via_askFiles]
  exact runs_frame_iff

theorem runs_tell {level : Level} {n : Notice} {u : Unit}
    (h : Runs (world files) (tell level n) w u w') : w' = w := by
  by_cases hs : level.shows n.level
  · have he : tell level n = question (I := interface) (.notify n) := if_pos hs
    exact runs_ask_pure_iff.1 (he ▸ h)
  · have he : tell level n = Pure.pure () := if_neg hs
    exact (runs_pure_iff'.1 (he ▸ h)).2

/-! ## The client that asks servers -/

/-- What comes of a request, and what is sent for it. -/
inductive Sends (request : Request) : Except ClientError Resource → List Sent → Prop
  | unfit {e : ClientError} : HttpRequest.ofRequest request = .error e →
      Sends request (.error e) []
  | unserved {r : HttpRequest} : HttpRequest.ofRequest request = .ok r →
      HttpRequest.isServed r.uri.scheme = false →
      Sends request (.error (.transport (HttpRequest.unserved r.uri))) []
  | failed {r : HttpRequest} {failure : TransportFailure} : HttpRequest.ofRequest request = .ok r →
      HttpRequest.isServed r.uri.scheme = true →
      Sends request (.error (.transport failure)) [⟨r, .error failure⟩]
  | answered {r : HttpRequest} {response : HttpResponse} : HttpRequest.ofRequest request = .ok r →
      HttpRequest.isServed r.uri.scheme = true →
      Sends request (.ok response.resource) [⟨r, .ok response⟩]

theorem runs_direct {request : Request} {x : Except ClientError Resource}
    (h : Runs (world files) (direct request) w x w') :
    ∃ new, Sends request x new ∧ w' = (w.1, w.2 ++ new) := by
  unfold direct Client.overHttp at h
  split at h
  · rename_i e hr
    obtain ⟨rfl, rfl⟩ := runs_pure_iff'.1 h
    exact ⟨[], .unfit hr, by rw [List.append_nil]⟩
  rename_i r hr
  split at h
  · rename_i hserved
    obtain ⟨rfl, rfl⟩ := runs_pure_iff'.1 h
    exact ⟨[], .unserved hr (by simpa using hserved), by rw [List.append_nil]⟩
  rename_i hserved
  have hserved : HttpRequest.isServed r.uri.scheme = true := by simpa using hserved
  obtain ⟨answer, w₁, hask, h⟩ := runs_bind_iff.1 h
  have hw : w₁ = (w.1, w.2 ++ [⟨r, answer⟩]) := runs_ask_pure_iff.1 hask
  cases answer with
  | ok response =>
    obtain ⟨rfl, rfl⟩ := runs_pure_iff'.1 h
    exact ⟨_, .answered hr hserved, hw⟩
  | error failure =>
    obtain ⟨rfl, rfl⟩ := runs_pure_iff'.1 h
    exact ⟨_, .failed hr hserved, hw⟩

end

/-! ## Clients with a credential -/

/-- A credential is that of a request without one. -/
theorem withCredential_apply {m : Type → Type} [Monad m] (client : Client m) (c : Option Credential)
    (request : Request) : withCredential client c request =
      client (request.withCredential (request.credential.or c)) := by
  cases c with
  | none =>
    rw [Option.or_none]
    rfl
  | some c => rfl

/-! ## Cached clients -/

/-- Where a cached client has its records. -/
inductive Backend where
  | memory
  | disk

namespace Backend

def Records : Backend → Type
  | .memory => Memory
  | .disk => DiskStore

/-- The store of a run with these records. -/
def store (level : Level) : (b : Backend) → Store (StateT b.Records Action)
  | .memory => (Memory.shared : Store (StateT Memory Action))
  | .disk => (DiskStore.shared (fun op => question (I := interface) (.files op))
      (question (I := interface) .now) (fun n => tell level n) : Store (StateT DiskStore Action))

/-- The cached client of a run with these records. -/
def client (level : Level) (b : Backend) : Client (StateT b.Records Action) :=
  Client.cached (fun r => direct r) (b.store level) (fun n => tell level n)

variable {φ : Type} {files : Answering Files.interface φ} {w w' : φ × List Sent} {level : Level}

theorem runs_memory_lookup {memory memory' : Memory} {uri : String}
    {x : Except StoreError Lookup}
    (h : Runs (world files) (((store level .memory).lookup uri).run memory) w (x, memory') w') :
    x = .ok (memory.lookup uri) ∧ memory' = memory ∧ w' = w := by
  have hrun : ((store level .memory).lookup uri).run memory =
      Pure.pure (.ok (memory.lookup uri), memory) := rfl
  rw [hrun] at h
  obtain ⟨he, rfl⟩ := runs_pure_iff'.1 h
  obtain ⟨rfl, rfl⟩ := Prod.mk.inj he
  exact ⟨rfl, rfl, rfl⟩

theorem runs_memory_store {memory memory' : Memory} {uri etag body : String}
    {x : Except StoreError Unit}
    (h : Runs (world files) (((store level .memory).store uri etag body).run memory) w
      (x, memory') w') :
    x = .ok () ∧ memory' = memory.store uri etag body ∧ w' = w := by
  have hrun : ((store level .memory).store uri etag body).run memory =
      Pure.pure (.ok (), memory.store uri etag body) := rfl
  rw [hrun] at h
  obtain ⟨he, rfl⟩ := runs_pure_iff'.1 h
  obtain ⟨rfl, rfl⟩ := Prod.mk.inj he
  exact ⟨rfl, rfl, rfl⟩

theorem disk_lookup_run (disk : DiskStore) (uri : String) :
    ((store level .disk).lookup uri).run disk =
      (fun x => (x, disk)) <$> onFiles (disk.lookup uri).run := by
  have hfiles : ((store level .disk).lookup uri).run disk =
      ((disk.lookup uri).run.run fun op =>
        (StateT.lift (askFiles op) : StateT DiskStore Action _)).run disk := rfl
  rw [hfiles, run_lift askFiles]
  rfl

theorem runs_disk_lookup {disk disk' : DiskStore} {uri : String} {x : Except StoreError Lookup}
    (h : Runs (world files) (((store level .disk).lookup uri).run disk) w (x, disk') w') :
    DiskStore.LookedUp files disk uri w.1 x w'.1 ∧ disk' = disk ∧ w'.2 = w.2 := by
  rw [disk_lookup_run] at h
  obtain ⟨y, hrun, he⟩ := runs_map_iff.1 h
  obtain ⟨rfl, rfl⟩ := Prod.mk.inj he
  obtain ⟨hfiles, hsent⟩ := runs_onFiles_iff.1 hrun
  exact ⟨DiskStore.runs_lookup_iff.1 hfiles, rfl, hsent⟩

/-- What is left of storing once the files are written. -/
def told (level : Level) : DiskStore × Except StoreError (Option Notice) →
    Action (Except StoreError Unit × DiskStore)
  | (changed, .error e) => Pure.pure (.error e, changed)
  | (changed, .ok none) => Pure.pure (.ok (), changed)
  | (changed, .ok (some notice)) => do
    tell level notice
    return (.ok (), changed)

theorem runs_told {y : DiskStore × Except StoreError (Option Notice)}
    {z : Except StoreError Unit × DiskStore} (h : Runs (world files) (told level y) w z w') :
    z = (y.2.map fun _ => (), y.1) ∧ w' = w := by
  obtain ⟨changed, e | _ | notice⟩ := y
  · exact runs_pure_iff'.1 h
  · exact runs_pure_iff'.1 h
  · obtain ⟨u, w₁, ht, h⟩ := runs_bind_iff.1 h
    obtain ⟨rfl, rfl⟩ := runs_pure_iff'.1 h
    exact ⟨rfl, runs_tell ht⟩

theorem disk_store_run (disk : DiskStore) (uri etag body : String) :
    ((store level .disk).store uri etag body).run disk =
      (do
        let now ← (question (I := interface) .now : Action Instant)
        let y ← onFiles (disk.store now uri etag body)
        told level y) := by
  refine bind_congr (x := (question (I := interface) .now : Action Instant)) fun now => ?_
  have hfiles : ((disk.store now uri etag body).run fun op =>
      (StateT.lift (askFiles op) : StateT DiskStore Action _)) =
        StateT.lift (onFiles (disk.store now uri etag body)) := run_lift askFiles _
  refine (congrArg (fun p => StateT.run (p >>= _) disk) hfiles).trans ?_
  rw [StateT.run_bind, StateT.run_lift, bind_assoc]
  refine bind_congr fun y => ?_
  rw [pure_bind]
  obtain ⟨changed, e | _ | notice⟩ := y
  · rfl
  · rfl
  · show StateT.run (StateT.lift (tell level notice) >>= fun _ =>
      Pure.pure (.ok () : Except StoreError Unit)) changed = _
    rw [StateT.run_bind, StateT.run_lift, bind_assoc]
    refine bind_congr fun u => ?_
    rw [pure_bind]
    rfl

theorem runs_disk_store {disk disk' : DiskStore} {uri etag body : String}
    {x : Except StoreError Unit}
    (h : Runs (world files) (((store level .disk).store uri etag body).run disk) w (x, disk') w') :
    ∃ now y, DiskStore.Stored files disk now uri etag body w.1 y w'.1 ∧ disk' = y.1 ∧
      x = y.2.map (fun _ => ()) ∧ w'.2 = w.2 := by
  rw [disk_store_run] at h
  obtain ⟨now, w₁, hnow, h⟩ := runs_bind_iff.1 h
  obtain ⟨y, w₂, hrun, h⟩ := runs_bind_iff.1 h
  have hw : w₁ = w := runs_ask_pure_iff.1 hnow
  obtain ⟨hfiles, hsent⟩ := runs_onFiles_iff.1 hrun
  obtain ⟨he, rfl⟩ := runs_told h
  obtain ⟨rfl, rfl⟩ := Prod.mk.inj he
  rw [hw] at hfiles hsent
  exact ⟨now, y, DiskStore.runs_store_iff.1 hfiles, rfl, rfl, hsent⟩

/-! ## Calls through a cached client -/

/-- The client that asks servers, as the cached one has it. -/
def asking (b : Backend) : Client (StateT b.Records Action) := fun request =>
  StateT.lift (direct request)

/-- Answers the questions of a GET through a cached client. -/
def answerCourse (level : Level) (b : Backend) : (q : Revalidation.interface.Question) →
    StateT b.Records Action (Revalidation.interface.Answer q) :=
  b.asking.answerCourse (b.store level) fun n => StateT.lift (tell level n)

/-- The environment of a GET through a cached client: its records, and what is around the run. -/
def behind (level : Level) (files : Answering Files.interface φ) (b : Backend) :
    Answering Revalidation.interface (b.Records × (φ × List Sent)) :=
  viaState (world files) (b.answerCourse level)

variable {b : Backend} {records records' : b.Records} {request : Request}
  {x : Except ClientError Resource}

theorem client_eq_run (request : Request) :
    b.client level request = (Client.decorated request).run (b.answerCourse level) :=
  Client.cached_eq_run b.asking (b.store level) _ request

theorem runs_client_get_iff (hget : request.method = .get) :
    Runs (world files) ((b.client level request).run records) w (x, records') w' ↔
      Revalidation.Got (behind level files b) request (records, w) x (records', w') := by
  rw [client_eq_run, runs_runState_iff, Client.decorated_get hget]
  exact Revalidation.runs_get_iff

theorem behind_send (h : behind level files b (records, w) (.send request) x (records', w')) :
    records' = records ∧ ∃ new, Sends request x new ∧ w' = (w.1, w.2 ++ new) := by
  obtain ⟨hrun, ht⟩ := runs_lift_iff.1 h
  exact ⟨ht, runs_direct hrun⟩

theorem behind_notify {n : Notice} {u : Unit}
    (h : behind level files b (records, w) (.notify n) u (records', w')) :
    records' = records ∧ w' = w := by
  obtain ⟨hrun, ht⟩ := runs_lift_iff.1 h
  exact ⟨ht, runs_tell hrun⟩

/-- Looking something up sends nothing. -/
theorem behind_lookup {uri : String} {r : Except StoreError Lookup}
    (h : behind level files b (records, w) (.lookup uri) r (records', w')) : w'.2 = w.2 := by
  cases b with
  | memory => exact congrArg Prod.snd (runs_memory_lookup h).2.2
  | disk => exact (runs_disk_lookup h).2.2

/-- Putting something on record sends nothing. -/
theorem behind_store {uri etag body : String} {r : Except StoreError Unit}
    (h : behind level files b (records, w) (.store uri etag body) r (records', w')) :
    w'.2 = w.2 := by
  cases b with
  | memory => exact congrArg Prod.snd (runs_memory_store h).2.2
  | disk =>
    obtain ⟨now, y, -, -, -, hsent⟩ := runs_disk_store h
    exact hsent

/-- Putting an answer on record sends nothing, and a resource has the headers of the answer. -/
theorem recorded_quiet {uri : String} {response : Resource}
    (h : Revalidation.Recorded (behind level files b) uri response (records, w) x (records', w')) :
    w'.2 = w.2 ∧ ∀ page, x = .ok page → page.headers = response.headers := by
  cases h with
  | nothing =>
    refine ⟨rfl, ?_⟩
    rintro page ⟨⟩
    rfl
  | stored _ hs =>
    refine ⟨behind_store hs, ?_⟩
    rintro page ⟨⟩
    rfl
  | refused _ hs => exact ⟨behind_store hs, fun _ he => nomatch he⟩

/-- A request that is no GET goes to its server as it is. -/
theorem runs_client_other (hother : request.method ≠ .get)
    (h : Runs (world files) ((b.client level request).run records) w (x, records') w') :
    records' = records ∧ ∃ new, Sends request x new ∧ w' = (w.1, w.2 ++ new) := by
  rw [client_eq_run, runs_runState_iff, Client.decorated_other hother] at h
  exact behind_send (runs_ask_pure_iff.1 h)

end Backend

/-! ## Runs -/

section
variable {φ : Type} {files : Answering Files.interface φ} {w w' : φ × List Sent}
  {env : Environment} {account : Option String} {a : Arguments} {ending : Ending}

/-- How a run ends after it has fetched. -/
def Ending.ofFetched : Except Failure Unit → Ending
  | .ok () => .success
  | .error f => .failure f

/-- A run comes to fetching, with the credential and a store, and nothing is sent before that; or it
fails without sending anything. -/
def Reaches (files : Answering Files.interface φ) (env : Environment) (a : Arguments)
    (w : φ × List Sent) (ending : Ending) (w' : φ × List Sent) : Prop :=
  (w'.2 = w.2 ∧ ∃ failure, ending = .failure failure) ∨
    ∃ storage w₁ x, w₁.2 = w.2 ∧ ending = .ofFetched x ∧
      Runs (world files) (fetchThrough (logLevel env) a (a.credential? env) storage) w₁ x w'

/-- Tells what there is to tell. -/
def tellAll (level : Level) : Option Notice → Action Unit
  | some n => tell level n
  | none => Pure.pure ()

/-- What is left of a run once its store is open, or could not be opened. -/
def onceOpened (env : Environment) (a : Arguments) : Except Failure Storage → Action Ending
  | .error failure => return .failure failure
  | .ok storage => do
    tellAll (logLevel env) (opening storage)
    match ← fetchThrough (logLevel env) a (a.credential? env) storage with
    | .ok () => return .success
    | .error failure => return .failure failure

/-- What is told of a store once it is open. -/
def announced (level : Level) : Except Failure Storage → Action (Except Failure Storage)
  | .error failure => return .error failure
  | .ok storage => do
    tellAll level (opening storage)
    return .ok storage

/-- What a run does before it fetches: it finds its configuration and opens its store. -/
def setUp (env : Environment) (account : Option String) (credential : Option Credential)
    (noCache : Bool) : Action (Except Failure Storage) := do
  let (config, notice) ← onFiles (Config.load env)
  tellAll (logLevel env) notice
  match config.http.check with
  | .error e => return .error ⟨"Failed to build HTTP client", e.message :: e.causes⟩
  | .ok () =>
    tell (logLevel env) .transportReady
    if credential.isNone then tell (logLevel env) .anonymous
    announced (logLevel env) (← onFiles (Storage.ofConfig config.cache env account noCache))

/-- What is left of a run that is set up. -/
def onceSetUp (env : Environment) (a : Arguments) : Except Failure Storage → Action Ending
  | .error failure => return .failure failure
  | .ok storage => Ending.ofFetched <$> fetchThrough (logLevel env) a (a.credential? env) storage

theorem onceOpened_eq (env : Environment) (a : Arguments) (opened : Except Failure Storage) :
    onceOpened env a opened = announced (logLevel env) opened >>= onceSetUp env a := by
  cases opened with
  | error failure => rfl
  | ok storage =>
    rw [announced, bind_assoc]
    refine bind_congr fun _ => ?_
    refine Eq.trans (bind_congr fun x => ?_) (LawfulMonad.bind_pure_comp _ _)
    cases x <;> rfl

/-- A run is set up, and what is left of it follows. -/
theorem runWith_eq (env : Environment) (account : Option String) (a : Arguments) :
    runWith env account a =
      setUp env account (a.credential? env) a.noCache >>= onceSetUp env a := by
  unfold runWith setUp
  rw [bind_assoc]
  refine bind_congr fun ⟨config, notice⟩ => ?_
  refine Eq.trans ?_ (bind_assoc _ _ _).symm
  refine congr (congrArg Bind.bind ?_) (funext fun _ => ?_)
  · cases notice <;> rfl
  cases config.http.check with
  | error e => rfl
  | ok u =>
    refine Eq.trans ?_ (bind_assoc _ _ _).symm
    refine bind_congr fun _ => ?_
    dsimp only
    cases (a.credential? env).isNone with
    | true =>
      refine Eq.trans (bind_congr fun _ => ?_) (bind_assoc _ _ _).symm
      refine Eq.trans (bind_congr fun opened => ?_) (bind_assoc _ _ _).symm
      cases opened with
      | error failure => exact onceOpened_eq env a (.error failure)
      | ok storage => exact onceOpened_eq env a (.ok storage)
    | false =>
      refine Eq.trans (bind_congr fun opened => ?_) (bind_assoc _ _ _).symm
      cases opened with
      | error failure => exact onceOpened_eq env a (.error failure)
      | ok storage => exact onceOpened_eq env a (.ok storage)

/-- What is asked before anything is fetched: about files, and something is told. -/
inductive Preparing : interface.Question → Prop
  | files (op : Files.Operation) : Preparing (.files op)
  | notify (n : Notice) : Preparing (.notify n)

theorem preparing_onFiles {α : Type} (p : FileProgram α) : (onFiles p).AsksOnly Preparing := by
  have hrun : onFiles p = p.run askFiles := rfl
  have hask : ∀ op, (askFiles op).AsksOnly Preparing := fun op => asksOnly_ask_pure (.files op)
  rw [hrun]
  exact asksOnly_run hask p

theorem preparing_tell (level : Level) (n : Notice) : (tell level n).AsksOnly Preparing := by
  by_cases hs : level.shows n.level
  · have he : tell level n = question (I := interface) (.notify n) := if_pos hs
    rw [he]
    exact asksOnly_ask_pure (.notify n)
  · have he : tell level n = Pure.pure () := if_neg hs
    rw [he]
    trivial

theorem preparing_tellAll (level : Level) (n : Option Notice) :
    (tellAll level n).AsksOnly Preparing := by
  cases n with
  | some n => exact preparing_tell level n
  | none => trivial

theorem preparing_announced (level : Level) (opened : Except Failure Storage) :
    (announced level opened).AsksOnly Preparing := by
  cases opened with
  | error failure => trivial
  | ok storage => exact (preparing_tellAll level _).bind fun _ => trivial

theorem preparing_setUp (env : Environment) (account : Option String)
    (credential : Option Credential) (noCache : Bool) :
    (setUp env account credential noCache).AsksOnly Preparing := by
  refine (preparing_onFiles _).bind fun ⟨config, notice⟩ =>
    (preparing_tellAll _ notice).bind fun _ => ?_
  dsimp only
  split
  · trivial
  · refine (preparing_tell _ _).bind fun _ => ?_
    have hopening : ∀ c : CacheConfig, (onFiles (Storage.ofConfig c env account noCache) >>=
        announced (logLevel env)).AsksOnly Preparing := fun c =>
      (preparing_onFiles _).bind (preparing_announced _)
    split
    · exact (preparing_tell _ _).bind fun _ => hopening _
    · exact hopening _

/-- Nothing is sent by a run that prepares itself. -/
theorem sent_of_preparing {α : Type} {p : Action α} (hp : p.AsksOnly Preparing) {x : α}
    (h : Runs (world files) p w x w') : w'.2 = w.2 := by
  refine hp.invariant (R := fun v => v.2 = w.2) ?_ h rfl
  rintro v q r v' (op | n) hv hstep
  · exact hstep.2.trans hv
  · rw [show v' = v from hstep]
    exact hv

theorem runs_runWith (h : Runs (world files) (runWith env account a) w ending w') :
    Reaches files env a w ending w' := by
  rw [runWith_eq, runs_bind_iff] at h
  obtain ⟨opened, w₁, hset, hrest⟩ := h
  have hsent := sent_of_preparing (preparing_setUp env account _ _) hset
  cases opened with
  | error failure =>
    obtain ⟨rfl, rfl⟩ := runs_pure_iff'.1 hrest
    exact .inl ⟨hsent, failure, rfl⟩
  | ok storage =>
    obtain ⟨x, hfetch, rfl⟩ := runs_map_iff.1 hrest
    exact .inr ⟨storage, w₁, x, hsent, rfl, hfetch⟩

theorem runs_run {arguments : List String} (hargs : Arguments.parse env arguments = .ok a)
    (h : Runs (world files) (run env account arguments) w ending w') :
    Reaches files env a w ending w' := by
  simp only [run, hargs] at h
  exact runs_runWith h

end

/-! ### Servers with fixed answers -/

theorem isDate_midnight : isDate 1970 1 1 = true := by decide

theorem isTime_midnight : isTime 0 0 0 0 = true := by decide

def midnight : Instant :=
  { date := ⟨1970, 1, 1, isDate_midnight⟩, hour := 0, minute := 0, second := 0, nanos := 0,
    valid := isTime_midnight }

/-- The files are in a tree, the clock stands still, and a request is answered by what it is. -/
def serving (page : HttpRequest → HttpResponse) :
    (q : interface.Question) → StateM (Tree × List Sent) (interface.Answer q)
  | .files op => fun w => ((w.1.perform op).1, ((w.1.perform op).2, w.2))
  | .now => Pure.pure midnight
  | .exchange r => do
    modify fun w => (w.1, w.2 ++ [⟨r, .ok (page r)⟩])
    return Except.ok (page r)
  | .notify _ => Pure.pure ()
  | .print _ => Pure.pure ()

theorem world_of_serving {page : HttpRequest → HttpResponse} {w w' : Tree × List Sent}
    {q : interface.Question} {r : interface.Answer q} (h : answering (serving page) w q r w') :
    world Tree.faulty w q r w' := by
  cases q with
  | files op =>
    cases h
    exact ⟨.inl rfl, rfl⟩
  | now =>
    cases h
    rfl
  | exchange request =>
    cases h
    rfl
  | notify =>
    cases h
    rfl
  | print =>
    cases h
    rfl

theorem runs_serving {α : Type} {page : HttpRequest → HttpResponse} (p : Action α)
    {w : Tree × List Sent} {out : α × (Tree × List Sent)}
    (h : (p.run (serving page)).run w = out) :
    Runs (world Tree.faulty) p w out.1 (out.2.1, out.2.2) := by
  have hrun : Runs (answering (serving page)) p w out.1 out.2 := runs_answer_iff.2 h
  exact hrun.mono fun _ _ _ _ => world_of_serving

end Command

end ConditionalGet
