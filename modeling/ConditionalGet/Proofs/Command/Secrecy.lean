import ConditionalGet.Proofs.Command.Following
import ConditionalGet.Proofs.Command.Tokens

/-!
# What a run gives away of its token

`watching` keeps all that a run asks for and is answered, but for the value of the header
`Authorization`. An environment that does not look at that value (`Blind`) leads a run to the same
end, by the same questions and answers, whatever the token is (`token_unseen`), as long as it can be
sent or cannot be sent like the other one.

The proof compares the two runs as programs. `Indistinct` programs ask the same questions once the
values of the header are taken away; a run depends on its token by the header alone, and where
programs are put together from indistinct parts, the whole is indistinct.
-/

set_option autoImplicit false

namespace ConditionalGet

open Program Revalidation

/-! ## Taking the token away -/

/-- What stands for a value that is not to be seen. -/
def FieldValue.unseen : FieldValue := { bytes := [], sensitive := true, valid := rfl }

/-- The fields without the value of the header `Authorization`. -/
def Fields.veiled (fs : Fields) : Fields :=
  ⟨fs.list.map fun f => if f.1 = .authorization then (f.1, .unseen) else f⟩

/-- The request without the value of its header `Authorization`. -/
def HttpRequest.veiled (r : HttpRequest) : HttpRequest := { r with headers := r.headers.veiled }

theorem Fields.veiled_veiled (fs : Fields) : fs.veiled.veiled = fs.veiled := by
  simp only [veiled, List.map_map]
  refine congrArg Fields.mk (List.map_congr_left fun f _ => ?_)
  by_cases h : f.1 = .authorization <;> simp [h]

theorem HttpRequest.veiled_veiled (r : HttpRequest) : r.veiled.veiled = r.veiled := by
  simp only [veiled, Fields.veiled_veiled]

namespace Program

variable {I J : Interface} {α : Type}

/-- Answers by programs that are answered in turn. -/
theorem run_run {m : Type → Type} [Monad m] [LawfulMonad m]
    (inner : (q : I.Question) → Program J (I.Answer q))
    (outer : (q : J.Question) → m (J.Answer q)) (p : Program I α) :
    (p.run inner).run outer = p.run fun q => (inner q).run outer := by
  induction p with
  | pure a => rfl
  | ask q next ih =>
    show (inner q >>= fun r => (next r).run inner).run outer = _
    rw [run_bind]
    exact bind_congr ih

end Program

namespace Command

/-! ## What is seen -/

/-- A question and its answer without the value of the header `Authorization`. -/
def seen : Turn interface → Turn interface
  | ⟨.exchange r, x⟩ => ⟨.exchange r.veiled, x⟩
  | turn => turn

section
variable {σ : Type} (answer : (q : interface.Question) → StateM σ (interface.Answer q))

/-- An environment that answers a request whatever the value of its header `Authorization`. -/
def Blind : Prop :=
  ∀ r r' : HttpRequest, r.veiled = r'.veiled → answer (.exchange r) = answer (.exchange r')

/-- The environment that also keeps what is seen of a run. -/
def watching : (q : interface.Question) → StateM (σ × List (Turn interface)) (interface.Answer q) :=
  fun q w =>
    let y := answer q w.1
    (y.1, (y.2, w.2 ++ [seen ⟨q, y.1⟩]))

/-- How a run ends, what is around it then, and what is seen of it. -/
def watched (env : Environment) (account : Option String) (arguments : List String) (s : σ) :
    Ending × (σ × List (Turn interface)) :=
  ((run env account arguments).run (watching answer)).run (s, [])

end

/-! ## Programs that look the same -/

/-- Asks without the value of the header `Authorization`. -/
def veil : (q : interface.Question) → Action (interface.Answer q)
  | .exchange r => question (I := interface) (.exchange r.veiled)
  | .files op => question (I := interface) (.files op)
  | .now => question (I := interface) .now
  | .notify notice => question (I := interface) (.notify notice)
  | .print text => question (I := interface) (.print text)

/-- Programs that are the same once the values of the header `Authorization` are taken away. -/
def Indistinct {α : Type} (p p' : Action α) : Prop := p.run veil = p'.run veil

section
variable {α β τ : Type} {p p' : Action α}

theorem Indistinct.refl (p : Action α) : Indistinct p p := rfl

theorem Indistinct.bind (h : Indistinct p p') {f f' : α → Action β}
    (hf : ∀ a, Indistinct (f a) (f' a)) : Indistinct (p >>= f) (p' >>= f') := by
  unfold Indistinct
  rw [run_bind, run_bind, h]
  exact bind_congr hf

/-- A program whose questions are answered by programs that look the same. -/
theorem Indistinct.run {I : Interface} {f f' : (q : I.Question) → Action (I.Answer q)}
    (h : ∀ q, Indistinct (f q) (f' q)) (p : Program I α) : Indistinct (p.run f) (p.run f') := by
  unfold Indistinct
  rw [run_run, run_run]
  exact congrArg (fun g => p.run g) (funext h)

/-- And one whose answers have a state of their own. -/
theorem Indistinct.runState {I : Interface}
    {f f' : (q : I.Question) → StateT τ Action (I.Answer q)}
    (h : ∀ q t, Indistinct ((f q).run t) ((f' q).run t)) (p : Program I α) (t : τ) :
    Indistinct ((p.run f).run t) ((p.run f').run t) := by
  induction p generalizing t with
  | pure a => exact .refl _
  | ask q next ih =>
    show Indistinct ((f q >>= fun r => (next r).run f).run t)
      ((f' q >>= fun r => (next r).run f').run t)
    rw [StateT.run_bind, StateT.run_bind]
    exact (h q t).bind fun y => ih y.1 y.2

end

section
variable {σ α : Type} {answer : (q : interface.Question) → StateM σ (interface.Answer q)}
  {p p' : Action α}

theorem seen_veiled (r : HttpRequest) (x : Except TransportFailure HttpResponse) :
    seen ⟨.exchange r.veiled, x⟩ = seen ⟨.exchange r, x⟩ :=
  congrArg (fun r => (⟨.exchange r, x⟩ : Turn interface)) r.veiled_veiled

theorem watching_exchange (hblind : Blind answer) (r : HttpRequest) :
    watching answer (.exchange r.veiled) = watching answer (.exchange r) := by
  funext w
  have hanswer := congrFun (hblind r.veiled r r.veiled_veiled) w.1
  unfold watching
  rw [hanswer]
  exact congrArg (fun turn => (_, (_, w.2 ++ [turn]))) (seen_veiled r _)

/-- Where nothing looks at the header, it makes no difference if its values are taken away. -/
theorem run_veil (hblind : Blind answer) (p : Action α) :
    (p.run veil).run (watching answer) = p.run (watching answer) := by
  rw [run_run]
  refine congrArg (fun g => p.run g) (funext fun q => ?_)
  cases q with
  | exchange r =>
    exact (run_question (watching answer) (.exchange r.veiled)).trans (watching_exchange hblind r)
  | files op => exact run_question (watching answer) (.files op)
  | now => exact run_question (watching answer) .now
  | notify notice => exact run_question (watching answer) (.notify notice)
  | print text => exact run_question (watching answer) (.print text)

theorem Indistinct.watched (h : Indistinct p p') (hblind : Blind answer) :
    p.run (watching answer) = p'.run (watching answer) := by
  rw [← run_veil hblind p, ← run_veil hblind p', h]

end

/-! ## Clients with one token and with another -/

/-- A token can be sent as a credential if it can be sent by itself. -/
theorem isSome_bearer (token : String) :
    (FieldValue.ofString? ("Bearer " ++ token)).isSome = (FieldValue.ofString? token).isSome := by
  have hscheme : (Text.bytes "Bearer ").all isValueByte = true := by decide +kernel
  rw [FieldValue.isSome_ofString?, FieldValue.isSome_ofString?, Text.bytes_append, List.all_append, hscheme, Bool.true_and]

/-- A token that can be sent is the value of the header, and another one is refused. -/
theorem field_bearer (token : String) :
    ((FieldValue.ofString? token).isSome = true ∧
      ∃ value, (Credential.bearer token).field = .ok (.authorization, value)) ∨
    ((FieldValue.ofString? token).isSome = false ∧
      (Credential.bearer token).field = .error .value) := by
  have hname : FieldName.ofString? "Authorization" = some .authorization := by decide +kernel
  rw [← isSome_bearer]
  unfold Credential.field Credential.bearer
  rw [hname]
  dsimp only
  cases FieldValue.ofString? ("Bearer " ++ token) with
  | none => exact .inr ⟨rfl, rfl⟩
  | some value => exact .inl ⟨rfl, _, rfl⟩

theorem fields_bearer (headers : Fields) (token : String) :
    ((FieldValue.ofString? token).isSome = true ∧
      ∃ value, HttpRequest.fields headers (some (.bearer token)) =
        .ok (((Fields.empty.append .accept HttpRequest.acceptJson).extend headers).insert
          .authorization value)) ∨
    ((FieldValue.ofString? token).isSome = false ∧
      HttpRequest.fields headers (some (.bearer token)) =
        .error (.invalidHeader "Authorization" .value)) := by
  obtain ⟨hsome, value, hf⟩ | ⟨hnone, hf⟩ := field_bearer token
  · refine .inl ⟨hsome, value, ?_⟩
    unfold HttpRequest.fields
    dsimp only
    rw [hf]
  · refine .inr ⟨hnone, ?_⟩
    unfold HttpRequest.fields
    dsimp only
    rw [hf]
    rfl

theorem veiled_insert (fs : Fields) (value : FieldValue) :
    (fs.insert .authorization value).veiled =
      ⟨(fs.remove .authorization).veiled.list ++ [(.authorization, .unseen)]⟩ := by
  simp [Fields.insert, Fields.append, Fields.veiled]

/-- The fields of a request with one credential and with another. -/
theorem fields_alike {c c' : Option Credential} (h : Credential.Alike c c') (headers : Fields) :
    (∃ e, HttpRequest.fields headers c = .error e ∧ HttpRequest.fields headers c' = .error e) ∨
      ∃ fs fs', HttpRequest.fields headers c = .ok fs ∧ HttpRequest.fields headers c' = .ok fs' ∧
        fs.veiled = fs'.veiled := by
  cases h with
  | same =>
    cases hf : HttpRequest.fields headers c with
    | error e => exact .inl ⟨e, rfl, rfl⟩
    | ok fs => exact .inr ⟨fs, fs, rfl, rfl, rfl⟩
  | @tokens s t hs =>
    obtain ⟨hsome, value, hf⟩ | ⟨hnone, hf⟩ := fields_bearer headers s
    · obtain ⟨-, value', hf'⟩ | ⟨hnone, -⟩ := fields_bearer headers t
      · exact .inr ⟨_, _, hf, hf', by rw [veiled_insert, veiled_insert]⟩
      · rw [hs, hnone] at hsome
        cases hsome
    · obtain ⟨hsome, -⟩ | ⟨-, hf'⟩ := fields_bearer headers t
      · rw [hs, hsome] at hnone
        cases hnone
      · exact .inl ⟨_, hf, hf'⟩

/-- Brings a request to its server. -/
def sendOut (r : HttpRequest) : Action (Except TransportFailure HttpResponse) :=
  question (I := interface) (.exchange r)

theorem indistinct_sendOut {r r' : HttpRequest} (h : r.veiled = r'.veiled) :
    Indistinct (sendOut r) (sendOut r') := by
  have hrun : ∀ r, (sendOut r).run veil = sendOut r.veiled :=
    fun r => run_question veil (.exchange r)
  unfold Indistinct
  rw [hrun, hrun, h]

theorem indistinct_direct {c c' : Option Credential} (h : Credential.Alike c c')
    (request : Request) :
    Indistinct (direct (request.withCredential c)) (direct (request.withCredential c')) := by
  unfold direct Client.overHttp HttpRequest.ofRequest Request.withCredential
  dsimp only
  obtain ⟨e, he, he'⟩ | ⟨fs, fs', hfs, hfs', hveiled⟩ := fields_alike h request.headers
  · simp only [he, he']
    exact .refl _
  · simp only [hfs, hfs']
    show Indistinct (if !HttpRequest.isServed request.uri.scheme then _ else sendOut _ >>= _)
      (if !HttpRequest.isServed request.uri.scheme then _ else sendOut _ >>= _)
    split
    · exact .refl _
    · refine (indistinct_sendOut ?_).bind fun x => .refl _
      simp only [HttpRequest.veiled, hveiled]

/-! ### Through a cached client -/

/-- Sends requests with this credential. -/
def carrying (c : Option Credential) : (q : Revalidation.interface.Question) →
    Program Revalidation.interface (Revalidation.interface.Answer q)
  | .send request => question (I := Revalidation.interface) (.send (request.withCredential c))
  | .lookup uri => question (I := Revalidation.interface) (.lookup uri)
  | .store uri etag body => question (I := Revalidation.interface) (.store uri etag body)
  | .notify notice => question (I := Revalidation.interface) (.notify notice)

/-- A part of a GET, sent with this credential. -/
def carry {α : Type} (c : Option Credential) (p : Course α) : Course α :=
  ExceptT.mk (p.run.run (carrying c))

section
variable {α β : Type} (c : Option Credential)

theorem carry_bind (p : Course α) (f : α → Course β) :
    carry c (p >>= f) = carry c p >>= fun a => carry c (f a) := by
  refine ExceptT.ext ?_
  show (p.run >>= ExceptT.bindCont f).run (carrying c) =
    p.run.run (carrying c) >>= ExceptT.bindCont fun a => carry c (f a)
  rw [run_bind]
  refine bind_congr fun x => ?_
  cases x with
  | error e => rfl
  | ok a => rfl

theorem carry_remember (uri : String) (response : Resource) :
    carry c (remember uri response) = remember uri response := by
  unfold remember
  split
  · rfl
  · split
    · rfl
    · rfl

theorem carry_exchange (request : Request) :
    carry c (exchange request) = exchange (request.withCredential c) := by
  unfold exchange
  rw [carry_bind]
  refine bind_congr (x := send (request.withCredential c)) fun response => ?_
  rw [carry_bind, carry_remember]
  rfl

theorem carry_settle (request : Request) (found : Lookup) (response : Resource) :
    carry c (settle request found response) =
      settle (request.withCredential c) found response := by
  unfold settle
  split
  · rw [carry_bind, carry_remember]
    rfl
  · split
    · rfl
    · rw [carry_bind, carry_exchange]
      rfl

/-- The credential of a GET is that of each request it sends, and nothing else. -/
theorem carry_get (request : Request) :
    carry c (Revalidation.get request) = Revalidation.get (request.withCredential c) := by
  unfold Revalidation.get
  rw [carry_bind]
  refine bind_congr (x := lookup request.uri.text) fun found => ?_
  cases found.etag? with
  | none => exact carry_exchange c request
  | some etag =>
    dsimp only
    cases FieldValue.ofString? etag with
    | none =>
      dsimp only
      rw [carry_bind, carry_exchange]
      rfl
    | some validator =>
      dsimp only
      rw [carry_bind]
      exact bind_congr fun response => carry_settle c request found response

theorem decorated_carrying (request : Request) :
    Client.decorated (request.withCredential c) =
      (Client.decorated request).run (carrying c) := by
  by_cases h : request.method = .get
  · have hget : (request.withCredential c).method = .get := h
    rw [Client.decorated_get h, Client.decorated_get hget, ← carry_get]
    rfl
  · have hother : (request.withCredential c).method ≠ .get := h
    rw [Client.decorated_other h, Client.decorated_other hother]
    rfl

end

section
variable {c c' : Option Credential} {level : Level}

theorem indistinct_client (h : Credential.Alike c c') (b : Backend) (request : Request)
    (records : b.Records) :
    Indistinct ((b.client level (request.withCredential c)).run records)
      ((b.client level (request.withCredential c')).run records) := by
  have hclient : ∀ c, b.client level (request.withCredential c) =
      (Client.decorated request).run fun q => (carrying c q).run (b.answerCourse level) := by
    intro c
    rw [Backend.client_eq_run, decorated_carrying, run_run]
  rw [hclient, hclient]
  refine Indistinct.runState (fun q t => ?_) (Client.decorated request) records
  cases q with
  | send r =>
    have hsend : ∀ c, (carrying c (.send r)).run (b.answerCourse level) =
        StateT.lift (direct (r.withCredential c)) :=
      fun c => run_question (b.answerCourse level) (.send (r.withCredential c))
    rw [hsend, hsend]
    exact (indistinct_direct h r).bind fun x => .refl _
  | lookup uri => exact .refl _
  | store uri etag body => exact .refl _
  | notify notice => exact .refl _

/-! ## Runs with one token and with another -/

theorem indistinct_getter (h : Credential.Alike c c') (storage : Storage) (request : Request)
    (kept : Records storage) : Indistinct ((getter level c storage request).run kept)
      ((getter level c' storage request).run kept) := by
  have halike := (Credential.Alike.same request.credential).or h
  rw [@getter_apply level c, @getter_apply level c']
  cases storage with
  | none => exact (indistinct_direct halike request).bind fun y => .refl _
  | memory => exact indistinct_client halike .memory request kept
  | disk store => exact indistinct_client halike .disk request kept

theorem indistinct_fetchThrough (h : Credential.Alike c c') (a : Arguments) (storage : Storage) :
    Indistinct (fetchThrough level a c storage) (fetchThrough level a c' storage) := by
  rw [fetchThrough_eq, fetchThrough_eq]
  refine (Indistinct.runState (fun q t => ?_) (fetching a) _).bind fun y => .refl _
  cases q with
  | get request => exact indistinct_getter h storage request t
  | print text => exact .refl _

end

section
variable {a b : String} {env env' : Environment} {arguments arguments' : List String}
  {account : Option String}

theorem Begins.logLevel_eq (h : Begins a b env arguments env' arguments') :
    logLevel env' = logLevel env := by
  unfold logLevel
  rw [h.others "RUST_LOG" (by simp)]

theorem Begins.load_eq (h : Begins a b env arguments env' arguments') :
    Config.load env' = Config.load env := by
  unfold Config.load Config.candidates
  rw [h.others "HOME" (by simp)]

theorem Begins.ownCache?_eq (h : Begins a b env arguments env' arguments') :
    env'.ownCache? account = env.ownCache? account := by
  unfold Environment.ownCache? Environment.cacheHome? Environment.home?
  rw [h.others "HOME" (by simp), h.others "XDG_CACHE_HOME" (by simp)]

theorem Begins.ofConfig_eq (h : Begins a b env arguments env' arguments') (c : CacheConfig)
    (noCache : Bool) :
    Storage.ofConfig c env' account noCache = Storage.ofConfig c env account noCache := by
  unfold Storage.ofConfig CacheConfig.resolveDir Directories.responses Directories.cache
  rw [h.ownCache?_eq]

/-- Fetching does not look at the token of the command line. -/
theorem fetchThrough_token (level : Level) (base : Arguments) (u v : Option String)
    (c : Option Credential) (storage : Storage) :
    fetchThrough level { base with token := u } c storage =
      fetchThrough level { base with token := v } c storage := by
  cases storage <;> rfl

theorem Begins.setUp_eq (h : Begins a b env arguments env' arguments') {c c' : Option Credential}
    (hc : Credential.Alike c c') (noCache : Bool) :
    setUp env' account c' noCache = setUp env account c noCache := by
  unfold setUp
  simp only [h.logLevel_eq, h.load_eq, h.ofConfig_eq, hc.isNone_eq]

theorem Begins.indistinct_runWith (hab : Interchangeable a b)
    (h : Begins a b env arguments env' arguments') (base : Arguments) {u v : Option String}
    (huv : Instead a b u v) :
    Indistinct (runWith env account { base with token := u })
      (runWith env' account { base with token := v }) := by
  have hc := h.credential hab base huv
  rw [runWith_eq, runWith_eq, h.setUp_eq hc]
  refine (Indistinct.refl _).bind fun opened => ?_
  cases opened with
  | error failure => exact .refl _
  | ok storage =>
    simp only [onceSetUp, h.logLevel_eq]
    rw [fetchThrough_token _ _ u v]
    exact (indistinct_fetchThrough hc _ storage).bind fun x => .refl _

theorem Begins.indistinct (hab : Interchangeable a b)
    (h : Begins a b env arguments env' arguments') :
    Indistinct (run env account arguments) (run env' account arguments') := by
  have hparsed := h.parsed
  unfold run
  generalize Arguments.parse env arguments = x at hparsed ⊢
  generalize Arguments.parse env' arguments' = x' at hparsed ⊢
  cases hparsed with
  | failed e => cases e <;> exact .refl _
  | read base huv => exact h.indistinct_runWith hab base huv

/-- **A token shows nowhere but in the header that it is sent in.** Whatever a run is told to do,
and in any environment that does not look at the header `Authorization`: with another token in place
of one, on the command line or in a variable, a run ends in the same way, leaves the same behind,
and asks for and is answered the same, but for the value of that header, if of the two tokens
without the blanks around them both can be sent or neither. -/
theorem token_unseen {σ : Type} {answer : (q : interface.Question) → StateM σ (interface.Answer q)}
    (hblind : Blind answer) (hab : Interchangeable a b)
    (hswapped : Swapped a b env arguments env' arguments') (account : Option String) (s : σ) :
    watched answer env account arguments s = watched answer env' account arguments' s :=
  congrFun ((hswapped.begins.indistinct hab).watched hblind) (s, [])

end

/-! ### A collection that is fetched with a token -/

namespace Unseen

open Elsewhere (page)

/-- The pages of a collection, which anybody is sent, and a tree of files. -/
def hosting : (q : interface.Question) → StateM Tree (interface.Answer q)
  | .files op => fun t => t.perform op
  | .now => Pure.pure midnight
  | .exchange r => Pure.pure (.ok (page r))
  | .notify _ => Pure.pure ()
  | .print _ => Pure.pure ()

/-- The command is told to fetch a collection with a token. -/
def arguments (token : String) : List String :=
  ["--all-pages", "--no-cache"] ++ ("--token=" ++ token) :: ["http://[2001:db8::1]/"]

def env : Environment := fun _ => none

/-- What is seen of the run. -/
def seenWith (token : String) : Ending × (Tree × List (Turn interface)) :=
  watched hosting env none (arguments token) Tree.empty

/-- The requests among some turns. -/
def requests (turns : List (Turn interface)) : List HttpRequest :=
  turns.filterMap fun
    | ⟨.exchange r, _⟩ => some r
    | _ => none

theorem blind_hosting : Blind hosting := by
  intro r r' h
  have huri : r.uri = r'.uri :=
    show r.veiled.uri = r'.veiled.uri from congrArg HttpRequest.uri h
  have hpage : page r = page r' := by
    unfold page
    rw [huri]
  show Pure.pure (Except.ok (page r) : Except TransportFailure HttpResponse) = _
  rw [hpage]
  rfl

theorem swapped (a b : String) : Swapped a b env (arguments a) env (arguments b) :=
  .option (by decide)

theorem interchangeable : Interchangeable "t" "u" where
  left := by decide +kernel
  right := by decide +kernel
  sendable := by decide +kernel

/-- Two pages are fetched with one token or the other, and nobody can tell which. -/
theorem token_unseen_pages :
    Blind hosting ∧ Interchangeable "t" "u" ∧
      Swapped "t" "u" env (arguments "t") env (arguments "u") ∧
      seenWith "t" = seenWith "u" ∧ (requests (seenWith "t").2.2).length = 2 := by
  refine ⟨blind_hosting, interchangeable, swapped _ _, ?_, by decide +kernel⟩
  exact token_unseen blind_hosting interchangeable (swapped "t" "u") none Tree.empty

/-- Neither token can be sent as it is, but one of them can without the line break at its end. -/
theorem line_break_seen :
    Text.isAllBlank "abc\n" = false ∧ Text.isAllBlank "a\nb" = false ∧
      (FieldValue.ofString? "abc\n").isSome = (FieldValue.ofString? "a\nb").isSome ∧
      Blind hosting ∧ Swapped "abc\n" "a\nb" env (arguments "abc\n") env (arguments "a\nb") ∧
      seenWith "abc\n" ≠ seenWith "a\nb" := by
  refine ⟨by decide +kernel, by decide +kernel, by decide +kernel, blind_hosting, swapped _ _, ?_⟩
  intro h
  have hcodes : (seenWith "abc\n").1.exitCode ≠ (seenWith "a\nb").1.exitCode := by decide +kernel
  exact hcodes (congrArg (fun o => o.1.exitCode) h)

end Unseen

end Command

end ConditionalGet
