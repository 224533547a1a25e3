import ConditionalGet.Proofs.Client.Session

/-!
# A cache that cannot be seen

`Server.Honest` says what makes a server honest about validators: it answers 304 exactly when a GET
carries the validator of the page it would otherwise send, and pages of one URI with one validator
have one body. A server may answer by anything else too: a `Moment` stands for the time, for the
requests before, for whatever the connection adds. `against` is the environment of such a server, a
transport that may fail, and a store that knows nothing but what it was given and may forget it.

The invariant is `Genuine`: whatever was stored for a URI is a validator and a body that the server
itself sent for it. It holds in every session (`Session.Reachable.genuine`), and with it every
GET brings status and body of what the server would have sent at that moment
(`get_transparent`).
-/

set_option autoImplicit false

namespace ConditionalGet

open Revalidation Program

/-! ## Servers -/

abbrev Server (Moment : Type) := Moment → Request → Resource

/-- The request carries one validator, and it is `etag`. -/
def Request.Carries (request : Request) (etag : String) : Prop :=
  (request.headers.values .ifNoneMatch).map FieldValue.bytes = [Text.bytes etag]

instance (request : Request) (etag : String) : Decidable (request.Carries etag) :=
  inferInstanceAs (Decidable (_ = _))

/-- The server is honest about validators (module doc). -/
structure Server.Honest {Moment : Type} (server : Server Moment) : Prop where
  notModified_iff : ∀ m request, request.method = .get →
    ((server m request).status = statusNotModified ↔
      (server m (unconditional request)).status = statusOk ∧
        ∃ etag, (server m (unconditional request)).etag? = some etag ∧ request.Carries etag)
  /-- What is no 304 is what would be sent anyway. -/
  otherwise : ∀ m request, request.method = .get →
    (server m request).status ≠ statusNotModified →
    (server m request).status = (server m (unconditional request)).status ∧
      (server m request).body = (server m (unconditional request)).body
  body_eq : ∀ m m' request request', request.method = .get → request'.method = .get →
    request.uri.text = request'.uri.text →
    (server m request).status = statusOk → (server m' request').status = statusOk →
    ∀ etag, (server m request).etag? = some etag → (server m' request').etag? = some etag →
    (server m request).body = (server m' request').body

/-! ## The environment -/

/-- What a history records. -/
inductive Event (Moment : Type) where
  | sent (moment : Moment) (request : Request) (answer : Except ClientError Resource)
  | stored (uri etag body : String)

/-- What happened so far, the latest last. -/
abbrev History (Moment : Type) := List (Event Moment)

namespace History

variable {Moment : Type}

/-- What a store may say of a URI that was given what the history says. -/
def Known (h : History Moment) (uri : String) : Lookup → Prop
  | .miss => True
  | .hit r => .stored uri r.etag r.body ∈ h
  | .etagOnly etag => ∃ body, .stored uri etag body ∈ h

/-- No request of the history failed on its way. -/
def Unfailing (h : History Moment) : Prop := ∀ m request e, .sent m request (.error e) ∉ h

/-- The last request of the history, and when it was answered. -/
def lastSent? (h : History Moment) : Option (Moment × Request) :=
  h.foldl (fun last event =>
    match event with
    | .sent m request _ => some (m, request)
    | .stored .. => last) none

end History

variable {Moment : Type}

/-- The environment of a server, a transport that may fail, and a store (module doc). -/
def against (server : Server Moment) : Answering Revalidation.interface (History Moment)
  | h, .lookup uri, r, h' => ∃ l, r = .ok l ∧ h.Known uri l ∧ h' = h
  | h, .send request, r, h' =>
    ∃ m, (r = .ok (server m request) ∨ ∃ e, r = .error e) ∧ h' = h ++ [.sent m request r]
  | h, .store uri etag body, r, h' => r = .ok () ∧ h' = h ++ [.stored uri etag body]
  | h, .notify _, _, h' => h' = h

/-- Callers leave conditions to the client. -/
def Plain (request : Request) : Prop :=
  request.method = .get → request.headers.values .ifNoneMatch = []

/-! ## What is on record -/

/-- The server sent this validator with this body for the URI. -/
def Server.Issued (server : Server Moment) (uri etag body : String) : Prop :=
  ∃ m request, request.method = .get ∧ request.uri.text = uri ∧
    (server m request).status = statusOk ∧ (server m request).etag? = some etag ∧
    (server m request).body = body

/-- Whatever was stored is what the server sent. -/
def Genuine (server : Server Moment) (h : History Moment) : Prop :=
  ∀ uri etag body, .stored uri etag body ∈ h → server.Issued uri etag body

theorem Genuine.append {server : Server Moment} {h new : History Moment} (hg : Genuine server h)
    (hn : Genuine server new) : Genuine server (h ++ new) := by
  intro uri etag body hm
  rcases List.mem_append.1 hm with hm | hm
  · exact hg uri etag body hm
  · exact hn uri etag body hm

theorem genuine_sent (server : Server Moment) (m : Moment) (request : Request)
    (answer : Except ClientError Resource) : Genuine server [.sent m request answer] := by
  intro uri etag body hm
  simp at hm

theorem genuine_stored {server : Server Moment} {uri etag body : String}
    (h : server.Issued uri etag body) : Genuine server [.stored uri etag body] := by
  intro uri' etag' body' hm
  simp only [List.mem_singleton, Event.stored.injEq] at hm
  obtain ⟨rfl, rfl, rfl⟩ := hm
  exact h

/-- A known validator and body of a URI were sent by the server. -/
theorem Genuine.issued {server : Server Moment} {h : History Moment} (hg : Genuine server h)
    {uri etag body : String} {found : Lookup} (hk : h.Known uri found)
    (he : found.etag? = some etag) (hb : found.body? = some body) :
    server.Issued uri etag body := by
  cases found with
  | miss => cases he
  | etagOnly => cases hb
  | hit r =>
    cases he
    cases hb
    exact hg _ _ _ hk

/-! ## Requests and their conditions -/

theorem carries_conditional (request : Request) {etag etag' : String} {validator : FieldValue}
    (hv : FieldValue.ofString? etag = some validator) :
    (conditional request validator).Carries etag' ↔ etag = etag' := by
  have hb := FieldValue.bytes_of_ofBytes? hv
  simp only [Request.Carries, conditional, Fields.values_insert, if_true, List.map_cons,
    List.map_nil, List.cons.injEq, and_true, hb]
  exact ⟨Text.bytes_injective, congrArg Text.bytes⟩

theorem unconditional_eq_self {request : Request} (h : request.headers.values .ifNoneMatch = []) :
    unconditional request = request := by
  simp only [unconditional, Fields.remove_eq_self h]

theorem unconditional_conditional {request : Request}
    (h : request.headers.values .ifNoneMatch = []) (validator : FieldValue) :
    unconditional (conditional request validator) = request := by
  simp only [unconditional, conditional, Fields.remove_insert, Fields.remove_eq_self h]

/-! ## One GET -/

/-- The outcome of a GET, seen beside what happened in its course: status and body of what the server
would have sent, without any condition, when the last request was answered. -/
def Brought (server : Server Moment) (request : Request) (course : History Moment)
    (x : Except ClientError Resource) : Prop :=
  ∃ response m sent, x = .ok response ∧ course.lastSent? = some (m, sent) ∧
    unconditional sent = request ∧ response.status = (server m request).status ∧
    response.body = (server m request).body

section
variable {server : Server Moment} {request : Request} {x : Except ClientError Resource}
  {h h' : History Moment}

/-- Putting an answer of the server on record keeps the record genuine, and sends nothing. -/
theorem recorded_against (sent : Request) {m : Moment} (hget : sent.method = .get)
    (hr : Recorded (against server) sent.uri.text (server m sent) h x h') :
    x = .ok (server m sent) ∧ ∃ new, h' = h ++ new ∧ Genuine server new ∧
      ∀ before : History Moment, (before ++ new).lastSent? = before.lastSent? := by
  cases hr with
  | nothing => exact ⟨rfl, [], by simp, fun _ _ _ hm => by simp at hm, by simp⟩
  | @stored etag _ _ hf hs =>
    obtain ⟨-, rfl⟩ := hs
    obtain ⟨hok, he⟩ := fresh?_eq_some_iff.1 hf
    exact ⟨rfl, [_], rfl, genuine_stored ⟨m, sent, hget, rfl, hok, he, rfl⟩,
      fun before => by simp [History.lastSent?]⟩
  | refused _ hs => cases hs.1

theorem lastSent?_sent (before : History Moment) (m : Moment) (request : Request)
    (answer : Except ClientError Resource) :
    (before ++ [Event.sent m request answer]).lastSent? = some (m, request) := by
  simp [History.lastSent?]

/-- A failed request fails the course it is in. -/
theorem not_unfailing (before : History Moment) {after : History Moment} {m : Moment}
    {e : ClientError} :
    ¬(before ++ Event.sent m request (.error e) :: after).Unfailing :=
  fun hu => hu m request e (by simp)

theorem exchanged_against (hget : request.method = .get)
    (hplain : request.headers.values .ifNoneMatch = [])
    (hx : Exchanged (against server) request h x h') :
    ∃ new, h' = h ++ new ∧ Genuine server new ∧
      ∀ before : History Moment, (before ++ new).Unfailing →
        Brought server request (before ++ new) x := by
  cases hx with
  | failed hs =>
    obtain ⟨m, -, rfl⟩ := hs
    exact ⟨_, rfl, genuine_sent server m _ _, fun before hu => absurd hu (not_unfailing before)⟩
  | answered hs hr =>
    obtain ⟨m, ha | ⟨e, he⟩, rfl⟩ := hs
    · cases ha
      obtain ⟨rfl, new, rfl, hn, hl⟩ := recorded_against request hget hr
      refine ⟨[.sent m request (.ok (server m request))] ++ new, by simp,
        (genuine_sent server m _ _).append hn, fun before _ => ?_⟩
      refine ⟨_, m, request, rfl, ?_, unconditional_eq_self hplain, rfl, rfl⟩
      rw [← List.append_assoc, hl, lastSent?_sent]
    · cases he

/-- The course of a GET with an honest server, from a genuine record. -/
theorem got_against (honest : server.Honest) (hget : request.method = .get)
    (hplain : request.headers.values .ifNoneMatch = []) (hg : Genuine server h)
    (hc : Got (against server) request h x h') :
    ∃ new, h' = h ++ new ∧ Genuine server new ∧
      (new.Unfailing → Brought server request new x) := by
  have hself := unconditional_eq_self hplain
  cases hc with
  | unknown hl =>
    obtain ⟨l, he, -⟩ := hl
    cases he
  | missed hl _ hx =>
    obtain ⟨l, -, -, rfl⟩ := hl
    obtain ⟨new, rfl, hn, hb⟩ := exchanged_against hget hplain hx
    exact ⟨new, rfl, hn, hb []⟩
  | unsendable hl _ _ hn hx =>
    obtain ⟨l, -, -, rfl⟩ := hl
    cases hn
    rw [hself] at hx
    obtain ⟨new, rfl, hn, hb⟩ := exchanged_against hget hplain hx
    exact ⟨new, rfl, hn, hb []⟩
  | unanswered hl _ _ hs =>
    obtain ⟨l, -, -, rfl⟩ := hl
    obtain ⟨m, -, rfl⟩ := hs
    exact ⟨_, rfl, genuine_sent server m _ _, fun hu => absurd hu (not_unfailing [])⟩
  | @changed _ _ validator _ _ _ _ _ _ hl _ hv hs hne hr =>
    obtain ⟨l, -, -, rfl⟩ := hl
    obtain ⟨m, ha | ⟨e, he⟩, rfl⟩ := hs
    · cases ha
      -- no 304: the answer is what would be sent anyway
      obtain ⟨hst, hbo⟩ := honest.otherwise m (conditional request validator) hget hne
      obtain ⟨rfl, new, rfl, hn, hls⟩ :=
        recorded_against (conditional request validator) hget hr
      rw [unconditional_conditional hplain] at hst hbo
      refine ⟨[.sent m (conditional request validator)
          (.ok (server m (conditional request validator)))] ++ new, by simp,
        (genuine_sent server m _ _).append hn, fun _ => ?_⟩
      refine ⟨_, m, conditional request validator, rfl, ?_, unconditional_conditional hplain _,
        hst, hbo⟩
      rw [hls]
      exact lastSent?_sent [] m _ _
    · cases he
  | @unchanged _ etag body validator _ _ _ _ hl he hv hs hst hb =>
    obtain ⟨l, hl', hk, rfl⟩ := hl
    cases hl'
    obtain ⟨m, ha | ⟨e, he⟩, rfl⟩ := hs
    · cases ha
      -- the validator on record is the one the page has now, so the bodies are the same too
      obtain ⟨hok, etag', he', hcar⟩ :=
        (honest.notModified_iff m (conditional request validator) hget).1 hst
      rw [unconditional_conditional hplain] at hok he'
      obtain rfl := (carries_conditional request hv).1 hcar
      obtain ⟨m₀, request₀, hget₀, huri, hok₀, he₀, rfl⟩ := hg.issued hk he hb
      have hbody := honest.body_eq m₀ m request₀ request hget₀ hget huri hok₀ hok etag he₀ he'
      exact ⟨_, rfl, genuine_sent server m _ _, fun _ => ⟨_, m, conditional request validator, rfl,
        lastSent?_sent [] m _ _, unconditional_conditional hplain _, hok.symm, hbody⟩⟩
    · cases he
  | @bodiless _ _ validator response _ _ _ _ _ _ hl _ _ hs _ _ hn hx =>
    obtain ⟨l, -, -, rfl⟩ := hl
    obtain ⟨m, -, rfl⟩ := hs
    cases hn
    rw [hself] at hx
    obtain ⟨new, rfl, hn, hb⟩ := exchanged_against hget hplain hx
    exact ⟨[.sent m (conditional request validator) (.ok response)] ++ new, by simp,
      (genuine_sent server m _ _).append hn, hb _⟩

end

/-! ## Sessions -/

/-- In every session, whatever was stored is what the server sent. -/
theorem Session.Reachable.genuine {server : Server Moment} (honest : server.Honest) {n : Nat}
    {s : Session (History Moment)}
    (h : Session.Reachable (against server) Plain (Session.start n []) s) :
    Genuine server s.state := by
  refine h.invariant (P := Genuine server) (fun _ _ _ hm => by simp at hm)
    (fun request credential hp => hp) (fun request state x state' hget hp hg hc => ?_)
    (fun request state x state' hget hg hs => ?_)
  · obtain ⟨new, rfl, hn, -⟩ := got_against honest hget (hp hget) hg hc
    exact hg.append hn
  · obtain ⟨m, -, rfl⟩ := hs
    exact hg.append (genuine_sent server m _ _)

/-- **The cache cannot be seen in what a GET brings.** However many clients share a store that was
empty at first, knows only what it was given and may forget it, whatever was requested before and
for whom: if no request of a GET fails on its way, the GET brings status and body of what an honest
server would have sent to the same request without a condition when it answered the last one. -/
theorem get_transparent {server : Server Moment} (honest : server.Honest) {n : Nat}
    {s : Session (History Moment)}
    (hreach : Session.Reachable (against server) Plain (Session.start n []) s)
    {c : Client (Program Revalidation.interface)} (hc : c ∈ s.clients) {request : Request}
    (hget : request.method = .get) (hplain : request.headers.values .ifNoneMatch = [])
    {x : Except ClientError Resource} {history : History Moment}
    (hrun : Runs (against server) (c request) s.state x history) :
    ∃ course, history = s.state ++ course ∧ (course.Unfailing →
      ∃ response m sent, x = .ok response ∧ course.lastSent? = some (m, sent) ∧
        unconditional sent = request.withCredential sent.credential ∧
        response.status = (server m (unconditional sent)).status ∧
        response.body = (server m (unconditional sent)).body) := by
  obtain ⟨credential, he⟩ := hreach.derived c hc request
  rw [he, Client.decorated_get (by exact hget)] at hrun
  have hget' : (request.withCredential credential).method = .get := hget
  obtain ⟨course, rfl, -, hb⟩ :=
    got_against honest hget' hplain (hreach.genuine honest) (runs_get_iff.1 hrun)
  refine ⟨course, rfl, fun hu => ?_⟩
  obtain ⟨response, m, sent, rfl, hl, hs, hst, hbo⟩ := hb hu
  have hcred : sent.credential = credential := congrArg Request.credential hs
  refine ⟨response, m, sent, rfl, hl, ?_, ?_, ?_⟩
  · rw [hcred, hs]
  · rw [hs, hst]
  · rw [hs, hbo]

/-! ### A page visited twice -/

namespace Visits

def page : Resource := ⟨statusOk, "[1]", Table.empty.insert "ETag" ["\"v1\""]⟩

/-- The answer that the page has not changed. -/
def same : Resource := ⟨statusNotModified, "", Table.empty⟩

/-- A server with one page that never changes. -/
def server : Server Unit := fun _ request => if request.Carries "\"v1\"" then same else page

theorem server_carries {request : Request} (h : request.Carries "\"v1\"") :
    server () request = same := if_pos h

theorem server_else {request : Request} (h : ¬request.Carries "\"v1\"") :
    server () request = page := if_neg h

theorem server_plain {request : Request} (h : request.headers.values .ifNoneMatch = []) :
    server () request = page := server_else (by simp [Request.Carries, h])

theorem fresh?_page : fresh? page = some "\"v1\"" := by decide +kernel

theorem server_honest : server.Honest := by
  have hplain : ∀ request, server () (unconditional request) = page :=
    fun request => server_plain (by simp [unconditional])
  constructor
  · intro m request _
    rw [hplain, (fresh?_eq_some_iff.1 fresh?_page).2]
    constructor
    · intro hst
      by_cases hc : request.Carries "\"v1\""
      · exact ⟨rfl, _, rfl, hc⟩
      · rw [server_else hc] at hst
        cases hst
    · rintro ⟨-, etag, he, hc⟩
      cases he
      rw [server_carries hc]
      rfl
  · intro m request _ hne
    by_cases hc : request.Carries "\"v1\""
    · rw [server_carries hc] at hne
      exact absurd rfl hne
    · rw [hplain, server_else hc]
      exact ⟨rfl, rfl⟩
  · intro m m' request request' _ _ _ hok hok' _ _ _
    have hno : ∀ {request : Request}, (server () request).status = statusOk →
        server () request = page := by
      intro request hok
      by_cases hc : request.Carries "\"v1\""
      · rw [server_carries hc] at hok
        cases hok
      · exact server_else hc
    rw [hno hok, hno hok']

/-- The validator of the page, as it stands on a request. -/
def validator : FieldValue := { bytes := Text.bytes "\"v1\"", valid := by decide +kernel }

theorem ofString?_validator : FieldValue.ofString? "\"v1\"" = some validator := by
  decide +kernel

/-- Asking for the page. -/
def request : Request := .get ⟨"https", none, .steps ["items"], none, none⟩

/-- The client that asks again is authenticated. -/
def session : Session (History Unit) :=
  ⟨[Client.decorated, Client.decorated.authenticated (.bearer "t")],
    [.sent () request (.ok (server () request)), .stored request.uri.text "\"v1\"" "[1]"]⟩

/-- Asking again. -/
def revisit : Request := conditional (request.withCredential (some (.bearer "t"))) validator

theorem reachable : Session.Reachable (against server) Plain (Session.start 1 []) session := by
  have hpage : server () request = page := server_plain rfl
  have hfirst : Runs (against server) (Client.decorated request) [] (.ok (server () request))
      session.state := by
    rw [Client.decorated_get rfl]
    refine runs_get_iff.2 (.missed ⟨.miss, rfl, trivial, rfl⟩ rfl (.answered
      ⟨(), .inl rfl, rfl⟩ (.stored (hpage ▸ fresh?_page) ?_)))
    · rw [hpage]
      exact ⟨rfl, rfl⟩
  exact (Session.Reachable.here.next (.request (List.mem_singleton.2 rfl) (fun _ => rfl)
    hfirst)).next (.authenticate (.bearer "t") (List.mem_singleton.2 rfl))

theorem runs_revisit : Runs (against server)
    (Client.decorated.authenticated (.bearer "t") request) session.state
    (.ok (same.derive statusOk "[1]")) (session.state ++ [.sent () revisit (.ok same)]) := by
  have hsent : server () revisit = same :=
    server_carries ((carries_conditional _ ofString?_validator).2 rfl)
  have hget := Client.decorated_get
    (show (request.withCredential (some (.bearer "t"))).method = .get from rfl)
  refine (congrArg (fun p => Runs (against server) p _ _ _) hget).mpr (runs_get_iff.2 ?_)
  exact .unchanged
    ⟨.hit ⟨"\"v1\"", "[1]"⟩, rfl, List.mem_cons_of_mem _ (List.mem_singleton.2 rfl), rfl⟩ rfl
    ofString?_validator
    ⟨(), .inl (congrArg Except.ok hsent.symm), rfl⟩ rfl rfl

/-- The second visit, which the server answers with 304, brings the page's status and body. -/
theorem get_transparent_revisit :
    server.Honest ∧ Session.Reachable (against server) Plain (Session.start 1 []) session ∧
    ∃ course : History Unit, session.state ++ [.sent () revisit (.ok same)] =
      session.state ++ course ∧ (course.Unfailing →
        ∃ response m sent, (.ok (same.derive statusOk "[1]") : Except ClientError Resource) =
          .ok response ∧ course.lastSent? = some (m, sent) ∧
          unconditional sent = request.withCredential sent.credential ∧
          response.status = (server m (unconditional sent)).status ∧
          response.body = (server m (unconditional sent)).body) :=
  ⟨server_honest, reachable,
    get_transparent server_honest reachable (by simp [session]) rfl rfl runs_revisit⟩

end Visits

end ConditionalGet
