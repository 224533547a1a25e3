import ConditionalGet.Proofs.Command.Fetching
import ConditionalGet.Proofs.Store.Footprint

/-!
# Where the credential of a run goes

A run has one credential, and every request of it carries that one. Where the requests go is up to
the servers: after the first page each page is asked for where the page before it leads
(`Led`). So the credential stays with the host of the command line as long as no answer leads away
from there (`credential_follows_links`), and goes along if one does
(`Elsewhere.credential_leaves_host`).

What `Fetched` says of each request for a page, `runs_fetching` says of all.
-/

set_option autoImplicit false

namespace ConditionalGet

open Program Revalidation

/-- Where a page leads is a matter of its headers. -/
theorem Resource.nextLink?_congr {r r' : Resource} (h : r.headers = r'.headers) :
    r.nextLink? = r'.nextLink? := by
  simp only [nextLink?, headerValues, h]

namespace Command

/-! ## Requests with a credential -/

/-- A request carries a credential, and no other value under its name. -/
def Bears (credential : Credential) (r : HttpRequest) : Prop :=
  ∃ name value, credential.field = .ok (name, value) ∧ r.headers.values name = [value]

/-- The answer to a request has a link to a next page, which resolves to `next`. -/
def Sent.Leads (e : Sent) (next : Url) : Prop :=
  ∃ response link, e.answer = .ok response ∧ response.resource.nextLink? = some link ∧
    e.request.uri.join link = .ok next

/-- Requests of which the first goes to `uri`, and each other one where the one before it went or
where the answer to that one leads. -/
inductive Led : Url → List Sent → Prop
  | nil (uri : Url) : Led uri []
  | same {uri : Url} {e : Sent} {rest : List Sent} : e.request.uri = uri → Led uri rest →
      Led uri (e :: rest)
  | next {uri next : Url} {e : Sent} {rest : List Sent} : e.request.uri = uri → e.Leads next →
      Led next rest → Led uri (e :: rest)

/-- What is sent for a request of the credential's owner: nothing goes elsewhere, all of it carries
the credential, and a resource has the headers of the last answer. -/
structure Fetched (credential : Credential) (uri : Url) (x : Except ClientError Resource)
    (new : List Sent) : Prop where
  each : ∀ e ∈ new, e.request.uri = uri ∧ Bears credential e.request
  last : ∀ page, x = .ok page → ∃ before e response, new = before ++ [e] ∧
    e.answer = .ok response ∧ page.headers = response.resource.headers

section
variable {credential : Credential} {uri : Url} {x : Except ClientError Resource}
  {new rest : List Sent}

theorem Led.of_same (h : ∀ e ∈ new, e.request.uri = uri) : Led uri new := by
  induction new with
  | nil => exact .nil uri
  | cons e rest ih =>
    obtain ⟨he, hrest⟩ := List.forall_mem_cons.1 h
    exact .same he (ih hrest)

theorem Led.append {last : Sent} {next : Url} (h : ∀ e ∈ new ++ [last], e.request.uri = uri)
    (hlast : last.Leads next) (hrest : Led next rest) : Led uri (new ++ [last] ++ rest) := by
  induction new with
  | nil => exact .next (h last (by simp)) hlast hrest
  | cons e new ih =>
    rw [List.cons_append] at h
    obtain ⟨he, h⟩ := List.forall_mem_cons.1 h
    exact .same he (ih h)

/-- While no answer leads away from a host, all requests go there. -/
theorem Led.host {host : Option String} (h : Led uri new) (huri : uri.host? = host)
    (hnext : ∀ e ∈ new, ∀ next, e.Leads next → next.host? = host) :
    ∀ e ∈ new, e.request.uri.host? = host := by
  induction h with
  | nil => simp
  | same he _ ih =>
    obtain ⟨-, hnext⟩ := List.forall_mem_cons.1 hnext
    refine List.forall_mem_cons.2 ⟨?_, ih huri hnext⟩
    rw [he, huri]
  | next he hl _ ih =>
    obtain ⟨hfirst, hnext⟩ := List.forall_mem_cons.1 hnext
    refine List.forall_mem_cons.2 ⟨?_, ih (hfirst _ hl) hnext⟩
    rw [he, huri]

theorem bears_of_ofRequest {request : Request} {r : HttpRequest}
    (hc : request.credential = some credential) (h : HttpRequest.ofRequest request = .ok r) :
    r.uri = request.uri ∧ Bears credential r := by
  unfold HttpRequest.ofRequest HttpRequest.fields at h
  rw [hc] at h
  cases hf : credential.field with
  | error flaw =>
    simp only [hf] at h
    cases h
  | ok field =>
    obtain ⟨name, value⟩ := field
    simp only [hf] at h
    cases h
    exact ⟨rfl, name, value, hf, by rw [Fields.values_insert, if_pos rfl]⟩

theorem Sends.fetched {request : Request} (hc : request.credential = some credential)
    (h : Sends request x new) : Fetched credential request.uri x new := by
  cases h with
  | unfit => exact ⟨by simp, fun _ he => nomatch he⟩
  | unserved => exact ⟨by simp, fun _ he => nomatch he⟩
  | failed hr _ => exact ⟨by simpa using bears_of_ofRequest hc hr, fun _ he => nomatch he⟩
  | @answered r response hr _ =>
    refine ⟨by simpa using bears_of_ofRequest hc hr, ?_⟩
    rintro page ⟨⟩
    exact ⟨[], ⟨r, .ok response⟩, response, rfl, rfl, rfl⟩

/-- What was sent before for the same resource does not matter. -/
theorem Fetched.after {before : List Sent} {y : Except ClientError Resource}
    (hbefore : Fetched credential uri y before) (h : Fetched credential uri x new) :
    Fetched credential uri x (before ++ new) := by
  refine ⟨fun e he => ?_, fun page hx => ?_⟩
  · rcases List.mem_append.1 he with he | he
    · exact hbefore.each e he
    · exact h.each e he
  · obtain ⟨init, e, response, rfl, he, hh⟩ := h.last page hx
    exact ⟨before ++ init, e, response, by rw [List.append_assoc], he, hh⟩

/-- A resource with the same headers, or an error, can take the place of the one that was sent. -/
theorem Fetched.congr {response : Resource} {y : Except ClientError Resource}
    (h : Fetched credential uri (.ok response) new)
    (hy : ∀ page, y = .ok page → page.headers = response.headers) :
    Fetched credential uri y new := by
  refine ⟨h.each, fun page hpage => ?_⟩
  obtain ⟨before, e, answer, hnew, he, hh⟩ := h.last response rfl
  exact ⟨before, e, answer, hnew, he, (hy page hpage).trans hh⟩

end

/-! ## Calls through the clients of a run -/

section
variable {φ : Type} {files : Answering Files.interface φ} {level : Level} {b : Backend}
  {records records' : b.Records} {w w' : φ × List Sent} {credential : Credential}
  {request : Request} {x : Except ClientError Resource}

theorem exchanged_fetched (hc : request.credential = some credential)
    (h : Exchanged (b.behind level files) request (records, w) x (records', w')) :
    ∃ new, w'.2 = w.2 ++ new ∧ Fetched credential request.uri x new := by
  cases h with
  | failed hs =>
    obtain ⟨-, new, hsends, rfl⟩ := Backend.behind_send hs
    exact ⟨new, rfl, hsends.fetched hc⟩
  | @answered response _ _ s₁ _ hs hr =>
    obtain ⟨-, new, hsends, hw⟩ := Backend.behind_send hs
    obtain ⟨hquiet, hheaders⟩ := Backend.recorded_quiet hr
    refine ⟨new, ?_, (hsends.fetched hc).congr hheaders⟩
    rw [hquiet, hw]

/-- All that a GET sends goes to its URL with the credential. -/
theorem got_fetched (hc : request.credential = some credential)
    (h : Got (b.behind level files) request (records, w) x (records', w')) :
    ∃ new, w'.2 = w.2 ++ new ∧ Fetched credential request.uri x new := by
  have hcond : ∀ {validator : FieldValue},
      (conditional request validator).credential = some credential := hc
  cases h with
  | unknown hl =>
    refine ⟨[], ?_, by simp, fun _ he => nomatch he⟩
    rw [Backend.behind_lookup hl, List.append_nil]
  | missed hl _ hx =>
    obtain ⟨new, hw, hnew⟩ := exchanged_fetched hc hx
    exact ⟨new, by rw [hw, Backend.behind_lookup hl], hnew⟩
  | unsendable hl _ _ hn hx =>
    obtain ⟨new, hw, hnew⟩ := exchanged_fetched (by exact hc) hx
    refine ⟨new, ?_, hnew⟩
    rw [hw, (Backend.behind_notify hn).2, Backend.behind_lookup hl]
  | unanswered hl _ _ hs =>
    obtain ⟨-, new, hsends, rfl⟩ := Backend.behind_send hs
    have hnew := hsends.fetched hcond
    exact ⟨new, by rw [Backend.behind_lookup hl], hnew⟩
  | changed hl _ _ hs _ hr =>
    obtain ⟨-, new, hsends, hw⟩ := Backend.behind_send hs
    obtain ⟨hquiet, hheaders⟩ := Backend.recorded_quiet hr
    refine ⟨new, ?_, (hsends.fetched hcond).congr hheaders⟩
    rw [hquiet, hw, Backend.behind_lookup hl]
  | unchanged hl _ _ hs _ _ =>
    obtain ⟨-, new, hsends, rfl⟩ := Backend.behind_send hs
    refine ⟨new, by rw [Backend.behind_lookup hl], (hsends.fetched hcond).congr ?_⟩
    rintro page ⟨⟩
    rfl
  | bodiless hl _ _ hs _ _ hn hx =>
    obtain ⟨-, new, hsends, hw⟩ := Backend.behind_send hs
    obtain ⟨more, hw', hmore⟩ := exchanged_fetched (by exact hc) hx
    refine ⟨new ++ more, ?_, (hsends.fetched hcond).after hmore⟩
    rw [hw', (Backend.behind_notify hn).2, hw, Backend.behind_lookup hl, List.append_assoc]

end

/-! ## Fetching, whatever is around it -/

/-- An environment that sends requests without a credential of their own with the one of a run. -/
structure Faithful {σ : Type} (credential : Credential) (step : Answering Fetching.interface σ)
    (sent : σ → List Sent) : Prop where
  get : ∀ s request x s', request.method = .get → request.credential = none →
    step s (.get request) x s' → ∃ new, sent s' = sent s ++ new ∧
      Fetched credential request.uri x new
  print : ∀ s text r s', step s (.print text) r s' → sent s' = sent s

section
variable {σ : Type} {step : Answering Fetching.interface σ} {sent : σ → List Sent}
  {credential : Credential} {s s' : σ}

/-- A page leads where its last answer leads. -/
theorem Fetched.leads {uri next : Url} {page : Resource} {new : List Sent}
    (h : Fetched credential uri (.ok page) new) (hnext : Paging.Leads uri page (some next)) :
    ∃ before e, new = before ++ [e] ∧ e.Leads next := by
  obtain ⟨before, e, response, rfl, hanswer, hheaders⟩ := h.last page rfl
  refine ⟨before, e, rfl, ?_⟩
  cases hnext with
  | next hlink hjoin =>
    rw [Resource.nextLink?_congr hheaders] at hlink
    rw [← (h.each e (by simp)).1] at hjoin
    exact ⟨response, _, hanswer, hlink, hjoin⟩

/-- What is sent from a place in a collection on. -/
def LedFrom (p : Paging) (new : List Sent) : Prop :=
  match p.next? with
  | none => new = []
  | some uri => Led uri new

theorem runs_visit (hstep : Faithful credential step sent) {limit : Nat} {p : Paging}
    {x : Except ClientError Unit} (h : Runs step (visiting limit p) s x s') :
    ∃ new, sent s' = sent s ++ new ∧ (∀ e ∈ new, Bears credential e.request) ∧
      LedFrom p new := by
  induction limit generalizing p s with
  | zero =>
    obtain ⟨-, rfl⟩ := runs_pure_iff'.1 h
    refine ⟨[], (List.append_nil _).symm, by simp, ?_⟩
    unfold LedFrom
    split
    · rfl
    · exact .nil _
  | succ limit ih =>
    cases runs_visit_iff.1 h with
    | ended hp => exact ⟨[], (List.append_nil _).symm, by simp, by rw [LedFrom, hp]⟩
    | failed hp hask _ =>
      obtain ⟨new, hsent, hnew⟩ := hstep.get _ _ _ _ rfl rfl hask
      refine ⟨new, hsent, fun e he => (hnew.each e he).2, ?_⟩
      rw [LedFrom, hp]
      exact .of_same fun e he => (hnew.each e he).1
    | @page uri _ next _ _ _ _ _ hp hask _ hleads hprint hrest =>
      obtain ⟨new, hsent, hnew⟩ := hstep.get _ _ _ _ rfl rfl hask
      have hsame : ∀ e ∈ new, e.request.uri = uri := fun e he => (hnew.each e he).1
      obtain ⟨rest, hsent', hbears', hled⟩ := ih hrest
      refine ⟨new ++ rest, ?_, ?_, ?_⟩
      · rw [hsent', hstep.print _ _ _ _ hprint, hsent, List.append_assoc]
      · intro e he
        exact (List.mem_append.1 he).elim (fun he => (hnew.each e he).2) (hbears' e)
      · rw [LedFrom, hp]
        cases next with
        | none =>
          obtain rfl : rest = [] := hled
          rw [List.append_nil]
          exact .of_same hsame
        | some next =>
          obtain ⟨before, e, rfl, he⟩ := hnew.leads hleads
          exact .append hsame he hled

/-- All requests of a run carry its credential, and go where one leads to another. -/
theorem runs_fetching (hstep : Faithful credential step sent) {a : Arguments}
    {x : Except Failure Unit} (h : Runs step (fetching a) s x s') :
    ∃ new, sent s' = sent s ++ new ∧ (∀ e ∈ new, Bears credential e.request) ∧
      Led a.url new := by
  unfold fetching fetch at h
  split at h
  · obtain ⟨answer, s₁, hask, h⟩ := runs_bind_iff.1 h
    obtain ⟨new, hsent, hnew⟩ := hstep.get _ _ _ _ rfl rfl (runs_ask_pure_iff.1 hask)
    have hrest : sent s' = sent s₁ := by
      cases answer with
      | error e => rw [(runs_pure_iff'.1 h).2]
      | ok resource =>
        obtain ⟨u, s₂, hprint, h⟩ := runs_bind_iff.1 h
        rw [← hstep.print _ _ _ _ (runs_ask_pure_iff.1 hprint)]
        split at h
        · rw [(runs_pure_iff'.1 h).2]
        · rw [(runs_pure_iff'.1 h).2]
    refine ⟨new, by rw [hrest, hsent], fun e he => (hnew.each e he).2, .of_same fun e he => ?_⟩
    exact (hnew.each e he).1
  · obtain ⟨result, s₁, hvisit, h⟩ := runs_bind_iff.1 h
    obtain ⟨-, rfl⟩ := runs_pure_iff'.1 h
    exact runs_visit hstep hvisit

end

/-! ## Runs of the command -/

section
variable {φ : Type} {files : Answering Files.interface φ} {w w' : φ × List Sent} {level : Level}
  {credential : Credential} {a : Arguments}

/-- The credential of a request without one is that of the run. -/
theorem credential_of_anonymous {credential : Option Credential} {request : Request}
    (h : request.credential = none) :
    (request.withCredential (request.credential.or credential)).credential = credential := by
  show request.credential.or credential = credential
  rw [h, Option.none_or]

theorem fetched_getter {storage : Storage} {kept kept' : Records storage} {request : Request}
    {x : Except ClientError Resource} (hget : request.method = .get)
    (hc : request.credential = some credential)
    (h : Runs (world files) ((getter level none storage request).run kept) w (x, kept') w') :
    ∃ new, w'.2 = w.2 ++ new ∧ Fetched credential request.uri x new := by
  cases storage with
  | none =>
    obtain ⟨new, hsends, rfl⟩ := runs_direct (runs_lift_iff.1 h).1
    exact ⟨new, rfl, hsends.fetched hc⟩
  | memory =>
    exact got_fetched hc ((Backend.runs_client_get_iff (b := .memory) (by exact hget)).1 h)
  | disk store =>
    exact got_fetched hc ((Backend.runs_client_get_iff (b := .disk) (by exact hget)).1 h)

theorem faithful_through (storage : Storage) : Faithful credential
    (through (world files) level (some credential) storage)
    (fun s : Records storage × (φ × List Sent) => s.2.2) where
  get := by
    intro s request x s' hget hnone h
    have hrun : Runs (world files) ((getter level (some credential) storage request).run s.1) s.2
      (x, s'.1) s'.2 := h
    rw [getter_apply] at hrun
    have hfetched := fetched_getter (by exact hget) (credential_of_anonymous hnone) hrun
    exact hfetched
  print _ _ _ _ h := congrArg Prod.snd (runs_ask_pure_iff.1 (runs_lift_iff.1 h).1)

theorem runs_fetchThrough {storage : Storage} {x : Except Failure Unit}
    (h : Runs (world files) (fetchThrough level a (some credential) storage) w x w') :
    ∃ new, w'.2 = w.2 ++ new ∧ (∀ e ∈ new, Bears credential e.request) ∧ Led a.url new := by
  obtain ⟨kept, hrun⟩ := runs_fetchThrough_iff.1 h
  exact runs_fetching (faithful_through storage) hrun

/-- The credential of a run is for the header `Authorization`. -/
theorem name_of_credential? {env : Environment} (hc : a.credential? env = some credential) :
    credential.name = "Authorization" := by
  unfold Arguments.credential? at hc
  split at hc
  · obtain rfl := Option.some.inj hc
    rfl
  · obtain ⟨host, -, hc⟩ := Option.bind_eq_some_iff.1 hc
    rw [Environment.credential?_eq] at hc
    obtain ⟨token, -, rfl⟩ := Option.map_eq_some_iff.1 hc
    rfl

/-- A credential for that header is sent under its name, and byte for byte. -/
theorem field_of_name {name : FieldName} {value : FieldValue}
    (hc : credential.name = "Authorization") (hf : credential.field = .ok (name, value)) :
    name = .authorization ∧ value.bytes = Text.bytes credential.value := by
  have hname : FieldName.ofString? "Authorization" = some .authorization := by decide +kernel
  cases hv : FieldValue.ofString? credential.value with
  | none => simp [Credential.field, hc, hname, hv] at hf
  | some v =>
    simp only [Credential.field, hc, hname, hv, Except.ok.injEq, Prod.mk.injEq] at hf
    have hbytes : v.bytes = Text.bytes credential.value := FieldValue.bytes_of_ofBytes? hv
    obtain ⟨rfl, rfl⟩ := hf
    exact ⟨rfl, hbytes⟩

/-- **The credential of a run goes where the servers lead.** Whatever a run of the command is told
to fetch and whatever is answered: every request carries the credential for the host of the URL on
the command line. The first request goes to that URL, and each other one where the one before it
went or where the answer to that one leads; so all of them go to that host if no answer leads away
from it. -/
theorem credential_follows_links {env : Environment} {account : Option String}
    {arguments : List String} {f f' : φ} {ending : Ending} {sent : List Sent}
    (hargs : Arguments.parse env arguments = .ok a) (hc : a.credential? env = some credential)
    (hrun : Runs (world files) (run env account arguments) (f, []) ending (f', sent)) :
    (∀ e ∈ sent, (e.request.headers.values .authorization).map FieldValue.bytes =
      [Text.bytes credential.value]) ∧
      Led a.url sent ∧
      ((∀ e ∈ sent, ∀ next, e.Leads next → next.host? = a.url.host?) →
        ∀ e ∈ sent, e.request.uri.host? = a.url.host?) := by
  obtain ⟨hsent, -⟩ | ⟨storage, w₁, x, hbefore, -, hfetch⟩ := runs_run hargs hrun
  · obtain rfl : sent = [] := hsent
    exact ⟨by simp, .nil _, by simp⟩
  · rw [hc] at hfetch
    obtain ⟨new, hnew, hbears, hled⟩ := runs_fetchThrough hfetch
    obtain rfl : sent = new := by
      rw [hbefore] at hnew
      exact hnew
    refine ⟨fun e he => ?_, hled, hled.host rfl⟩
    obtain ⟨name, value, hf, hvalues⟩ := hbears e he
    obtain ⟨rfl, hbytes⟩ := field_of_name (name_of_credential? hc) hf
    rw [hvalues, List.map_cons, List.map_nil, hbytes]

end

/-! ### A collection that goes on at another host -/

namespace Elsewhere

/-- The command is told to fetch a collection from one host. -/
def arguments : List String := ["--all-pages", "--no-cache", "http://[2001:db8::1]/"]

def here : Url :=
  ⟨"http", some ⟨"", none, .ipv6 [0x2001, 0xdb8, 0, 0, 0, 0, 0, 1], none⟩, .steps [""], none, none⟩

def env : Environment := fun name => if name = "FORGE_TOKEN" then some "t" else none

def asked : Arguments := ⟨here, true, none, some "t", true⟩

def link : FieldName := ⟨"link", by decide +kernel⟩

def away : FieldValue :=
  { bytes := Text.bytes "<http://[2001:db8::2]/>; rel=\"next\"", valid := by decide +kernel }

/-- The server of the first page names one at another host as the next. -/
def page (r : HttpRequest) : HttpResponse :=
  if r.uri = here then ⟨200, ⟨[(link, away)]⟩, "[1]"⟩ else ⟨200, ⟨[]⟩, "[2]"⟩

/-- The run, where there are no files and the servers send their pages. -/
def outcome : Ending × (Tree × List Sent) :=
  ((run env none arguments).run (serving page)).run (Tree.empty, [])

def sent : List Sent := outcome.2.2

theorem runs_outcome :
    Runs (world Tree.faulty) (run env none arguments) (Tree.empty, []) outcome.1
      (outcome.2.1, sent) :=
  runs_serving (run env none arguments) rfl

theorem parse_arguments : Arguments.parse env arguments = .ok asked :=
  DiskStore.eq_ok_of_toOption (by decide +kernel)

theorem credential?_asked : asked.credential? env = some (.bearer "t") := by decide +kernel

/-- Two requests with the credential, to different hosts. -/
theorem shown_sent :
    sent.map (fun e => (e.request.uri.host?,
      (e.request.headers.values .authorization).map FieldValue.bytes)) =
      [(some "[2001:db8::1]", [Text.bytes "Bearer t"]),
        (some "[2001:db8::2]", [Text.bytes "Bearer t"])] := by
  decide +kernel

/-- All requests of the run carry the credential and go where one leads to another. -/
theorem credential_follows_links_away :
    Runs (world Tree.faulty) (run env none arguments) (Tree.empty, []) outcome.1
        (outcome.2.1, sent) ∧
      sent.length = 2 ∧
      (∀ e ∈ sent, (e.request.headers.values .authorization).map FieldValue.bytes =
        [Text.bytes "Bearer t"]) ∧ Led here sent := by
  obtain ⟨hbears, hled, -⟩ :=
    credential_follows_links parse_arguments credential?_asked runs_outcome
  have hlength : sent.length = 2 := by
    have h := congrArg List.length shown_sent
    rwa [List.length_map] at h
  exact ⟨runs_outcome, hlength, hbears, hled⟩

/-- A run sends its credential to another host than that of its URL. -/
theorem credential_leaves_host :
    ∃ account ending t sent, Arguments.parse env arguments = .ok asked ∧ asked.allPages = true ∧
      asked.credential? env = some (.bearer "t") ∧
      Runs (world Tree.faulty) (run env account arguments) (Tree.empty, []) ending (t, sent) ∧
      ∃ e ∈ sent, (e.request.headers.values .authorization).map FieldValue.bytes =
        [Text.bytes "Bearer t"] ∧ e.request.uri.host? ≠ asked.url.host? := by
  refine ⟨none, outcome.1, outcome.2.1, sent, parse_arguments, rfl, credential?_asked,
    runs_outcome, ?_⟩
  have hmem : (some "[2001:db8::2]", [Text.bytes "Bearer t"]) ∈
      sent.map (fun e => (e.request.uri.host?,
        (e.request.headers.values .authorization).map FieldValue.bytes)) := by
    rw [shown_sent]
    exact List.mem_cons_of_mem _ (List.mem_singleton.2 rfl)
  obtain ⟨e, he, hshown⟩ := List.mem_map.1 hmem
  obtain ⟨hhost, hvalues⟩ := Prod.mk.inj hshown
  refine ⟨e, he, hvalues, ?_⟩
  rw [hhost]
  decide +kernel

end Elsewhere

end Command

end ConditionalGet
