import ConditionalGet.Client.Paging
import ConditionalGet.Proofs.Client.Transparency
import ConditionalGet.Store.Memory

/-!
# Paging over a cached client

A server that does not change is asked for the pages of a collection twice: by a client that asks
it directly (`Client.direct`) and by one that keeps what it got in memory (`Client.remembering`). A
page that the second one has on record is answered by a 304, and then it has the body on record,
but the headers of the 304: from there on it goes where the 304 leads.

`Paging.agree_iff_keeps` says what comes of it: after any number of pages the two have seen the same
items and stand at the same place, exactly if no 304 on the way leads elsewhere than the page it
stands for (`Keeps`). A 304 without a `Link` header leads nowhere, and cuts the collection short
(`Paging.Collection.items_differ`).
-/

set_option autoImplicit false

namespace ConditionalGet

open Revalidation Program

/-! ## A server that does not change -/

/-- What a server that does not change answers to a request, or how the request fails. -/
abbrev Unchanging := Request → Except ClientError Resource

/-- The server is honest about validators: it answers 304 exactly if a GET carries the validator of
the page it would otherwise send, and pages of one URI with one validator have one body and one
`Link` header. -/
structure Unchanging.Honest (server : Unchanging) : Prop where
  notModified_iff : ∀ request, request.method = .get →
    ((∃ r, server request = .ok r ∧ r.status = statusNotModified) ↔
      ∃ page etag, server (unconditional request) = .ok page ∧ page.status = statusOk ∧
        page.etag? = some etag ∧ request.Carries etag)
  otherwise : ∀ request, request.method = .get →
    (∀ r, server request = .ok r → r.status ≠ statusNotModified) →
    server request = server (unconditional request)
  agree : ∀ request request' page page', request.method = .get → request'.method = .get →
    request.uri.text = request'.uri.text → server request = .ok page →
    server request' = .ok page' → page.status = statusOk → page'.status = statusOk →
    ∀ etag, page.etag? = some etag → page'.etag? = some etag →
    page.body = page'.body ∧ page.headerValues "link" = page'.headerValues "link"

def Client.direct {m : Type → Type} [Monad m] (server : Unchanging) : Client m := fun request =>
  pure (server request)

/-- The client that asks the server and keeps what it gets in memory. -/
def Client.remembering (server : Unchanging) : Client (StateM Memory) :=
  (Client.direct server).cached Memory.shared fun _ => pure ()

/-- What can be in memory after any number of GETs. -/
inductive Filled (server : Unchanging) : Memory → Prop
  | empty : Filled server Table.empty
  | get {memory : Memory} {request : Request} : Filled server memory → request.method = .get →
      request.headers.values .ifNoneMatch = [] →
      Filled server ((Client.remembering server request).run memory).2

/-! ## One GET -/

/-- How the server and a memory answer what happens in the course of a GET. -/
def inMemory (server : Unchanging) : Answering Revalidation.interface Memory :=
  answering ((Client.direct server).answerCourse Memory.shared fun _ => pure ())

section
variable {server : Unchanging} {memory memory' : Memory} {request : Request}
  {x : Except ClientError Resource}

theorem inMemory_lookup {uri : String} {r : Except StoreError Lookup}
    (h : inMemory server memory (.lookup uri) r memory') :
    r = .ok (memory.lookup uri) ∧ memory' = memory := by
  have he : (Except.ok (memory.lookup uri), memory) = (r, memory') := h
  cases he
  exact ⟨rfl, rfl⟩

theorem inMemory_send (h : inMemory server memory (.send request) x memory') :
    x = server request ∧ memory' = memory := by
  have he : (server request, memory) = (x, memory') := h
  cases he
  exact ⟨rfl, rfl⟩

theorem inMemory_store {uri etag body : String} {r : Except StoreError Unit}
    (h : inMemory server memory (.store uri etag body) r memory') :
    r = .ok () ∧ memory' = memory.store uri etag body := by
  have he : (Except.ok (), memory.store uri etag body) = (r, memory') := h
  cases he
  exact ⟨rfl, rfl⟩

theorem inMemory_notify {notice : Notice} {r : Unit}
    (h : inMemory server memory (.notify notice) r memory') : memory' = memory := by
  have he : ((), memory) = (r, memory') := h
  cases he
  rfl

theorem remembering_run_iff (hget : request.method = .get) :
    (Client.remembering server request).run memory = (x, memory') ↔
      Got (inMemory server) request memory x memory' := by
  simp only [Client.remembering, Client.cached, hget]
  exact runs_answer_iff.symm.trans runs_get_iff

/-- Whatever is in memory is what the server sends. -/
def Remembered (server : Unchanging) (memory : Memory) : Prop :=
  ∀ uri etag body, memory.lookup uri = .hit ⟨etag, body⟩ → ∃ request page,
    request.method = .get ∧ request.uri.text = uri ∧ server request = .ok page ∧
    page.status = statusOk ∧ page.etag? = some etag ∧ page.body = body

theorem recorded_remembered (sent : Request) {page : Resource} (hget : sent.method = .get)
    (hs : server sent = .ok page) (hm : Remembered server memory)
    (hr : Recorded (inMemory server) sent.uri.text page memory x memory') :
    x = .ok page ∧ Remembered server memory' := by
  cases hr with
  | nothing => exact ⟨rfl, hm⟩
  | @stored etag _ _ hf hst =>
    obtain ⟨-, rfl⟩ := inMemory_store hst
    obtain ⟨hok, he⟩ := fresh?_eq_some_iff.1 hf
    refine ⟨rfl, fun uri etag' body hl => ?_⟩
    rw [Memory.lookup_store] at hl
    split at hl
    · rename_i huri
      cases hl
      exact ⟨sent, page, hget, huri.symm, hs, hok, he, rfl⟩
    · exact hm uri etag' body hl
  | refused _ hst => cases (inMemory_store hst).1

theorem exchanged_remembered (hget : request.method = .get) (hm : Remembered server memory)
    (hx : Exchanged (inMemory server) request memory x memory') :
    x = server request ∧ Remembered server memory' := by
  cases hx with
  | failed hs =>
    obtain ⟨he, rfl⟩ := inMemory_send hs
    exact ⟨he, hm⟩
  | answered hs hr =>
    obtain ⟨he, rfl⟩ := inMemory_send hs
    rw [← he]
    exact recorded_remembered request hget he.symm hm hr

/-- The server answers the request for what is on record with a 304, `r`. -/
def Revalidated (server : Unchanging) (memory : Memory) (request : Request) (r : Resource) : Prop :=
  ∃ etag validator, (memory.lookup request.uri.text).etag? = some etag ∧
    FieldValue.ofString? etag = some validator ∧
    server (conditional request validator) = .ok r ∧ r.status = statusNotModified

/-- The request that a 304 answers is determined by what is on record. -/
theorem Revalidated.sent {r : Resource} {etag : String} {validator : FieldValue}
    (h : Revalidated server memory request r)
    (he : (memory.lookup request.uri.text).etag? = some etag)
    (hv : FieldValue.ofString? etag = some validator) :
    server (conditional request validator) = .ok r ∧ r.status = statusNotModified := by
  obtain ⟨etag', validator', he', hv', hr⟩ := h
  rw [he] at he'
  cases he'
  rw [hv] at hv'
  cases hv'
  exact hr

theorem Memory.body?_of_etag? {uri etag : String} (h : (memory.lookup uri).etag? = some etag) :
    ∃ body, memory.lookup uri = .hit ⟨etag, body⟩ := by
  unfold Memory.lookup at h ⊢
  cases hf : memory.find? uri with
  | none =>
    rw [hf] at h
    cases h
  | some r =>
    rw [hf] at h
    cases h
    exact ⟨r.body, rfl⟩

/-- A GET brings what the server sends, with one exception: after a 304 the status and the body of
the page come with the headers of the 304. -/
theorem got_remembered (honest : server.Honest) (hget : request.method = .get)
    (hplain : request.headers.values .ifNoneMatch = []) (hm : Remembered server memory)
    (hc : Got (inMemory server) request memory x memory') :
    Remembered server memory' ∧
      ((x = server request ∧ ∀ r, ¬Revalidated server memory request r) ∨
        ∃ r page, Revalidated server memory request r ∧ server request = .ok page ∧
          page.status = statusOk ∧ x = .ok (r.derive statusOk page.body)) := by
  have hself := unconditional_eq_self hplain
  cases hc with
  | unknown hl => cases (inMemory_lookup hl).1
  | missed hl he hx =>
    obtain ⟨hl, rfl⟩ := inMemory_lookup hl
    cases hl
    obtain ⟨rfl, hm'⟩ := exchanged_remembered hget hm hx
    refine ⟨hm', .inl ⟨rfl, ?_⟩⟩
    rintro r ⟨etag, validator, he', -⟩
    rw [he] at he'
    cases he'
  | unsendable hl he hv hn hx =>
    obtain ⟨hl, rfl⟩ := inMemory_lookup hl
    cases hl
    obtain rfl := inMemory_notify hn
    rw [hself] at hx
    obtain ⟨rfl, hm'⟩ := exchanged_remembered hget hm hx
    refine ⟨hm', .inl ⟨rfl, ?_⟩⟩
    rintro r ⟨etag, validator, he', hv', -⟩
    rw [he] at he'
    cases he'
    rw [hv] at hv'
    cases hv'
  | @unanswered _ _ validator e _ _ _ hl he hv hs =>
    obtain ⟨hl, rfl⟩ := inMemory_lookup hl
    cases hl
    obtain ⟨hsent, rfl⟩ := inMemory_send hs
    have hother := honest.otherwise (conditional request validator) hget
      (fun r hr => by rw [← hsent] at hr; cases hr)
    rw [unconditional_conditional hplain] at hother
    refine ⟨hm, .inl ⟨hsent.trans hother, fun r hr => ?_⟩⟩
    have hr := (hr.sent he hv).1
    rw [← hsent] at hr
    cases hr
  | @changed _ _ validator response _ _ _ _ _ hl he hv hs hne hr =>
    obtain ⟨hl, rfl⟩ := inMemory_lookup hl
    cases hl
    obtain ⟨hsent, rfl⟩ := inMemory_send hs
    have hother := honest.otherwise (conditional request validator) hget
      (fun r hr => by rw [← hsent] at hr; cases hr; exact hne)
    rw [unconditional_conditional hplain] at hother
    obtain ⟨rfl, hm'⟩ :=
      recorded_remembered (conditional request validator) hget hsent.symm hm hr
    refine ⟨hm', .inl ⟨hsent.trans hother, fun r hr => ?_⟩⟩
    obtain ⟨hr, hst⟩ := hr.sent he hv
    rw [← hsent] at hr
    cases hr
    exact hne hst
  | @unchanged _ etag body validator response _ _ _ hl he hv hs hst hb =>
    obtain ⟨hl, rfl⟩ := inMemory_lookup hl
    cases hl
    obtain ⟨hsent, rfl⟩ := inMemory_send hs
    -- the validator on record is the one the page has now, so the bodies are the same too
    obtain ⟨page, etag', hpage, hok, he', hcar⟩ :=
      (honest.notModified_iff (conditional request validator) hget).1 ⟨response, hsent.symm, hst⟩
    rw [unconditional_conditional hplain] at hpage
    obtain rfl := (carries_conditional request hv).1 hcar
    obtain ⟨body', hhit⟩ := Memory.body?_of_etag? he
    rw [hhit] at hb
    cases hb
    obtain ⟨request₀, page₀, hget₀, huri, hpage₀, hok₀, he₀, rfl⟩ := hm _ _ _ hhit
    have hbody := (honest.agree request₀ request page₀ page hget₀ hget huri hpage₀ hpage hok₀ hok
      etag he₀ he').1
    exact ⟨hm, .inr ⟨response, page, ⟨etag, validator, he, hv, hsent.symm, hst⟩, hpage, hok,
      by rw [hbody]⟩⟩
  | bodiless hl he _ _ _ hb _ _ =>
    obtain ⟨hl, rfl⟩ := inMemory_lookup hl
    cases hl
    obtain ⟨body, hhit⟩ := Memory.body?_of_etag? he
    rw [hhit] at hb
    cases hb

end

/-- A GET leaves nothing else in the memory either. -/
theorem Remembered.get {server : Unchanging} {memory : Memory} {request : Request}
    (hm : Remembered server memory) (hget : request.method = .get)
    (hplain : request.headers.values .ifNoneMatch = []) (honest : server.Honest) :
    Remembered server ((Client.remembering server request).run memory).2 :=
  (got_remembered honest hget hplain hm ((remembering_run_iff hget).1 rfl)).1

/-- Nothing else gets into the memory than what the server sends. -/
theorem Filled.remembered {server : Unchanging} (honest : server.Honest) {memory : Memory}
    (h : Filled server memory) : Remembered server memory := by
  induction h with
  | empty =>
    intro uri etag body hl
    cases hl
  | get _ hget hplain ih => exact ih.get hget hplain honest

/-! ## One page -/

section
variable {server : Unchanging} {memory : Memory}

/-- What a reader of a page gets to see: its status and its body. -/
def Resource.shown (page : Resource) : Nat × String := (page.status, page.body)

/-- A 304 to the request for a page leads where the page leads that it stands for. -/
def Keeps (server : Unchanging) (memory : Memory) (uri : Url) : Prop :=
  ∀ r page, Revalidated server memory (Paging.request uri) r →
    server (Paging.request uri) = .ok page → Paging.following uri r = Paging.following uri page

/-- Two answers show the same and lead to the same place. -/
def SamePage (fetched : Nat) (uri : Url) (x y : Except ClientError Resource) : Prop :=
  (Paging.advance fetched uri x).1.map Resource.shown =
      (Paging.advance fetched uri y).1.map Resource.shown ∧
    (Paging.advance fetched uri x).2 = (Paging.advance fetched uri y).2

theorem advance_ok (fetched : Nat) (uri : Url) {page : Resource} (h : page.status = statusOk) :
    Paging.advance fetched uri (.ok page) = match Paging.following uri page with
      | .error e => (.error e, ⟨none, fetched⟩)
      | .ok next => (.ok page, ⟨next, fetched + 1⟩) :=
  if_neg fun hne => hne h

/-- Where two pages with one status and one body lead, is all that can tell them apart. -/
theorem samePage_ok_iff {fetched : Nat} {uri : Url} {page page' : Resource}
    (hs : page.status = statusOk) (hs' : page'.status = statusOk) (hb : page.body = page'.body) :
    SamePage fetched uri (.ok page) (.ok page') ↔
      Paging.following uri page = Paging.following uri page' := by
  unfold SamePage
  rw [advance_ok fetched uri hs, advance_ok fetched uri hs']
  constructor
  · rintro ⟨hi, hp⟩
    cases h : Paging.following uri page <;> cases h' : Paging.following uri page' <;>
      simp_all [Except.map]
  · intro h
    rw [h]
    cases h' : Paging.following uri page' with
    | error e => exact ⟨rfl, rfl⟩
    | ok next => exact ⟨by simp [Except.map, Resource.shown, hs, hs', hb], rfl⟩

theorem request_plain (uri : Url) :
    (Paging.request uri).headers.values .ifNoneMatch = [] := rfl

/-- A page is the same with the cache and without, exactly if its 304 leads where it leads. -/
theorem samePage_iff (honest : server.Honest) (hm : Remembered server memory) (fetched : Nat)
    (uri : Url) :
    SamePage fetched uri ((Client.remembering server (Paging.request uri)).run memory).1
        (server (Paging.request uri)) ↔ Keeps server memory uri := by
  rcases hrun : (Client.remembering server (Paging.request uri)).run memory with ⟨x, memory'⟩
  obtain ⟨hx, hno⟩ | ⟨r, page, hr, hpage, hok, hx⟩ :=
    (got_remembered honest rfl (request_plain uri) hm ((remembering_run_iff rfl).1 hrun)).2
  · rw [hx]
    exact ⟨fun _ r _ hr => absurd hr (hno r), fun _ => ⟨rfl, rfl⟩⟩
  · have hderived : (r.derive statusOk page.body).status = statusOk := rfl
    rw [hx, hpage, samePage_ok_iff hderived hok rfl]
    constructor
    · intro h r' page' hr' hpage'
      obtain ⟨etag, validator, he, hv, hs, -⟩ := hr
      obtain ⟨hs', -⟩ := hr'.sent he hv
      rw [hs] at hs'
      rw [hpage] at hpage'
      cases hs'
      cases hpage'
      exact h
    · exact fun h => h r page hr hpage

end

/-! ## Any number of pages -/

namespace Paging

/-- At most `n` pages as the server itself sends them, and the place after them. -/
def plainly (server : Unchanging) (n : Nat) (p : Paging) :
    List (Except ClientError Resource) × Paging :=
  (p.take (Client.direct server) n : Id _).run

/-- At most `n` pages that come through a memory, the place after them, and the memory then. -/
def remembering (server : Unchanging) (n : Nat) (p : Paging) (memory : Memory) :
    (List (Except ClientError Resource) × Paging) × Memory :=
  (p.take (Client.remembering server) n).run memory

section
variable {server : Unchanging} {n : Nat} {p : Paging} {memory : Memory} {uri : Url}

theorem plainly_none (h : p.next? = none) : plainly server n p = ([], p) := by
  cases n with
  | zero => rfl
  | succ n => simp only [plainly, take, step, h]; rfl

theorem remembering_none (h : p.next? = none) :
    remembering server n p memory = (([], p), memory) := by
  cases n with
  | zero => rfl
  | succ n => simp only [remembering, take, step, h]; rfl

theorem plainly_succ (h : p.next? = some uri) :
    plainly server (n + 1) p =
      let page := advance p.fetched uri (server (request uri))
      let rest := plainly server n page.2
      (page.1 :: rest.1, rest.2) := by
  simp only [plainly, take, step, h]
  rfl

theorem remembering_succ (h : p.next? = some uri) :
    remembering server (n + 1) p memory =
      let got := (Client.remembering server (request uri)).run memory
      let page := advance p.fetched uri got.1
      let rest := remembering server n page.2 got.2
      ((page.1 :: rest.1.1, rest.1.2), rest.2) := by
  simp only [remembering, take, step, h]
  rfl

/-- After `n` pages both ways have shown the same and lead to the same place. -/
def Agree (server : Unchanging) (n : Nat) (p : Paging) (memory : Memory) : Prop :=
  (remembering server n p memory).1.1.map (Except.map Resource.shown) =
      (plainly server n p).1.map (Except.map Resource.shown) ∧
    (remembering server n p memory).1.2 = (plainly server n p).2

/-- The 304 to the request for the page after `n` pages, if any, leads where that page leads. -/
def KeepsAfter (server : Unchanging) (n : Nat) (p : Paging) (memory : Memory) : Prop :=
  ∀ uri, (remembering server n p memory).1.2.next? = some uri →
    Keeps server (remembering server n p memory).2 uri

theorem keepsAfter_succ_iff (h : p.next? = some uri) :
    KeepsAfter server (n + 1) p memory ↔
      let got := (Client.remembering server (request uri)).run memory
      KeepsAfter server n (advance p.fetched uri got.1).2 got.2 := by
  simp only [KeepsAfter, remembering_succ h]

theorem samePage_of_agree (h : p.next? = some uri) (ha : Agree server 1 p memory) :
    SamePage p.fetched uri ((Client.remembering server (request uri)).run memory).1
      (server (request uri)) := by
  obtain ⟨hi, hp⟩ := ha
  simp only [plainly_succ h, remembering_succ h, List.map_cons, List.cons.injEq] at hi hp
  exact ⟨hi.1, hp⟩

/-- Once the first page is the same, all depends on the others. -/
theorem agree_succ_iff (h : p.next? = some uri)
    (hs : SamePage p.fetched uri ((Client.remembering server (request uri)).run memory).1
      (server (request uri))) :
    Agree server (n + 1) p memory ↔
      let got := (Client.remembering server (request uri)).run memory
      Agree server n (advance p.fetched uri got.1).2 got.2 := by
  obtain ⟨hi, hp⟩ := hs
  simp only [Agree, plainly_succ h, remembering_succ h, List.map_cons, List.cons.injEq, hi, hp,
    true_and]

theorem KeepsAfter.of_agree (honest : server.Honest) (hm : Remembered server memory)
    (ha : ∀ n, Agree server n p memory) : KeepsAfter server n p memory := by
  induction n generalizing p memory with
  | zero => exact fun uri h => (samePage_iff honest hm _ uri).1 (samePage_of_agree h (ha 1))
  | succ n ih =>
    cases h : p.next? with
    | none =>
      intro uri huri
      rw [remembering_none h, h] at huri
      cases huri
    | some uri =>
      have hs := samePage_of_agree h (ha 1)
      exact (keepsAfter_succ_iff h).2 (ih (hm.get rfl (request_plain uri) honest)
        fun n => (agree_succ_iff h hs).1 (ha (n + 1)))

theorem Agree.of_keepsAfter (honest : server.Honest) (hm : Remembered server memory)
    (hk : ∀ n, KeepsAfter server n p memory) : Agree server n p memory := by
  induction n generalizing p memory with
  | zero => exact ⟨rfl, rfl⟩
  | succ n ih =>
    cases h : p.next? with
    | none => exact ⟨by rw [remembering_none h, plainly_none h], by
        rw [remembering_none h, plainly_none h]⟩
    | some uri =>
      have hs := (samePage_iff honest hm p.fetched uri).2 (hk 0 uri h)
      exact (agree_succ_iff h hs).2 (ih (hm.get rfl (request_plain uri) honest)
        fun n => (keepsAfter_succ_iff h).1 (hk (n + 1)))

/-- **Paging sees the cache exactly where a 304 leads elsewhere than its page.** The server does not
change and is honest about validators, and the memory holds what earlier GETs left there: whatever
the number of pages, the same is shown with the memory and without, and the same place is reached,
exactly if every 304 on the way leads where the page leads that it stands for. -/
theorem agree_iff_keeps (honest : server.Honest) (hf : Filled server memory) (uri : Url) :
    (∀ n, (remembering server n (start uri) memory).1.1.map (Except.map Resource.shown) =
          (plainly server n (start uri)).1.map (Except.map Resource.shown) ∧
        (remembering server n (start uri) memory).1.2 = (plainly server n (start uri)).2) ↔
      ∀ n uri', (remembering server n (start uri) memory).1.2.next? = some uri' →
        Keeps server (remembering server n (start uri) memory).2 uri' :=
  ⟨fun ha _ => KeepsAfter.of_agree honest (hf.remembered honest) ha,
    fun hk _ => Agree.of_keepsAfter honest (hf.remembered honest) hk⟩

end

/-! ### A collection of two pages -/

namespace Collection

/-- Where the collection starts. -/
def first : Url := ⟨"https", some ⟨"", none, .domain "example.com", none⟩, .steps ["items"], none,
  none⟩

def second : Url := { first with query := some "page=2" }

/-- The validator of a page. -/
def tag (uri : Url) : String := if uri = second then "\"p2\"" else "\"p1\""

def page (uri : Url) : Resource :=
  if uri = second then ⟨statusOk, "[2]", Headers.ofPairs [("ETag", "\"p2\"")]⟩
  else ⟨statusOk, "[1]", Headers.ofPairs [("ETag", "\"p1\""), ("Link", "<?page=2>; rel=\"next\"")]⟩

/-- A server of the collection, whose 304s repeat the headers of the page or have none. -/
def server (repeats : Bool) : Unchanging := fun request =>
  if request.Carries (tag request.uri) then
    .ok ⟨statusNotModified, "", if repeats then (page request.uri).headers else Table.empty⟩
  else .ok (page request.uri)

theorem page_status (uri : Url) : (page uri).status = statusOk := by
  unfold page
  split <;> rfl

theorem page_etag? (uri : Url) : (page uri).etag? = some (tag uri) := by
  unfold page tag
  split <;> decide +kernel

theorem page_eq_of_tag_eq {uri uri' : Url} (h : tag uri = tag uri') : page uri = page uri' := by
  unfold tag at h
  unfold page
  split at h <;> split at h <;> simp_all

variable {repeats : Bool} {request : Request}

theorem server_ok {r : Resource} (h : server repeats request = .ok r) :
    (r.status = statusNotModified ∧ request.Carries (tag request.uri) ∧
        (repeats = true → r.headers = (page request.uri).headers)) ∨
      (r = page request.uri ∧ ¬request.Carries (tag request.uri)) := by
  unfold server at h
  split at h
  · rename_i hc
    cases h
    exact .inl ⟨rfl, hc, fun hr => if_pos hr⟩
  · rename_i hc
    cases h
    exact .inr ⟨rfl, hc⟩

theorem server_plain (h : request.headers.values .ifNoneMatch = []) :
    server repeats request = .ok (page request.uri) :=
  if_neg (by simp [Request.Carries, h])

theorem server_honest : (server repeats).Honest := by
  have hplain : ∀ request, server repeats (unconditional request) = .ok (page request.uri) :=
    fun request => server_plain (by simp [unconditional])
  have hok : ∀ {request r}, server repeats request = .ok r → r.status = statusOk →
      r = page request.uri := by
    intro request r h hs
    obtain ⟨hst, -⟩ | ⟨hp, -⟩ := server_ok h
    · rw [hs] at hst
      cases hst
    · exact hp
  constructor
  · intro request _
    constructor
    · rintro ⟨r, hr, hst⟩
      obtain ⟨-, hc, -⟩ | ⟨rfl, -⟩ := server_ok hr
      · exact ⟨_, _, hplain request, page_status _, page_etag? _, hc⟩
      · rw [page_status] at hst
        cases hst
    · rintro ⟨p, etag, hp, -, he, hc⟩
      rw [hplain] at hp
      cases hp
      rw [page_etag?] at he
      cases he
      exact ⟨_, if_pos hc, rfl⟩
  · intro request _ hno
    rw [hplain]
    refine if_neg fun hc => hno _ (if_pos hc) rfl
  · intro request request' p p' _ _ _ hp hp' hs hs' etag he he'
    obtain rfl := hok hp hs
    obtain rfl := hok hp' hs'
    rw [page_etag?] at he he'
    have heq := page_eq_of_tag_eq (Option.some.inj (he.trans he'.symm))
    exact ⟨by rw [heq], by rw [heq]⟩

/-- The memory after a GET of the first page. -/
def memory (repeats : Bool) : Memory :=
  ((Client.remembering (server repeats) (.get first)).run Table.empty).2

theorem filled : Filled (server repeats) (memory repeats) := Filled.empty.get rfl rfl

theorem keeps_repeated (memory : Memory) (uri : Url) : Keeps (server true) memory uri := by
  rintro r p ⟨etag, validator, -, -, hr, hst⟩ hp
  rw [server_plain (request_plain uri)] at hp
  cases hp
  have hh : r.headers = (page uri).headers := by
    obtain ⟨-, -, hh⟩ | ⟨rfl, -⟩ := server_ok hr
    · exact hh rfl
    · rfl
  unfold Paging.following Resource.nextLink? Resource.headerValues
  rw [hh]
  rfl

/-- Where every 304 repeats the headers of its page, the memory cannot be seen. -/
theorem agree_iff_keeps_repeated : (server true).Honest ∧ Filled (server true) (memory true) ∧
    ∀ n, (remembering (server true) n (start first) (memory true)).1.1.map
          (Except.map Resource.shown) =
        (plainly (server true) n (start first)).1.map (Except.map Resource.shown) ∧
      (remembering (server true) n (start first) (memory true)).1.2 =
        (plainly (server true) n (start first)).2 :=
  ⟨server_honest, filled,
    (agree_iff_keeps server_honest filled first).2 fun _ _ _ => keeps_repeated _ _⟩

/-- A 304 without headers cuts the collection short: only the first of its two pages is shown. -/
theorem items_differ : (server false).Honest ∧ Filled (server false) (memory false) ∧
    (remembering (server false) 2 (start first) (memory false)).1.1.map
        (Except.map Resource.shown) ≠
      (plainly (server false) 2 (start first)).1.map (Except.map Resource.shown) ∧
    (remembering (server false) 2 (start first) (memory false)).1.1.map
        (Except.toOption ∘ Except.map Resource.shown) = [some (statusOk, "[1]")] ∧
    (remembering (server false) 2 (start first) (memory false)).1.2.hasNext = false ∧
    (plainly (server false) 2 (start first)).1.map
        (Except.toOption ∘ Except.map Resource.shown) =
      [some (statusOk, "[1]"), some (statusOk, "[2]")] := by
  have hremembered :
      (remembering (server false) 2 (start first) (memory false)).1.1.length = 1 := by
    decide +kernel
  have hplain : (plainly (server false) 2 (start first)).1.length = 2 := by decide +kernel
  refine ⟨server_honest, filled, fun h => ?_, ?_, ?_, ?_⟩
  · have hl := congrArg List.length h
    rw [List.length_map, List.length_map, hremembered, hplain] at hl
    cases hl
  · decide +kernel
  · decide +kernel
  · decide +kernel

end Collection

end Paging

end ConditionalGet
