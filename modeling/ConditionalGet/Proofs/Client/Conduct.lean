import ConditionalGet.Proofs.Client.NotModified

/-!
# What a GET asks of its client and its store

`Client.observed` and `Store.observed` are a client and a store with what is asked of them written
down. A store that never fails leaves a GET three ways to go: the request as it is, with the
validator on record as its only condition, or without a condition; and a second request, without a
condition, only after a 304 to a validator whose body is gone (`Conduct.Follows`). The last answer
alone decides what goes on record (`due`).
-/

set_option autoImplicit false

namespace ConditionalGet

open Revalidation Program

variable {σ : Type}

/-- The state behind a client and a store, and what has been asked of the two. -/
structure Conduct (σ : Type) where
  state : σ
  /-- The URIs that were looked up, and what the store knew of them. -/
  lookups : List (String × Except StoreError Lookup) := []
  /-- The requests that were sent, and how they were answered. -/
  sent : List (Request × Except ClientError Resource) := []
  /-- What was given to the store, and for which URI. -/
  recorded : List (String × CachedResponse) := []

namespace Conduct

/-- An action on the state behind client and store. -/
def act {α : Type} (action : StateM σ α) : StateM (Conduct σ) α := fun c =>
  ((action.run c.state).1, { c with state := (action.run c.state).2 })

end Conduct

/-- The client, what is sent through it written down. -/
def Client.observed (client : Client (StateM σ)) : Client (StateM (Conduct σ)) := fun request => do
  let x ← Conduct.act (client request)
  modify fun c => { c with sent := c.sent ++ [(request, x)] }
  return x

/-- The store, what it is asked and given written down. -/
def Store.observed (store : Store (StateM σ)) : Store (StateM (Conduct σ)) where
  lookup uri := do
    let x ← Conduct.act (store.lookup uri)
    modify fun c => { c with lookups := c.lookups ++ [(uri, x)] }
    return x
  store uri etag body := do
    let x ← Conduct.act (store.store uri etag body)
    modify fun c => { c with recorded := c.recorded ++ [(uri, ⟨etag, body⟩)] }
    return x

/-- A store that answers every lookup and takes everything it is given. -/
structure Store.Unfailing (store : Store (StateM σ)) : Prop where
  lookup : ∀ uri state, ∃ found, ((store.lookup uri).run state).1 = .ok found
  store : ∀ uri etag body state, ((store.store uri etag body).run state).1 = .ok ()

/-- `sent` is `request`, but with `conditions` for conditions. -/
structure Request.With (request : Request) (conditions : List FieldValue) (sent : Request) :
    Prop where
  method : sent.method = request.method
  uri : sent.uri = request.uri
  body : sent.body = request.body
  credential : sent.credential = request.credential
  conditions : sent.headers.values .ifNoneMatch = conditions
  others : ∀ name, name ≠ .ifNoneMatch → sent.headers.values name = request.headers.values name

/-- What goes on record for a URI if a request for it is answered so. -/
def due (uri : String) : Except ClientError Resource → List (String × CachedResponse)
  | .ok response => (fresh? response).toList.map fun etag => (uri, ⟨etag, response.body⟩)
  | .error _ => []

theorem mem_due_iff {uri u : String} {x : Except ClientError Resource} {entry : CachedResponse} :
    (u, entry) ∈ due uri x ↔ u = uri ∧ ∃ response, x = .ok response ∧
      response.status = statusOk ∧ response.etag? = some entry.etag ∧
      response.body = entry.body := by
  obtain ⟨etag, body⟩ := entry
  cases x with
  | error e => simp [due]
  | ok response =>
    simp only [due, List.mem_map, Option.mem_toList, fresh?_eq_some_iff,
      Prod.mk.injEq, CachedResponse.mk.injEq, Except.ok.injEq, exists_eq_left']
    constructor
    · rintro ⟨e, ⟨hst, he⟩, rfl, rfl, rfl⟩
      exact ⟨rfl, hst, he, rfl⟩
    · rintro ⟨rfl, hst, he, rfl⟩
      exact ⟨etag, ⟨hst, he⟩, rfl, rfl, rfl⟩

theorem length_due_le (uri : String) (x : Except ClientError Resource) :
    (due uri x).length ≤ 1 := by
  cases x with
  | error e => simp [due]
  | ok response => cases h : fresh? response <;> simp [due, h]

/-- How a GET goes on from its first request, sent with the validator on record: all that is sent,
and what comes out. -/
inductive Settled (request : Request) (found : Lookup) (first : Request) :
    List (Request × Except ClientError Resource) → Except ClientError Resource → Prop
  /-- Anything but a 304 is what comes out. -/
  | handedOn {answer : Except ClientError Resource} :
      (∀ response, answer = .ok response → response.status ≠ statusNotModified) →
      Settled request found first [(first, answer)] answer
  /-- A 304 is answered with the body on record and its own headers. -/
  | fromRecord {response : Resource} {body : String} : response.status = statusNotModified →
      found.body? = some body →
      Settled request found first [(first, .ok response)] (.ok ⟨statusOk, body, response.headers⟩)
  /-- With no body on record, it is asked again without a condition. -/
  | askedAgain {response : Resource} {second : Request} {x : Except ClientError Resource} :
      response.status = statusNotModified → found.body? = none → request.With [] second →
      Settled request found first [(first, .ok response), (second, x)] x

/-- How a GET of which `found` is on record goes: what is sent, what comes out, and what is put on
record. -/
structure Conduct.Follows (c : Conduct σ) (request : Request) (found : Lookup)
    (x : Except ClientError Resource) : Prop where
  /-- With nothing on record, the request is sent as it is. -/
  missed : found = .miss → c.sent = [(request, x)]
  /-- A validator on record is the one condition of the first request. -/
  validated : ∀ etag validator, found.etag? = some etag →
    FieldValue.ofString? etag = some validator →
    ∃ first, request.With [validator] first ∧ Settled request found first c.sent x
  /-- A validator that cannot be sent is as good as none, but the caller's conditions go too. -/
  unsendable : ∀ etag, found.etag? = some etag → FieldValue.ofString? etag = none →
    ∃ sent, request.With [] sent ∧ c.sent = [(sent, x)]
  once : c.recorded.length ≤ 1
  /-- On record goes the last answer, if it has status 200 and a validator. -/
  recorded : ∀ uri entry, (uri, entry) ∈ c.recorded ↔
    uri = request.uri.text ∧ ∃ sent response, c.sent.getLast? = some (sent, .ok response) ∧
      response.status = statusOk ∧ response.etag? = some entry.etag ∧
      response.body = entry.body

/-! ## The requests -/

theorem with_conditional (request : Request) (validator : FieldValue) :
    request.With [validator] (conditional request validator) where
  method := rfl
  uri := rfl
  body := rfl
  credential := rfl
  conditions := by simp [conditional]
  others name hname := by simp [conditional, hname]

theorem with_unconditional (request : Request) : request.With [] (unconditional request) where
  method := rfl
  uri := rfl
  body := rfl
  credential := rfl
  conditions := by simp [unconditional]
  others name hname := by simp [unconditional, hname]

/-! ## The course of a GET, observed -/

section
variable {client : Client (StateM σ)} {store : Store (StateM σ)} {notify : Notice → StateM σ Unit}
  {c c' : Conduct σ} {request : Request} {x : Except ClientError Resource}

/-- How an observed client and an observed store answer a GET. -/
def observing (client : Client (StateM σ)) (store : Store (StateM σ))
    (notify : Notice → StateM σ Unit) : Answering Revalidation.interface (Conduct σ) :=
  answering (client.observed.answerCourse store.observed fun notice => Conduct.act (notify notice))

theorem observing_lookup (hstore : store.Unfailing) {uri : String}
    {r : Except StoreError Lookup}
    (h : observing client store notify c (.lookup uri) r c') :
    (∃ found, r = .ok found) ∧
      ∃ state, c' = { c with state, lookups := c.lookups ++ [(uri, r)] } := by
  obtain ⟨rfl, rfl⟩ := Prod.mk.inj h
  exact ⟨hstore.lookup uri c.state, _, rfl⟩

theorem observing_send (h : observing client store notify c (.send request) x c') :
    ∃ state, c' = { c with state, sent := c.sent ++ [(request, x)] } := by
  obtain ⟨rfl, rfl⟩ := Prod.mk.inj h
  exact ⟨_, rfl⟩

theorem observing_store (hstore : store.Unfailing) {uri etag body : String}
    {r : Except StoreError Unit}
    (h : observing client store notify c (.store uri etag body) r c') :
    r = .ok () ∧ ∃ state,
      c' = { c with state, recorded := c.recorded ++ [(uri, ⟨etag, body⟩)] } := by
  obtain ⟨rfl, rfl⟩ := Prod.mk.inj h
  exact ⟨hstore.store uri etag body c.state, _, rfl⟩

theorem observing_notify {notice : Notice}
    (h : observing client store notify c (.notify notice) () c') :
    ∃ state, c' = { c with state } := by
  obtain ⟨-, rfl⟩ := Prod.mk.inj h
  exact ⟨_, rfl⟩

theorem recorded_observing (hstore : store.Unfailing) {uri : String} {response : Resource}
    (h : Recorded (observing client store notify) uri response c x c') :
    x = .ok response ∧
      ∃ state, c' = { c with state, recorded := c.recorded ++ due uri (.ok response) } := by
  cases h with
  | nothing hf => exact ⟨rfl, c.state, by simp [due, hf]⟩
  | stored hf hs =>
    obtain ⟨-, state, rfl⟩ := observing_store hstore hs
    exact ⟨rfl, state, by simp [due, hf]⟩
  | refused _ hs => cases (observing_store hstore hs).1

/-- An exchange is one request, and its answer is what is due on record. -/
theorem exchanged_observing (hstore : store.Unfailing)
    (h : Exchanged (observing client store notify) request c x c') :
    ∃ state, c' = { c with
      state
      sent := c.sent ++ [(request, x)]
      recorded := c.recorded ++ due request.uri.text x } := by
  cases h with
  | failed hs =>
    obtain ⟨state, rfl⟩ := observing_send hs
    exact ⟨state, by simp [due]⟩
  | answered hs hr =>
    obtain ⟨state, rfl⟩ := observing_send hs
    obtain ⟨rfl, state', rfl⟩ := recorded_observing hstore hr
    exact ⟨state', rfl⟩

/-- What is due on record for the last answer is as `Conduct.Follows` says. -/
theorem recorded_of_due {last : Request × Except ClientError Resource}
    (hlast : c.sent.getLast? = some last) (hdue : c.recorded = due request.uri.text last.2) :
    c.recorded.length ≤ 1 ∧ ∀ uri entry, (uri, entry) ∈ c.recorded ↔
      uri = request.uri.text ∧ ∃ sent response, c.sent.getLast? = some (sent, .ok response) ∧
        response.status = statusOk ∧ response.etag? = some entry.etag ∧
        response.body = entry.body := by
  obtain ⟨sent, answer⟩ := last
  refine ⟨hdue ▸ length_due_le _ _, fun uri entry => ?_⟩
  rw [hdue, mem_due_iff, hlast]
  simp only [Option.some.injEq, Prod.mk.injEq]
  refine and_congr_right fun _ => ?_
  constructor
  · rintro ⟨response, rfl, h⟩
    exact ⟨sent, response, ⟨rfl, rfl⟩, h⟩
  · rintro ⟨_, response, ⟨-, rfl⟩, h⟩
    exact ⟨response, rfl, h⟩

theorem due_notModified {uri : String} {response : Resource}
    (h : response.status = statusNotModified) : due uri (.ok response) = [] := by
  simp [due, fresh?_of_notModified h]

/-- A GET that finds nothing, or a validator that cannot be sent, is one exchange. -/
theorem Conduct.Follows.of_plain {found : Lookup} {sent : Request}
    (hplain : found = .miss ∧ sent = request ∨
      ∃ etag, found.etag? = some etag ∧ FieldValue.ofString? etag = none ∧ request.With [] sent)
    (hsent : c.sent = [(sent, x)]) (hdue : c.recorded = due request.uri.text x) :
    c.Follows request found x := by
  have hlast : c.sent.getLast? = some (sent, x) := by
    rw [hsent]
    rfl
  obtain ⟨once, recorded⟩ := recorded_of_due hlast hdue
  obtain ⟨rfl, rfl⟩ | ⟨etag, he, hv, hw⟩ := hplain
  · exact {
      missed := fun _ => hsent
      validated := fun _ _ he => nomatch he
      unsendable := fun _ he => nomatch he
      once, recorded }
  · refine {
      missed := ?_
      validated := ?_
      unsendable := fun _ _ _ => ⟨_, hw, hsent⟩
      once, recorded }
    · rintro rfl
      cases he
    · intro etag' validator he' hv'
      rw [Option.some.inj (he'.symm.trans he), hv] at hv'
      cases hv'

/-- A GET that finds a validator sends it first. -/
theorem Conduct.Follows.of_settled {found : Lookup} {etag : String} {validator : FieldValue}
    {last : Request × Except ClientError Resource} (he : found.etag? = some etag)
    (hv : FieldValue.ofString? etag = some validator)
    (hsettled : Settled request found (conditional request validator) c.sent x)
    (hlast : c.sent.getLast? = some last) (hdue : c.recorded = due request.uri.text last.2) :
    c.Follows request found x := by
  obtain ⟨once, recorded⟩ := recorded_of_due hlast hdue
  refine { missed := ?_, validated := ?_, unsendable := ?_, once, recorded }
  · rintro rfl
    cases he
  · intro etag' validator' he' hv'
    obtain rfl := Option.some.inj (he'.symm.trans he)
    obtain rfl := Option.some.inj (hv'.symm.trans hv)
    exact ⟨_, with_conditional request _, hsettled⟩
  · intro etag' he' hv'
    rw [Option.some.inj (he'.symm.trans he), hv] at hv'
    cases hv'

/-- The course of a GET through an observed client and an observed store that never fails. -/
theorem got_observing (hstore : store.Unfailing) {state : σ}
    (h : Got (observing client store notify) request ⟨state, [], [], []⟩ x c) :
    ∃ found, c.lookups = [(request.uri.text, .ok found)] ∧ c.Follows request found x := by
  cases h with
  | unknown hl =>
    obtain ⟨⟨found, hf⟩, -⟩ := observing_lookup hstore hl
    cases hf
  | missed hl he hx =>
    obtain ⟨-, state₁, rfl⟩ := observing_lookup hstore hl
    obtain ⟨state₂, rfl⟩ := exchanged_observing hstore hx
    exact ⟨_, rfl, .of_plain (.inl ⟨Lookup.eq_miss he, rfl⟩) rfl rfl⟩
  | unsendable hl he hv hn hx =>
    obtain ⟨-, state₁, rfl⟩ := observing_lookup hstore hl
    obtain ⟨state₂, rfl⟩ := observing_notify hn
    obtain ⟨state₃, rfl⟩ := exchanged_observing hstore hx
    exact ⟨_, rfl, .of_plain (.inr ⟨_, he, hv, with_unconditional request⟩) rfl rfl⟩
  | unanswered hl he hv hs =>
    obtain ⟨-, state₁, rfl⟩ := observing_lookup hstore hl
    obtain ⟨state₂, rfl⟩ := observing_send hs
    exact ⟨_, rfl, .of_settled he hv (.handedOn fun _ hr => nomatch hr) rfl rfl⟩
  | changed hl he hv hs hne hr =>
    obtain ⟨-, state₁, rfl⟩ := observing_lookup hstore hl
    obtain ⟨state₂, rfl⟩ := observing_send hs
    obtain ⟨rfl, state₃, rfl⟩ := recorded_observing hstore hr
    refine ⟨_, rfl, .of_settled he hv (.handedOn fun response hr => ?_) rfl rfl⟩
    cases hr
    exact hne
  | unchanged hl he hv hs hst hb =>
    obtain ⟨-, state₁, rfl⟩ := observing_lookup hstore hl
    obtain ⟨state₂, rfl⟩ := observing_send hs
    exact ⟨_, rfl, .of_settled he hv (.fromRecord hst hb) rfl (due_notModified hst).symm⟩
  | bodiless hl he hv hs hst hb hn hx =>
    obtain ⟨-, state₁, rfl⟩ := observing_lookup hstore hl
    obtain ⟨state₂, rfl⟩ := observing_send hs
    obtain ⟨state₃, rfl⟩ := observing_notify hn
    obtain ⟨state₄, rfl⟩ := exchanged_observing hstore hx
    exact ⟨_, rfl, .of_settled he hv (.askedAgain hst hb (with_unconditional request)) rfl rfl⟩

/-- **A GET does what is on record calls for.** Through any client and any store that never fails,
whatever headers a GET comes with: it looks its URI up once, and what it sends, brings and puts on
record is what follows from what the store knew. -/
theorem get_follows_record (client : Client (StateM σ)) {store : Store (StateM σ)}
    (hstore : store.Unfailing) (notify : Notice → StateM σ Unit) {request : Request}
    (hget : request.method = .get) (state : σ) :
    ∃ found x c, (client.observed.cached store.observed
        (fun notice => Conduct.act (notify notice)) request).run ⟨state, [], [], []⟩ = (x, c) ∧
      c.lookups = [(request.uri.text, .ok found)] ∧ c.Follows request found x := by
  obtain ⟨⟨x, c⟩, hrun⟩ : ∃ result, result = (client.observed.cached store.observed
    (fun notice => Conduct.act (notify notice)) request).run ⟨state, [], [], []⟩ := ⟨_, rfl⟩
  have hgot : Got (observing client store notify) request ⟨state, [], [], []⟩ x c := by
    rw [← runs_get_iff, ← Client.decorated_get hget]
    refine runs_answer_iff.2 ?_
    rw [← Client.cached_eq_run]
    exact hrun.symm
  obtain ⟨found, hl, hfollows⟩ := got_observing hstore hgot
  exact ⟨found, x, c, hrun.symm, hl, hfollows⟩

end

/-! ### A validator whose body is gone -/

namespace Bodiless

open Visits

/-- A server with one page that never changes, behind a client that keeps nothing. -/
def client : Client (StateM Unit) := fun request => return .ok (server () request)

/-- A store that knows the validator of the page, but not its body. -/
def store : Store (StateM Unit) where
  lookup _ := return .ok (.etagOnly "\"v1\"")
  store _ _ _ := return .ok ()

theorem store_unfailing : store.Unfailing where
  lookup _ _ := ⟨_, rfl⟩
  store _ _ _ _ := rfl

/-- A validator that the page does not have. -/
def former : FieldValue := { bytes := Text.bytes "\"v0\"", valid := by decide +kernel }

/-- A caller asks for the page on two conditions of his own. -/
def asking : Request :=
  .get request.uri ((Fields.empty.append .ifNoneMatch former).append .ifNoneMatch validator)

/-- The validator goes out alone; after the 304 the page is asked for without a condition. -/
theorem get_follows_record_bodiless :
    store.Unfailing ∧ asking.method = .get ∧
      ∃ x c, (client.observed.cached store.observed
          (fun _ => Conduct.act (pure ())) asking).run ⟨(), [], [], []⟩ = (x, c) ∧
        c.lookups = [(asking.uri.text, .ok (.etagOnly "\"v1\""))] ∧
        c.Follows asking (.etagOnly "\"v1\"") x := by
  have hget : asking.method = .get := rfl
  obtain ⟨found, x, c, hrun, hl, hfollows⟩ :=
    get_follows_record client store_unfailing (fun _ => pure ()) hget ()
  have hfound : c.lookups = [(asking.uri.text, .ok (.etagOnly "\"v1\""))] := by
    rw [← congrArg (fun r => r.2.lookups) hrun]
    rfl
  cases hl.symm.trans hfound
  exact ⟨store_unfailing, rfl, x, c, hrun, hl, hfollows⟩

end Bodiless

end ConditionalGet
