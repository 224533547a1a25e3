import ConditionalGet.Proofs.Client.Conduct
import ConditionalGet.Proofs.Client.Paging

/-!
# A cache over a cache

`Client.layered` puts a cached client over another, with a memory for its store. A GET through it is
one question to the client inside: `Memory.asking` is the request that goes out, `Memory.brought`
what comes of the answer, and `Memory.keeping` what is on record after it (`run_layered`). Each of
the three, done again by a second layer over the same memory, comes to what it came to before: the
validator on record takes the place of itself, and what has come is on record already. The last
needs that a 304 names no other validator than it was asked about (`Client.Echoes`): the second
layer sees a page with status 200 where the first one sees a 304, and records it under the validator
of the 304. So two layers are one (`layered_layered`).
-/

set_option autoImplicit false

namespace ConditionalGet

open Revalidation Program

variable {σ : Type}

/-! ## One layer -/

/-- The cached client over a client, its store the memory in front of the client's state. -/
def Client.layered (client : Client (StateT Memory (StateM σ))) :
    Client (StateT Memory (StateM σ)) :=
  client.cached Memory.shared fun _ => pure ()

namespace Memory

/-- The request that goes out for a GET. -/
def asking (memory : Memory) (request : Request) : Request :=
  match memory.find? request.uri.text with
  | none => request
  | some r =>
    match FieldValue.ofString? r.etag with
    | none => unconditional request
    | some validator => conditional request validator

/-- What comes of the answer to a GET. -/
def brought (memory : Memory) (uri : String) :
    Except ClientError Resource → Except ClientError Resource
  | .error e => .error e
  | .ok response =>
    match memory.find? uri with
    | none => .ok response
    | some r =>
      if response.status = statusNotModified ∧ (FieldValue.ofString? r.etag).isSome then
        .ok (response.derive statusOk r.body)
      else .ok response

/-- What is on record after a resource has come for a URI, or none. -/
def keeping (memory : Memory) (uri : String) : Except ClientError Resource → Memory
  | .error _ => memory
  | .ok response =>
    match fresh? response with
    | some etag => memory.store uri etag response.body
    | none => memory

end Memory

section
variable {client : Client (StateT Memory (StateM σ))} {w w' : Memory × σ} {request : Request}
  {uri : String} {x : Except ClientError Resource}

/-- How a memory and a client answer in the course of a GET. -/
def layering (client : Client (StateT Memory (StateM σ))) :
    Answering Revalidation.interface (Memory × σ) :=
  answeringState (client.answerCourse Memory.shared fun _ => pure ())

theorem layering_lookup {r : Except StoreError Lookup}
    (h : layering client w (.lookup uri) r w') : r = .ok (w.1.lookup uri) ∧ w' = w := by
  obtain ⟨memory', s'⟩ := w'
  cases h
  exact ⟨rfl, rfl⟩

theorem layering_miss {found : Lookup}
    (h : layering client w (.lookup uri) (.ok found : Except StoreError Lookup) w')
    (he : found.etag? = none) : w' = w ∧ w.1.find? uri = none := by
  obtain ⟨hfound, rfl⟩ := layering_lookup h
  obtain rfl := Except.ok.inj hfound
  cases hf : w'.1.find? uri with
  | none => exact ⟨rfl, rfl⟩
  | some r => simp [Memory.lookup, hf, Lookup.etag?] at he

theorem layering_hit {found : Lookup} {etag : String}
    (h : layering client w (.lookup uri) (.ok found : Except StoreError Lookup) w')
    (he : found.etag? = some etag) :
    w' = w ∧ ∃ body, w.1.find? uri = some ⟨etag, body⟩ ∧ found.body? = some body := by
  obtain ⟨hfound, rfl⟩ := layering_lookup h
  obtain rfl := Except.ok.inj hfound
  cases hf : w'.1.find? uri with
  | none => simp [Memory.lookup, hf, Lookup.etag?] at he
  | some r =>
    obtain ⟨e, body⟩ := r
    simp only [Memory.lookup, hf, Lookup.etag?, Option.some.injEq] at he
    exact ⟨rfl, body, by rw [he], by simp [Memory.lookup, hf, Lookup.body?]⟩

theorem layering_store {etag body : String} {r : Except StoreError Unit}
    (h : layering client w (.store uri etag body) r w') :
    r = .ok () ∧ w' = (w.1.store uri etag body, w.2) := by
  obtain ⟨memory', s'⟩ := w'
  cases h
  exact ⟨rfl, rfl⟩

theorem layering_notify {notice : Notice} {u : Unit}
    (h : layering client w (.notify notice) u w') : w' = w := by
  obtain ⟨memory', s'⟩ := w'
  cases h
  rfl

theorem recorded_layering {response : Resource}
    (h : Recorded (layering client) uri response w x w') :
    x = .ok response ∧ w' = (w.1.keeping uri (.ok response), w.2) := by
  cases h with
  | nothing hf => exact ⟨rfl, by simp [Memory.keeping, hf]⟩
  | stored hf hs =>
    obtain ⟨-, rfl⟩ := layering_store hs
    exact ⟨rfl, by simp [Memory.keeping, hf]⟩
  | refused _ hs => cases (layering_store hs).1

theorem exchanged_layering (h : Exchanged (layering client) request w x w') :
    ∃ memory, ((client request).run w.1).run w.2 = ((x, memory), w'.2) ∧
      w'.1 = memory.keeping request.uri.text x := by
  cases h with
  | failed hs => exact ⟨w'.1, hs, rfl⟩
  | @answered _ _ _ w₁ _ hs hr =>
    obtain ⟨rfl, rfl⟩ := recorded_layering hr
    exact ⟨w₁.1, hs, rfl⟩

/-- The course of a GET over a memory is one question to the client inside. -/
theorem got_layering (h : Got (layering client) request w x w') :
    ∃ y memory, ((client (w.1.asking request)).run w.1).run w.2 = ((y, memory), w'.2) ∧
      x = w.1.brought request.uri.text y ∧ w'.1 = memory.keeping request.uri.text y := by
  cases h with
  | unknown hl => cases (layering_lookup hl).1
  | missed hl he hx =>
    obtain ⟨rfl, hfind⟩ := layering_miss hl he
    obtain ⟨memory, hrun, hkept⟩ := exchanged_layering hx
    refine ⟨x, memory, ?_, ?_, hkept⟩
    · simpa only [Memory.asking, hfind] using hrun
    · cases x <;> simp only [Memory.brought, hfind]
  | unsendable hl he hv hn hx =>
    obtain ⟨rfl, body, hfind, -⟩ := layering_hit hl he
    obtain rfl := layering_notify hn
    obtain ⟨memory, hrun, hkept⟩ := exchanged_layering hx
    refine ⟨x, memory, ?_, ?_, hkept⟩
    · simpa only [Memory.asking, hfind, hv] using hrun
    · cases x <;> simp [Memory.brought, hfind, hv]
  | @unanswered _ _ _ e _ _ _ hl he hv hs =>
    obtain ⟨rfl, body, hfind, -⟩ := layering_hit hl he
    refine ⟨.error e, w'.1, ?_, rfl, rfl⟩
    simp only [Memory.asking, hfind, hv]
    exact hs
  | @changed _ _ _ response _ _ _ w₂ _ hl he hv hs hne hr =>
    obtain ⟨rfl, body, hfind, -⟩ := layering_hit hl he
    obtain ⟨rfl, rfl⟩ := recorded_layering hr
    refine ⟨.ok response, w₂.1, ?_, ?_, rfl⟩
    · simp only [Memory.asking, hfind, hv]
      exact hs
    · simp [Memory.brought, hfind, hne]
  | @unchanged _ _ _ _ response _ _ _ hl he hv hs heq hb =>
    obtain ⟨rfl, body, hfind, hbody⟩ := layering_hit hl he
    cases hbody.symm.trans hb
    refine ⟨.ok response, w'.1, ?_, ?_, ?_⟩
    · simp only [Memory.asking, hfind, hv]
      exact hs
    · simp [Memory.brought, hfind, hv, heq]
    · simp [Memory.keeping, fresh?_of_notModified heq]
  | bodiless hl he hv hs heq hb hn hx =>
    obtain ⟨-, body, -, hbody⟩ := layering_hit hl he
    cases hbody.symm.trans hb

/-- What a GET over a memory does, said by the client inside. -/
theorem run_layered (client : Client (StateT Memory (StateM σ))) (hget : request.method = .get)
    (memory : Memory) (s : σ) :
    ((client.layered request).run memory).run s =
      let y := ((client (memory.asking request)).run memory).run s
      ((memory.brought request.uri.text y.1.1, y.1.2.keeping request.uri.text y.1.1), y.2) := by
  obtain ⟨⟨⟨x, memory'⟩, s'⟩, hrun⟩ : ∃ out, ((client.layered request).run memory).run s = out :=
    ⟨_, rfl⟩
  have hgot : Got (layering client) request (memory, s) x (memory', s') := by
    rw [← runs_get_iff, ← Client.decorated_get hget]
    refine runs_answerState_iff.2 ?_
    rw [← Client.cached_eq_run]
    exact hrun
  obtain ⟨y, memory₁, hy, rfl, rfl⟩ := got_layering hgot
  rw [hrun, hy]

end

theorem layered_other {client : Client (StateT Memory (StateM σ))} {request : Request}
    (hother : request.method ≠ .get) : client.layered request = client request := by
  unfold Client.layered Client.cached
  cases hm : request.method
  · exact absurd hm hother
  all_goals rfl

/-! ## The same again -/

namespace Memory

variable (memory : Memory) {request : Request} {uri : String}
  {x : Except ClientError Resource}

@[simp] theorem asking_uri : (memory.asking request).uri = request.uri := by
  unfold asking
  split
  · rfl
  · split <;> rfl

@[simp] theorem asking_method : (memory.asking request).method = request.method := by
  unfold asking
  split
  · rfl
  · split <;> rfl

/-- The condition on record takes the place of itself. -/
theorem asking_asking : memory.asking (memory.asking request) = memory.asking request := by
  cases hf : memory.find? request.uri.text with
  | none => simp only [asking, hf]
  | some r =>
    cases hv : FieldValue.ofString? r.etag with
    | none => simp only [asking, hf, hv, unconditional, Fields.remove_remove]
    | some validator => simp only [asking, hf, hv, conditional, Fields.insert_insert]

/-- Nothing is done to an answer, or it is a 304 and the body on record takes its place. -/
theorem brought_cases (uri : String) (response : Resource) :
    memory.brought uri (.ok response) = .ok response ∨
      ∃ r validator, memory.find? uri = some r ∧ FieldValue.ofString? r.etag = some validator ∧
        response.status = statusNotModified ∧
        memory.brought uri (.ok response) = .ok (response.derive statusOk r.body) := by
  cases hf : memory.find? uri with
  | none => exact .inl (by simp only [brought, hf])
  | some r =>
    cases hv : FieldValue.ofString? r.etag with
    | none => exact .inl (by simp [brought, hf, hv])
    | some validator =>
      by_cases hst : response.status = statusNotModified
      · exact .inr ⟨r, validator, rfl, hv, hst, by simp [brought, hf, hv, hst]⟩
      · exact .inl (by simp [brought, hf, hst])

theorem brought_of_status {response : Resource} (h : response.status ≠ statusNotModified) :
    memory.brought uri (.ok response) = .ok response := by
  obtain hb | ⟨_, _, _, _, hst, _⟩ := memory.brought_cases uri response
  · exact hb
  · exact absurd hst h

theorem brought_brought : memory.brought uri (memory.brought uri x) = memory.brought uri x := by
  cases x with
  | error e => rfl
  | ok response =>
    obtain hb | ⟨r, _, -, -, -, hb⟩ := memory.brought_cases uri response
    · rw [hb, hb]
    · rw [hb, brought_of_status]
      exact show statusOk ≠ statusNotModified by decide

theorem keeping_keeping : (memory.keeping uri x).keeping uri x = memory.keeping uri x := by
  cases x with
  | error e => rfl
  | ok response =>
    cases hf : fresh? response with
    | none => simp only [keeping, hf]
    | some etag => simp only [keeping, hf, store, Table.insert_insert]

end Memory

/-! ## Two layers -/

/-- A 304 comes without a validator, or with one that the request was sent with. -/
def Client.Echoes (client : Client (StateM σ)) : Prop :=
  ∀ request s response s', request.method = .get → (client request).run s = (.ok response, s') →
    response.status = statusNotModified → ∀ etag, response.etag? = some etag →
    ∃ value ∈ request.headers.values .ifNoneMatch, value.bytes = Text.bytes etag

/-- The client beside a memory that it does not see. -/
def Client.lifted (client : Client (StateM σ)) : Client (StateT Memory (StateM σ)) :=
  fun request => StateT.lift (client request)

section
variable {client : Client (StateM σ)} {memory : Memory} {request : Request} {s s' : σ}
  {x : Except ClientError Resource}

/-- The validator of a 304 to a GET is the one on record, so what is brought for it is on record
already. -/
theorem keeping_brought (hecho : client.Echoes) (hget : request.method = .get)
    (hrun : (client (memory.asking request)).run s = (x, s')) :
    (memory.keeping request.uri.text x).keeping request.uri.text
        (memory.brought request.uri.text x) = memory.keeping request.uri.text x := by
  cases x with
  | error e => rfl
  | ok response =>
    obtain hb | ⟨r, validator, hf, hv, hst, hb⟩ :=
      memory.brought_cases request.uri.text response
    · rw [hb, Memory.keeping_keeping]
    · have hkept : memory.keeping request.uri.text (.ok response) = memory := by
        simp [Memory.keeping, fresh?_of_notModified hst]
      rw [hb, hkept]
      cases he : response.etag? with
      | none =>
        have hfresh : fresh? (response.derive statusOk r.body) = none := he
        simp only [Memory.keeping, hfresh]
      | some etag =>
        obtain ⟨value, hvalue, hbytes⟩ :=
          hecho _ _ _ _ (by simpa using hget) hrun hst etag he
        -- the only condition that the request was sent with is the validator on record
        have hasked : (memory.asking request).headers.values .ifNoneMatch = [validator] := by
          simp only [Memory.asking, hf, hv, conditional, Fields.values_insert, if_true]
        rw [hasked, List.mem_singleton] at hvalue
        obtain rfl : r.etag = etag := by
          refine Text.bytes_injective ?_
          rw [← FieldValue.bytes_of_ofBytes? hv, ← hvalue, hbytes]
        have hfresh : fresh? (response.derive statusOk r.body) = some r.etag := he
        simp only [Memory.keeping, hfresh]
        exact Table.insert_eq_self hf

theorem lifted_run (request : Request) (memory : Memory) (s : σ) :
    ((client.lifted request).run memory).run s =
      ((((client request).run s).1, memory), ((client request).run s).2) := rfl

/-- A layer over a layer with the same memory is no other client. -/
theorem layered_layered (hecho : client.Echoes) :
    client.lifted.layered.layered = client.lifted.layered := by
  funext request
  by_cases hget : request.method = .get
  · refine StateT.ext fun memory => StateT.ext fun s => ?_
    obtain ⟨x, s', hrun⟩ : ∃ x s', (client (memory.asking request)).run s = (x, s') := ⟨_, _, rfl⟩
    rw [run_layered _ hget, run_layered _ hget, run_layered _ (by simpa using hget)]
    simp only [Memory.asking_asking, Memory.asking_uri, lifted_run, hrun, Memory.brought_brought,
      keeping_brought hecho hget hrun]
  · rw [layered_other hget]

theorem Client.Echoes.observed (hecho : client.Echoes) : client.observed.Echoes := by
  intro request c response c' hget hrun
  exact hecho request c.state response _ hget (Prod.ext (Prod.mk.inj hrun).1 rfl)

end

/-- **Caching twice is caching once.** Whatever client is inside, as long as its 304s name no other
validator than they were asked about, whatever is on record, and whatever requests are made: two
cached clients over each other, both with the same memory, bring what one brings, leave on record
what one leaves, and send the client inside the same requests in the same order. -/
theorem twice_eq_once (client : Client (StateM σ)) (hecho : client.Echoes)
    (requests : List Request) (memory : Memory) (s : σ) :
    ((requests.mapM client.observed.lifted.layered.layered).run memory).run { state := s } =
      ((requests.mapM client.observed.lifted.layered).run memory).run { state := s } := by
  rw [layered_layered hecho.observed]

/-! ### A page visited twice -/

namespace Echoing

open Paging.Collection

/-- A client whose 304s repeat the headers of the page, its validator and its link included. -/
def client : Client (StateM Unit) := fun request => return server true request

theorem client_echoes : client.Echoes := by
  intro request s response s' _ hrun hst etag he
  have hanswer : server true request = .ok response := (Prod.mk.inj hrun).1
  obtain ⟨-, hc, hheaders⟩ | ⟨rfl, -⟩ := server_ok hanswer
  · have hetag : response.etag? = (page request.uri).etag? := by
      unfold Resource.etag? Resource.header? Resource.headerValues
      rw [hheaders rfl]
    rw [hetag, page_etag?] at he
    obtain rfl := Option.some.inj he
    obtain ⟨value, hvalue, hbytes⟩ := List.map_eq_singleton_iff.1 hc
    exact ⟨value, hvalue ▸ List.mem_singleton.2 rfl, hbytes⟩
  · rw [page_status] at hst
    cases hst

/-- Asking for the page, and asking again. -/
def visits : List Request := [.get first, .get first]

/-- Through two layers as through one, the second visit brings the page although it is answered by
a 304. The validator stands in that 304 too, so that the outer layer puts the page on record
again. -/
theorem twice_eq_once_visits :
    client.Echoes ∧
      ((visits.mapM client.observed.lifted.layered.layered).run Table.empty).run
          { state := () } =
        ((visits.mapM client.observed.lifted.layered).run Table.empty).run { state := () } ∧
      (((visits.mapM client.observed.lifted.layered).run Table.empty).run
          { state := () }).2.sent.map (fun e =>
            ((e.1.headers.values .ifNoneMatch).map FieldValue.bytes,
              e.2.toOption.map fun response => (response.status, response.etag?))) =
        [([], some (200, some "\"p1\"")),
          ([Text.bytes "\"p1\""], some (304, some "\"p1\""))] :=
  ⟨client_echoes, twice_eq_once client client_echoes _ _ _, by decide +kernel⟩

end Echoing

end ConditionalGet
