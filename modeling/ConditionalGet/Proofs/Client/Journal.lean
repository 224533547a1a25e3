import ConditionalGet.Proofs.Client.Transparency
import ConditionalGet.Store.Memory

/-!
# A memory and the exchanges behind it

A `Journal` is a memory together with all that was sent and answered while it was in use. What is
answered is up to the environment: any status, headers and body, or a failure. A call through a
cached client does to the memory what its exchanges say, one after another
(`Exchange.put`, `got_journaled`), so that the memory is what a journal comes to that starts with an
empty one: for each URI the latest answer to a GET that can be kept (`memory_is_latest`).
-/

set_option autoImplicit false

namespace ConditionalGet

open Revalidation Program

/-! ## Exchanges -/

/-- A request that was sent, and what came of it. -/
structure Exchange where
  request : Request
  answer : Except ClientError Resource

/-- The first value of the headers that are named `etag` once their capitals are small letters. -/
def Resource.validator? (r : Resource) : Option String :=
  ((Table.entries r.headers |>.filter fun e => Text.lower e.1 = "etag").flatMap Prod.snd).head?

theorem Resource.etag?_eq_validator? (r : Resource) : r.etag? = r.validator? := by
  have hname : Text.lower "etag" = "etag" := by decide +kernel
  have hsame : ∀ name, Text.sameLetters name "etag" = decide (Text.lower name = "etag") := by
    intro name
    rw [Bool.eq_iff_iff, Text.sameLetters_iff, hname, decide_eq_true_eq]
  simp only [etag?, header?, headerValues, Headers.values, validator?, hsame]

namespace Exchange

/-- What an exchange brings for a URI: the validator and the body of an answer with status 200 to a
GET for it. -/
def kept? (e : Exchange) (uri : String) : Option CachedResponse :=
  match e.answer with
  | .error _ => none
  | .ok response =>
    if e.request.method = .get ∧ e.request.uri.text = uri ∧ response.status = 200 then
      response.validator?.map fun etag => ⟨etag, response.body⟩
    else none

/-- An exchange brings nothing for a URI: it is no GET for it, it failed, or the answer has another
status than 200 or no validator. -/
def Barren (e : Exchange) (uri : String) : Prop :=
  e.request.method ≠ .get ∨ e.request.uri.text ≠ uri ∨ (∃ fault, e.answer = .error fault) ∨
    ∃ response, e.answer = .ok response ∧
      (response.status ≠ 200 ∨ response.validator? = none)

theorem kept?_eq_none_iff {e : Exchange} {uri : String} : e.kept? uri = none ↔ e.Barren uri := by
  obtain ⟨request, fault | response⟩ := e
  · simp [kept?, Barren]
  · by_cases hget : request.method = .get
    · by_cases huri : request.uri.text = uri
      · by_cases hstatus : response.status = 200 <;> simp [kept?, Barren, hget, huri, hstatus]
      · simp [kept?, Barren, huri]
    · simp [kept?, Barren, hget]

def put (memory : Memory) (e : Exchange) : Memory :=
  match e.kept? e.request.uri.text with
  | some r => memory.store e.request.uri.text r.etag r.body
  | none => memory

theorem lookup_put (memory : Memory) (e : Exchange) (uri : String) :
    (e.put memory).lookup uri = (e.kept? uri).elim (memory.lookup uri) .hit := by
  by_cases huri : e.request.uri.text = uri
  · rw [put, huri]
    cases e.kept? uri with
    | none => rfl
    | some r => rw [Memory.lookup_store, if_pos rfl, Option.elim_some]
  · rw [kept?_eq_none_iff.2 (.inr (.inl huri)), Option.elim_none, put]
    cases e.kept? e.request.uri.text with
    | none => rfl
    | some r => rw [Memory.lookup_store, if_neg (Ne.symm huri)]

end Exchange

/-- The latest that a number of exchanges brought for a URI. -/
def latest? (exchanges : List Exchange) (uri : String) : Option CachedResponse :=
  exchanges.reverse.findSome? (·.kept? uri)

theorem lookup_foldl_put (exchanges : List Exchange) (memory : Memory) (uri : String) :
    (exchanges.foldl Exchange.put memory).lookup uri =
      (latest? exchanges uri).elim (memory.lookup uri) .hit := by
  induction exchanges generalizing memory with
  | nil => rfl
  | cons e rest ih =>
    rw [List.foldl_cons, ih, Exchange.lookup_put, latest?, latest?, List.reverse_cons,
      List.findSome?_append]
    -- what the rest brings hides what the first exchange brought
    cases rest.reverse.findSome? (·.kept? uri) with
    | some r => rfl
    | none => cases hk : e.kept? uri <;> simp [hk]

theorem latest?_eq_none {exchanges : List Exchange} {uri : String}
    (h : ∀ e ∈ exchanges, e.Barren uri) : latest? exchanges uri = none := by
  rw [latest?, List.findSome?_eq_none_iff]
  intro e he
  exact Exchange.kept?_eq_none_iff.2 (h e (List.mem_reverse.1 he))

/-! ## Journals -/

/-- A memory, and what was exchanged while it was in use, the latest last. -/
structure Journal where
  memory : Memory
  exchanges : List Exchange

/-- The environment of a store in memory and of a client that answers anything. -/
def journaled : Answering Revalidation.interface Journal
  | j, .lookup uri, r, j' =>
    ((Memory.shared : Store (StateM Memory)).lookup uri).run j.memory = (r, j'.memory) ∧
      j'.exchanges = j.exchanges
  | j, .store uri etag body, r, j' =>
    ((Memory.shared : Store (StateM Memory)).store uri etag body).run j.memory = (r, j'.memory) ∧
      j'.exchanges = j.exchanges
  | j, .send request, r, j' => j' = ⟨j.memory, j.exchanges ++ [⟨request, r⟩]⟩
  | j, .notify _, _, j' => j' = j

section
variable {j j' : Journal} {request : Request} {x : Except ClientError Resource}

theorem journaled_lookup {uri : String} {r : Except StoreError Lookup}
    (h : journaled j (.lookup uri) r j') : r = .ok (j.memory.lookup uri) ∧ j' = j := by
  obtain ⟨hm, he⟩ := h
  obtain ⟨rfl, hm⟩ := Prod.mk.inj (show (Except.ok (j.memory.lookup uri), j.memory) = _ from hm)
  obtain ⟨memory, exchanges⟩ := j'
  cases hm
  cases he
  exact ⟨rfl, rfl⟩

theorem journaled_store {uri etag body : String} {r : Except StoreError Unit}
    (h : journaled j (.store uri etag body) r j') :
    r = .ok () ∧ j' = ⟨j.memory.store uri etag body, j.exchanges⟩ := by
  obtain ⟨hm, he⟩ := h
  obtain ⟨rfl, hm⟩ := Prod.mk.inj
    (show (Except.ok (), j.memory.store uri etag body) = _ from hm)
  obtain ⟨memory, exchanges⟩ := j'
  cases hm
  cases he
  exact ⟨rfl, rfl⟩

/-! ## One call -/

/-- A number of exchanges about one resource by one method, and what they do to a journal. -/
def Exchanging (request : Request) (j : Journal) (new : List Exchange) (j' : Journal) : Prop :=
  j' = ⟨new.foldl Exchange.put j.memory, j.exchanges ++ new⟩ ∧
    ∀ e ∈ new, e.request.method = request.method ∧ e.request.uri = request.uri

theorem Exchanging.cons {new : List Exchange} {e : Exchange}
    (hm : e.request.method = request.method) (hu : e.request.uri = request.uri)
    (h : Exchanging request ⟨e.put j.memory, j.exchanges ++ [e]⟩ new j') :
    Exchanging request j (e :: new) j' := by
  obtain ⟨hj, hnew⟩ := h
  refine ⟨?_, ?_⟩
  · rw [hj, List.foldl_cons, List.append_assoc, List.singleton_append]
  · intro e' he'
    rcases List.mem_cons.1 he' with rfl | he'
    · exact ⟨hm, hu⟩
    · exact hnew e' he'

/-- An answer that is put on record, or is none to be, is put there as its exchange says. -/
theorem recorded_journaled (sent : Request) {response : Resource} (hget : sent.method = .get)
    (h : Recorded journaled sent.uri.text response j x j') :
    j' = ⟨Exchange.put j.memory ⟨sent, .ok response⟩, j.exchanges⟩ := by
  have hok : statusOk = 200 := rfl
  have hkept : Exchange.kept? ⟨sent, .ok response⟩ sent.uri.text =
      (fresh? response).map fun etag => ⟨etag, response.body⟩ := by
    by_cases hstatus : response.status = 200
    · simp [Exchange.kept?, fresh?, hget, hok, hstatus, Resource.etag?_eq_validator?]
    · simp [Exchange.kept?, fresh?, hok, hstatus]
  rw [Exchange.put, hkept]
  cases h with
  | nothing hf => rw [hf, Option.map_none]
  | stored hf hs => rw [hf, Option.map_some, (journaled_store hs).2]
  | refused _ hs => cases (journaled_store hs).1

theorem Exchanging.single {e : Exchange} (hm : e.request.method = request.method)
    (hu : e.request.uri = request.uri) (h : j' = ⟨e.put j.memory, j.exchanges ++ [e]⟩) :
    Exchanging request j [e] j' := by
  refine .cons hm hu ⟨?_, fun e' he' => nomatch he'⟩
  rw [h, List.foldl_nil, List.append_nil]

/-- An exchange that brings nothing leaves the memory alone. -/
theorem put_of_barren {e : Exchange} (h : ∀ uri, e.Barren uri) (memory : Memory) :
    e.put memory = memory := by
  rw [Exchange.put, Exchange.kept?_eq_none_iff.2 (h _)]

theorem put_error (sent : Request) (fault : ClientError) (memory : Memory) :
    Exchange.put memory ⟨sent, .error fault⟩ = memory :=
  put_of_barren (fun _ => .inr (.inr (.inl ⟨fault, rfl⟩))) memory

theorem put_notModified (sent : Request) {response : Resource}
    (h : response.status = statusNotModified) (memory : Memory) :
    Exchange.put memory ⟨sent, .ok response⟩ = memory := by
  refine put_of_barren (fun _ => .inr (.inr (.inr ⟨response, rfl, .inl ?_⟩))) memory
  rw [h]
  decide

theorem exchanged_journaled (request sent : Request) (hget : sent.method = .get)
    (hm : sent.method = request.method) (hu : sent.uri = request.uri)
    (h : Exchanged journaled sent j x j') : ∃ new, Exchanging request j new j' := by
  cases h with
  | @failed fault _ _ hs =>
    refine ⟨[⟨sent, .error fault⟩], .single hm hu ?_⟩
    rw [put_error]
    exact hs
  | @answered response _ _ _ _ hs hr =>
    obtain rfl : _ = _ := hs
    exact ⟨[⟨sent, .ok response⟩], .single hm hu (recorded_journaled sent hget hr)⟩

/-- The first of the exchanges of a GET is on the condition that the validator on record has
changed, if it can be sent. -/
def Conditioned (request : Request) (j : Journal) (new : List Exchange) : Prop :=
  ∀ etag body, j.memory.lookup request.uri.text = .hit ⟨etag, body⟩ →
    (FieldValue.ofString? etag).isSome → ∃ sent answer rest,
      new = ⟨sent, answer⟩ :: rest ∧ sent.Carries etag

theorem conditioned_cons {etag : String} {validator : FieldValue}
    (he : (j.memory.lookup request.uri.text).etag? = some etag)
    (hv : FieldValue.ofString? etag = some validator) (answer : Except ClientError Resource)
    (rest : List Exchange) :
    Conditioned request j (⟨conditional request validator, answer⟩ :: rest) := by
  intro etag' body hhit _
  rw [hhit] at he
  cases he
  exact ⟨_, _, _, rfl, (carries_conditional request hv).2 rfl⟩

/-- A GET does to the memory what its exchanges say. -/
theorem got_journaled (hget : request.method = .get) (h : Got journaled request j x j') :
    ∃ new, Exchanging request j new j' ∧ Conditioned request j new := by
  cases h with
  | unknown hl =>
    -- a lookup in memory does not fail
    cases (journaled_lookup hl).1
  | missed hl he hx =>
    obtain ⟨hfound, rfl⟩ := journaled_lookup hl
    cases hfound
    obtain ⟨new, hnew⟩ := exchanged_journaled request request hget rfl rfl hx
    refine ⟨new, hnew, fun etag body hhit _ => ?_⟩
    rw [hhit] at he
    cases he
  | unsendable hl he hv hn hx =>
    obtain ⟨hfound, rfl⟩ := journaled_lookup hl
    cases hfound
    obtain rfl : _ = _ := hn
    obtain ⟨new, hnew⟩ := exchanged_journaled request (unconditional request) hget rfl rfl hx
    refine ⟨new, hnew, fun etag body hhit hsend => ?_⟩
    rw [hhit] at he
    cases he
    rw [hv] at hsend
    cases hsend
  | @unanswered _ etag validator fault _ _ _ hl he hv hs =>
    obtain ⟨hfound, rfl⟩ := journaled_lookup hl
    cases hfound
    refine ⟨[⟨conditional request validator, .error fault⟩], .single rfl rfl ?_,
      conditioned_cons he hv _ _⟩
    rw [put_error]
    exact hs
  | @changed _ etag validator response _ _ _ _ _ hl he hv hs hne hr =>
    obtain ⟨hfound, rfl⟩ := journaled_lookup hl
    cases hfound
    obtain rfl : _ = _ := hs
    exact ⟨[⟨conditional request validator, .ok response⟩],
      .single rfl rfl (recorded_journaled (conditional request validator) hget hr),
      conditioned_cons he hv _ _⟩
  | @unchanged _ etag body validator response _ _ _ hl he hv hs hst hb =>
    obtain ⟨hfound, rfl⟩ := journaled_lookup hl
    cases hfound
    refine ⟨[⟨conditional request validator, .ok response⟩], .single rfl rfl ?_,
      conditioned_cons he hv _ _⟩
    rw [put_notModified _ hst]
    exact hs
  | @bodiless _ etag validator response _ _ _ _ _ _ hl he hv hs hst hb hn hx =>
    obtain ⟨hfound, rfl⟩ := journaled_lookup hl
    cases hfound
    obtain rfl : _ = _ := hs
    obtain rfl : _ = _ := hn
    obtain ⟨new, hnew⟩ := exchanged_journaled request (unconditional request) hget rfl rfl hx
    refine ⟨⟨conditional request validator, .ok response⟩ :: new, .cons rfl rfl ?_,
      conditioned_cons he hv _ _⟩
    rw [put_notModified _ hst]
    exact hnew

/-- Any call through a client that was made from the cached one. -/
theorem derived_journaled {c : Client (Program Revalidation.interface)} (hc : c.Derived)
    (h : Runs journaled (c request) j x j') :
    ∃ new, Exchanging request j new j' ∧ (request.method = .get → Conditioned request j new) := by
  obtain ⟨credential, he⟩ := hc request
  rw [he] at h
  by_cases hget : request.method = .get
  · rw [Client.decorated_get (by exact hget)] at h
    obtain ⟨new, hnew, hfirst⟩ := got_journaled (by exact hget) (runs_get_iff.1 h)
    exact ⟨new, hnew, fun _ => hfirst⟩
  · rw [Client.decorated_other (by exact hget)] at h
    have hs : j' = _ := runs_ask_pure_iff.1 h
    refine ⟨[⟨request.withCredential credential, x⟩], .single rfl rfl ?_, fun h => absurd h hget⟩
    rw [put_of_barren fun _ => .inl hget]
    exact hs

end

/-! ## Sessions -/

/-- In every session the memory is what its exchanges come to. -/
theorem Session.Reachable.memory_eq {n : Nat} {s : Session Journal}
    (h : Session.Reachable journaled (fun _ => True) (Session.start n ⟨Table.empty, []⟩) s) :
    s.state.memory = s.state.exchanges.foldl Exchange.put Table.empty := by
  have hput : ∀ {request : Request} {j j' : Journal} {new : List Exchange},
      j.memory = j.exchanges.foldl Exchange.put Table.empty → Exchanging request j new j' →
      j'.memory = j'.exchanges.foldl Exchange.put Table.empty := by
    intro request j j' new hj hnew
    rw [hnew.1, List.foldl_append, ← hj]
  induction h with
  | here => rfl
  | next hr hs ih =>
    cases hs with
    | authenticate => exact ih
    | request hc _ hrun =>
      obtain ⟨new, hnew, -⟩ := derived_journaled (hr.derived _ hc) hrun
      exact hput ih hnew

/-- **What is on record is the latest that was answered.** However many clients share a memory that
was empty at first, whatever was requested through them and whatever was answered: for each URI the
memory has validator and body of the latest answer with status 200 and a validator to a GET for it,
if there was one. A GET whose validator on record can be sent asks first whether that one has
changed. A call changes nothing on record for a URI that its exchanges are barren for. -/
theorem memory_is_latest {n : Nat} {s : Session Journal}
    (hreach : Session.Reachable journaled (fun _ => True) (Session.start n ⟨Table.empty, []⟩) s) :
    (∀ uri, s.state.memory.lookup uri = (latest? s.state.exchanges uri).elim .miss .hit) ∧
      ∀ c ∈ s.clients, ∀ request x j', Runs journaled (c request) s.state x j' →
        ∃ new, j'.exchanges = s.state.exchanges ++ new ∧
          (∀ e ∈ new, e.request.method = request.method ∧ e.request.uri = request.uri) ∧
          (∀ uri, (∀ e ∈ new, e.Barren uri) → j'.memory.lookup uri = s.state.memory.lookup uri) ∧
          (request.method = .get → ∀ etag body,
            s.state.memory.lookup request.uri.text = .hit ⟨etag, body⟩ →
            (FieldValue.ofString? etag).isSome → ∃ sent answer rest,
              new = ⟨sent, answer⟩ :: rest ∧ sent.Carries etag) := by
  constructor
  · intro uri
    rw [hreach.memory_eq, lookup_foldl_put]
    rfl
  · intro c hc request x j' hrun
    obtain ⟨new, ⟨rfl, hsent⟩, hfirst⟩ := derived_journaled (hreach.derived c hc) hrun
    refine ⟨new, rfl, hsent, fun uri hbarren => ?_, hfirst⟩
    rw [lookup_foldl_put, latest?_eq_none hbarren, Option.elim_none]

/-! ### A page on record -/

namespace OnePage

open Visits

def uri : String := request.uri.text

/-- After the first GET of the page. -/
def journal : Journal := ⟨Memory.store Table.empty uri "\"v1\"" "[1]", [⟨request, .ok page⟩]⟩

def session : Session Journal := ⟨[Client.decorated], journal⟩

theorem runs_first : Runs journaled (Client.decorated request) ⟨Table.empty, []⟩ (.ok page)
    journal := by
  have hlookup : journaled ⟨Table.empty, []⟩ (.lookup uri) (.ok .miss : Except StoreError Lookup)
      ⟨Table.empty, []⟩ := ⟨rfl, rfl⟩
  have hstore : journaled ⟨Table.empty, [⟨request, .ok page⟩]⟩ (.store uri "\"v1\"" "[1]")
      (.ok () : Except StoreError Unit) journal := ⟨rfl, rfl⟩
  rw [Client.decorated_get rfl]
  exact runs_get_iff.2 (.missed hlookup rfl (.answered rfl (.stored fresh?_page hstore)))

theorem reachable : Session.Reachable journaled (fun _ => True)
    (Session.start 1 ⟨Table.empty, []⟩) session :=
  .next .here (.request (List.mem_singleton.2 rfl) trivial runs_first)

theorem latest?_page : latest? journal.exchanges uri = some ⟨"\"v1\"", "[1]"⟩ := by decide +kernel

theorem memory_is_latest_page :
    Session.Reachable journaled (fun _ => True) (Session.start 1 ⟨Table.empty, []⟩) session ∧
      journal.memory.lookup uri = .hit ⟨"\"v1\"", "[1]"⟩ ∧
      ∀ x j', Runs journaled (Client.decorated request) journal x j' →
        ∃ sent answer rest, j'.exchanges = journal.exchanges ++ ⟨sent, answer⟩ :: rest ∧
          sent.Carries "\"v1\"" := by
  obtain ⟨hlookup, hcalls⟩ := memory_is_latest reachable
  have hhit : journal.memory.lookup uri = .hit ⟨"\"v1\"", "[1]"⟩ := by
    rw [show journal = session.state from rfl, hlookup, show session.state = journal from rfl,
      latest?_page, Option.elim_some]
  have hsend : (FieldValue.ofString? "\"v1\"").isSome := by rw [ofString?_validator]; rfl
  refine ⟨reachable, hhit, fun x j' hrun => ?_⟩
  obtain ⟨new, hnew, -, -, hfirst⟩ := hcalls _ (List.mem_singleton.2 rfl) request x j' hrun
  obtain ⟨sent, answer, rest, rfl, hcarries⟩ := hfirst rfl _ _ hhit hsend
  exact ⟨sent, answer, rest, hnew, hcarries⟩

end OnePage

end ConditionalGet
