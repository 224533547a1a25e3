import ConditionalGet.Proofs.Client.Paging

/-!
# Who sees that nothing has changed

A 304 answers a condition. The conditions that a cached client puts on a request are its own affair:
a 304 to one of them never gets to the caller. A caller may put a condition on a request himself.
With something on record it gives way to that of the client, or to none; with nothing on record the
request goes out as it is and the answer comes back as it is, so a 304 is seen then, and only then
(`get_notModified_iff`).
-/

set_option autoImplicit false

namespace ConditionalGet

open Revalidation Program

section
variable {σ : Type} {step : Answering Revalidation.interface σ} {s s' : σ} {request : Request}
  {response : Resource}

/-- Nothing but a condition is answered by a 304. -/
def AnswersConditions (step : Answering Revalidation.interface σ) : Prop :=
  ∀ s request response s', step s (.send request) (.ok response : Except ClientError Resource) s' →
    response.status = statusNotModified → request.headers.values .ifNoneMatch ≠ []

/-- Recording hands an answer on, and if that is a 304 it does nothing. -/
theorem recorded_notModified {uri : String} {answer : Resource}
    (h : Recorded step uri answer s (.ok response) s') :
    response = answer ∧ (answer.status = statusNotModified → s' = s) := by
  cases h with
  | nothing => exact ⟨rfl, fun _ => rfl⟩
  | stored hf =>
    refine ⟨rfl, fun hst => ?_⟩
    rw [(fresh?_eq_some_iff.1 hf).1] at hst
    cases hst

/-- An exchange brings a 304 if the request is answered by one. -/
theorem exchanged_notModified (h : Exchanged step request s (.ok response) s')
    (hst : response.status = statusNotModified) :
    step s (.send request) (.ok response : Except ClientError Resource) s' := by
  cases h with
  | answered hs hr =>
    obtain ⟨rfl, hsame⟩ := recorded_notModified hr
    rw [hsame hst]
    exact hs

theorem status_ne_of_unconditional (hconditions : AnswersConditions step)
    (h : Exchanged step (unconditional request) s (.ok response) s') :
    response.status ≠ statusNotModified := by
  intro hst
  have hvalues := hconditions _ _ _ _ (exchanged_notModified h hst) hst
  simp [unconditional] at hvalues

theorem Lookup.eq_miss {found : Lookup} (h : found.etag? = none) : found = .miss := by
  cases found with
  | miss => rfl
  | hit => cases h
  | etagOnly => cases h

/-- **When a GET brings a 304.** If servers answer nothing but conditions by a 304, a GET through
the cached client brings one exactly if nothing is on record, the caller has put a condition on the
request, and the request, sent as it is, is answered by that 304. -/
theorem get_notModified_iff (hconditions : AnswersConditions step) (hget : request.method = .get) :
    (Runs step (Client.decorated request) s (.ok response) s' ∧
        response.status = statusNotModified) ↔
      ∃ s₁, step s (.lookup request.uri.text) (.ok .miss : Except StoreError Lookup) s₁ ∧
        request.headers.values .ifNoneMatch ≠ [] ∧
        step s₁ (.send request) (.ok response : Except ClientError Resource) s' ∧
        response.status = statusNotModified := by
  rw [Client.decorated_get hget, runs_get_iff]
  constructor
  · rintro ⟨hgot, hst⟩
    cases hgot with
    | missed hl he hx =>
      have hsent := exchanged_notModified hx hst
      rw [Lookup.eq_miss he] at hl
      exact ⟨_, hl, hconditions _ _ _ _ hsent hst, hsent, hst⟩
    | unsendable _ _ _ _ hx => exact absurd hst (status_ne_of_unconditional hconditions hx)
    | changed _ _ _ _ hne hr =>
      obtain ⟨rfl, -⟩ := recorded_notModified hr
      exact absurd hst hne
    | unchanged =>
      -- the body on record has come with status 200
      cases hst
    | bodiless _ _ _ _ _ _ _ hx => exact absurd hst (status_ne_of_unconditional hconditions hx)
  · rintro ⟨s₁, hl, -, hsent, hst⟩
    have hfresh : fresh? response = none := by
      rw [fresh?, hst, if_neg (by decide)]
    exact ⟨.missed hl rfl (.answered hsent (.nothing hfresh)), hst⟩

end

/-! ### A condition of the caller -/

namespace OwnCondition

open Visits

/-- A server that takes every condition for fulfilled. -/
def server : Unchanging := fun request =>
  .ok (if request.headers.values .ifNoneMatch = [] then page else same)

/-- A caller asks for the page on a condition. -/
def asking : Request := conditional request validator

/-- The page is on record. -/
def visited : Memory := Memory.store Table.empty asking.uri.text "\"v1\"" "[1]"

theorem server_conditions {request : Request} {response : Resource}
    (h : server request = .ok response) (hst : response.status = statusNotModified) :
    request.headers.values .ifNoneMatch ≠ [] := by
  intro hvalues
  rw [server, if_pos hvalues] at h
  obtain rfl := Except.ok.inj h
  cases hst

theorem answersConditions : AnswersConditions (inMemory server) := by
  intro memory request response memory' hs hst
  exact server_conditions (inMemory_send hs).1.symm hst

/-- With the page on record the caller does not see that it has not changed. -/
theorem get_notModified_iff_visited :
    AnswersConditions (inMemory server) ∧ asking.method = .get ∧
      ∀ response memory', ¬(Runs (inMemory server) (Client.decorated asking) visited
        (.ok response) memory' ∧ response.status = statusNotModified) := by
  refine ⟨answersConditions, rfl, fun response memory' h => ?_⟩
  obtain ⟨memory₁, hl, -⟩ := (get_notModified_iff answersConditions rfl).1 h
  have hmiss := (inMemory_lookup hl).1
  rw [visited, Memory.lookup_store, if_pos rfl] at hmiss
  cases hmiss

/-- With nothing on record the caller sees it. -/
theorem asking_sees_notModified :
    (∀ request response, server request = .ok response → response.status = statusNotModified →
        request.headers.values .ifNoneMatch ≠ []) ∧
      asking.method = .get ∧
      ∃ response, ((Client.remembering server asking).run Table.empty).1 = .ok response ∧
        response.status = statusNotModified := by
  have hcondition : asking.headers.values .ifNoneMatch ≠ [] := by
    simp [asking, conditional]
  have hsent : inMemory server Table.empty (.send asking) (.ok same : Except ClientError Resource)
      Table.empty := by
    have hsame : server asking = .ok same := by rw [server, if_neg hcondition]
    show (server asking, Table.empty) = (.ok same, Table.empty)
    rw [hsame]
  have hgot : Got (inMemory server) asking Table.empty (.ok same) Table.empty :=
    .missed rfl rfl (.answered hsent (.nothing rfl))
  refine ⟨fun _ _ => server_conditions, rfl, same, ?_, rfl⟩
  rw [(remembering_run_iff rfl).2 hgot]

end OwnCondition

end ConditionalGet
