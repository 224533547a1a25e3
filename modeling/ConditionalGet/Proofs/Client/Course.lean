import ConditionalGet.Client.Revalidation
import ConditionalGet.Proofs.Runs
import Mathlib.Logic.Relation

/-!
# The courses that a GET can take

`Got step request s x s'` lists, for any environment, all that can happen in the course of a GET:
which questions are asked in which order, and what comes out. `runs_get_iff` says that the runs of
`Revalidation.get` are exactly these; facts about GETs are proved by cases on `Got`, and nothing else
unfolds the program. `Exchanged` and `Recorded` are its parts for a request whose answer goes on
record.
-/

set_option autoImplicit false

namespace ConditionalGet.Revalidation

open Program

variable {σ : Type} (step : Answering interface σ)

/-- The validator under which a response goes on record: that of a response with status 200. -/
def fresh? (response : Resource) : Option String :=
  if response.status = statusOk then response.etag? else none

theorem fresh?_eq_some_iff {response : Resource} {etag : String} :
    fresh? response = some etag ↔ response.status = statusOk ∧ response.etag? = some etag := by
  simp [fresh?]

/-- An answer that nothing has changed does not go on record. -/
theorem fresh?_of_notModified {response : Resource} (h : response.status = statusNotModified) :
    fresh? response = none := by
  rw [fresh?, h, if_neg (by decide)]

/-- A response goes on record under its validator, if it has one to be recorded under. -/
inductive Recorded (uri : String) (response : Resource) :
    σ → Except ClientError Resource → σ → Prop
  | nothing {s : σ} : fresh? response = none → Recorded uri response s (.ok response) s
  | stored {etag : String} {s s' : σ} : fresh? response = some etag →
      step s (.store uri etag response.body) (.ok () : Except StoreError Unit) s' →
      Recorded uri response s (.ok response) s'
  | refused {etag : String} {e : StoreError} {s s' : σ} : fresh? response = some etag →
      step s (.store uri etag response.body) (.error e : Except StoreError Unit) s' →
      Recorded uri response s (.error (.store e)) s'

/-- A request is sent and its answer goes on record. -/
inductive Exchanged (request : Request) : σ → Except ClientError Resource → σ → Prop
  | failed {e : ClientError} {s s' : σ} :
      step s (.send request) (.error e : Except ClientError Resource) s' →
      Exchanged request s (.error e) s'
  | answered {response : Resource} {x : Except ClientError Resource} {s s₁ s' : σ} :
      step s (.send request) (.ok response : Except ClientError Resource) s₁ →
      Recorded step request.uri.text response s₁ x s' → Exchanged request s x s'

/-- The course of a GET (module doc). -/
inductive Got (request : Request) : σ → Except ClientError Resource → σ → Prop
  | unknown {e : StoreError} {s s' : σ} :
      step s (.lookup request.uri.text) (.error e : Except StoreError Lookup) s' →
      Got request s (.error (.store e)) s'
  /-- Nothing is on record. -/
  | missed {found : Lookup} {x : Except ClientError Resource} {s s₁ s' : σ} :
      step s (.lookup request.uri.text) (.ok found : Except StoreError Lookup) s₁ →
      found.etag? = none → Exchanged step request s₁ x s' → Got request s x s'
  /-- The validator on record cannot be put on a request. -/
  | unsendable {found : Lookup} {etag : String} {x : Except ClientError Resource}
      {s s₁ s₂ s' : σ} :
      step s (.lookup request.uri.text) (.ok found : Except StoreError Lookup) s₁ →
      found.etag? = some etag → FieldValue.ofString? etag = none →
      step s₁ (.notify (.unsendableValidator request.uri.text)) () s₂ →
      Exchanged step (unconditional request) s₂ x s' → Got request s x s'
  | unanswered {found : Lookup} {etag : String} {validator : FieldValue} {e : ClientError}
      {s s₁ s' : σ} :
      step s (.lookup request.uri.text) (.ok found : Except StoreError Lookup) s₁ →
      found.etag? = some etag → FieldValue.ofString? etag = some validator →
      step s₁ (.send (conditional request validator)) (.error e : Except ClientError Resource) s' →
      Got request s (.error e) s'
  /-- The server sends something else than that nothing has changed. -/
  | changed {found : Lookup} {etag : String} {validator : FieldValue} {response : Resource}
      {x : Except ClientError Resource} {s s₁ s₂ s' : σ} :
      step s (.lookup request.uri.text) (.ok found : Except StoreError Lookup) s₁ →
      found.etag? = some etag → FieldValue.ofString? etag = some validator →
      step s₁ (.send (conditional request validator))
        (.ok response : Except ClientError Resource) s₂ →
      response.status ≠ statusNotModified → Recorded step request.uri.text response s₂ x s' →
      Got request s x s'
  /-- Nothing has changed, and the body is on record. -/
  | unchanged {found : Lookup} {etag body : String} {validator : FieldValue} {response : Resource}
      {s s₁ s' : σ} :
      step s (.lookup request.uri.text) (.ok found : Except StoreError Lookup) s₁ →
      found.etag? = some etag → FieldValue.ofString? etag = some validator →
      step s₁ (.send (conditional request validator))
        (.ok response : Except ClientError Resource) s' →
      response.status = statusNotModified → found.body? = some body →
      Got request s (.ok (response.derive statusOk body)) s'
  /-- Nothing has changed, but the body is not on record. -/
  | bodiless {found : Lookup} {etag : String} {validator : FieldValue} {response : Resource}
      {x : Except ClientError Resource} {s s₁ s₂ s₃ s' : σ} :
      step s (.lookup request.uri.text) (.ok found : Except StoreError Lookup) s₁ →
      found.etag? = some etag → FieldValue.ofString? etag = some validator →
      step s₁ (.send (conditional request validator))
        (.ok response : Except ClientError Resource) s₂ →
      response.status = statusNotModified → found.body? = none →
      step s₂ (.notify (.bodyMissing request.uri.text)) () s₃ →
      Exchanged step (unconditional request) s₃ x s' → Got request s x s'

variable {step} {s s' : σ}

/-! ## The questions -/

theorem runs_lookup_iff {uri : String} {x : Except ClientError Lookup} :
    Runs step (lookup uri).run s x s' ↔
      (∃ e, step s (.lookup uri) (.error e : Except StoreError Lookup) s' ∧ x = .error (.store e)) ∨
        ∃ l, step s (.lookup uri) (.ok l : Except StoreError Lookup) s' ∧ x = .ok l :=
  runs_except_mapError_iff.trans (or_congr
    (exists_congr fun _ => and_congr_left fun _ => runs_ask_pure_iff)
    (exists_congr fun _ => and_congr_left fun _ => runs_ask_pure_iff))

theorem runs_store_iff {uri etag body : String} {x : Except ClientError Unit} :
    Runs step (store uri etag body).run s x s' ↔
      (∃ e, step s (.store uri etag body) (.error e : Except StoreError Unit) s' ∧
        x = .error (.store e)) ∨
        ∃ u, step s (.store uri etag body) (.ok u : Except StoreError Unit) s' ∧ x = .ok u :=
  runs_except_mapError_iff.trans (or_congr
    (exists_congr fun _ => and_congr_left fun _ => runs_ask_pure_iff)
    (exists_congr fun _ => and_congr_left fun _ => runs_ask_pure_iff))

theorem runs_send_iff {request : Request} {x : Except ClientError Resource} :
    Runs step (send request).run s x s' ↔ step s (.send request) x s' := runs_ask_pure_iff

theorem runs_notify_iff {notice : Notice} {x : Except ClientError Unit} :
    Runs step (notify notice).run s x s' ↔ step s (.notify notice) () s' ∧ x = .ok () := by
  refine runs_except_lift_iff.trans ?_
  constructor
  · rintro ⟨u, h, rfl⟩
    exact ⟨runs_ask_pure_iff.1 h, rfl⟩
  · rintro ⟨h, rfl⟩
    exact ⟨(), runs_ask_pure_iff.2 h, rfl⟩

/-! ## The parts -/

theorem remember_eq (uri : String) (response : Resource) :
    remember uri response = match fresh? response with
      | some etag => store uri etag response.body
      | none => pure () := by
  by_cases hs : response.status = statusOk
  · cases he : response.etag? <;> simp [remember, fresh?, hs, he]
  · simp [remember, fresh?, hs]

/-- What is left of an exchange once the answer is there. -/
theorem runs_recorded_iff {uri : String} {response : Resource} {x : Except ClientError Resource} :
    Runs step (do remember uri response; return response : Course Resource).run s x s' ↔
      Recorded step uri response s x s' := by
  rw [runs_except_bind_iff, remember_eq]
  constructor
  · cases hf : fresh? response with
    | none =>
      rintro (⟨e, hp, rfl⟩ | ⟨u, s₁, hp, hr⟩)
      · cases (runs_except_pure_iff.1 hp).1
      · obtain ⟨-, rfl⟩ := runs_except_pure_iff.1 hp
        obtain ⟨rfl, rfl⟩ := runs_except_pure_iff.1 hr
        exact .nothing hf
    | some etag =>
      rintro (⟨e, hp, rfl⟩ | ⟨u, s₁, hp, hr⟩)
      · obtain ⟨e', hq, he⟩ | ⟨u, hq, hu⟩ := runs_store_iff.1 hp
        · cases he
          exact .refused hf hq
        · cases hu
      · obtain ⟨rfl, rfl⟩ := runs_except_pure_iff.1 hr
        obtain ⟨e', hq, he⟩ | ⟨u', hq, hu⟩ := runs_store_iff.1 hp
        · cases he
        · exact .stored hf hq
  · rintro (hf | ⟨hf, hq⟩ | ⟨hf, hq⟩)
    · rw [hf]
      exact .inr ⟨(), s, runs_except_pure_iff.2 ⟨rfl, rfl⟩, runs_except_pure_iff.2 ⟨rfl, rfl⟩⟩
    · rw [hf]
      exact .inr ⟨(), s', runs_store_iff.2 (.inr ⟨(), hq, rfl⟩),
        runs_except_pure_iff.2 ⟨rfl, rfl⟩⟩
    · rw [hf]
      exact .inl ⟨_, runs_store_iff.2 (.inl ⟨_, hq, rfl⟩), rfl⟩

theorem runs_exchange_iff {request : Request} {x : Except ClientError Resource} :
    Runs step (exchange request).run s x s' ↔ Exchanged step request s x s' := by
  refine runs_except_bind_iff.trans ?_
  simp only [runs_send_iff]
  constructor
  · rintro (⟨e, hs, rfl⟩ | ⟨response, s₁, hs, hr⟩)
    · exact .failed hs
    · exact .answered hs (runs_recorded_iff.1 hr)
  · rintro (hs | ⟨hs, hr⟩)
    · exact .inl ⟨_, hs, rfl⟩
    · exact .inr ⟨_, _, hs, runs_recorded_iff.2 hr⟩

/-- What is left of a GET once the answer to the conditional request is there. -/
theorem runs_settle_iff {request : Request} {found : Lookup} {response : Resource}
    {x : Except ClientError Resource} :
    Runs step (settle request found response).run s x s' ↔
      (response.status ≠ statusNotModified ∧ Recorded step request.uri.text response s x s') ∨
      (response.status = statusNotModified ∧ ∃ body, found.body? = some body ∧
        x = .ok (response.derive statusOk body) ∧ s' = s) ∨
      (response.status = statusNotModified ∧ found.body? = none ∧
        ∃ s₁, step s (.notify (.bodyMissing request.uri.text)) () s₁ ∧
          Exchanged step (unconditional request) s₁ x s') := by
  by_cases hs : response.status = statusNotModified
  · cases hb : found.body? with
    | some body =>
      simp only [settle, hs, hb, ne_eq, not_true_eq_false, if_false]
      refine runs_except_pure_iff.trans ?_
      simp
    | none =>
      simp only [settle, hs, hb, ne_eq, not_true_eq_false, if_false]
      refine runs_except_bind_iff.trans ?_
      simp only [runs_notify_iff, runs_exchange_iff]
      simp
  · simp only [settle, hs, ne_eq, not_false_eq_true, if_true]
    refine runs_recorded_iff.trans ?_
    simp

/-- The runs of a GET are the courses listed by `Got`. -/
theorem runs_get_iff {request : Request} {x : Except ClientError Resource} :
    Runs step (get request).run s x s' ↔ Got step request s x s' := by
  refine runs_except_bind_iff.trans ?_
  constructor
  · rintro (⟨e, hp, rfl⟩ | ⟨found, s₁, hp, hr⟩)
    · obtain ⟨e', hl, he⟩ | ⟨l, hl, he⟩ := runs_lookup_iff.1 hp
      · cases he
        exact .unknown hl
      · cases he
    · obtain ⟨e', hl, he⟩ | ⟨l, hl, he⟩ := runs_lookup_iff.1 hp
      · cases he
      · cases he
        cases het : found.etag? with
        | none =>
          simp only [het] at hr
          exact .missed hl het (runs_exchange_iff.1 hr)
        | some etag =>
          cases hv : FieldValue.ofString? etag with
          | none =>
            simp only [het, hv] at hr
            obtain ⟨e, hn, rfl⟩ | ⟨u, s₂, hn, hr⟩ := runs_except_bind_iff.1 hr
            · cases (runs_notify_iff.1 hn).2
            · exact .unsendable hl het hv (runs_notify_iff.1 hn).1 (runs_exchange_iff.1 hr)
          | some validator =>
            simp only [het, hv] at hr
            obtain ⟨e, hs, rfl⟩ | ⟨response, s₂, hs, hr⟩ := runs_except_bind_iff.1 hr
            · exact .unanswered hl het hv (runs_send_iff.1 hs)
            · obtain ⟨hne, hr⟩ | ⟨heq, body, hb, rfl, rfl⟩ | ⟨heq, hb, s₃, hn, hr⟩ :=
                runs_settle_iff.1 hr
              · exact .changed hl het hv (runs_send_iff.1 hs) hne hr
              · exact .unchanged hl het hv (runs_send_iff.1 hs) heq hb
              · exact .bodiless hl het hv (runs_send_iff.1 hs) heq hb hn hr
  · intro h
    cases h with
    | unknown hl => exact .inl ⟨_, runs_lookup_iff.2 (.inl ⟨_, hl, rfl⟩), rfl⟩
    | missed hl het hx =>
      refine .inr ⟨_, _, runs_lookup_iff.2 (.inr ⟨_, hl, rfl⟩), ?_⟩
      simp only [het]
      exact runs_exchange_iff.2 hx
    | unsendable hl het hv hn hx =>
      refine .inr ⟨_, _, runs_lookup_iff.2 (.inr ⟨_, hl, rfl⟩), ?_⟩
      simp only [het, hv]
      exact runs_except_bind_iff.2
        (.inr ⟨(), _, runs_notify_iff.2 ⟨hn, rfl⟩, runs_exchange_iff.2 hx⟩)
    | unanswered hl het hv hs =>
      refine .inr ⟨_, _, runs_lookup_iff.2 (.inr ⟨_, hl, rfl⟩), ?_⟩
      simp only [het, hv]
      exact runs_except_bind_iff.2 (.inl ⟨_, runs_send_iff.2 hs, rfl⟩)
    | changed hl het hv hs hne hr =>
      refine .inr ⟨_, _, runs_lookup_iff.2 (.inr ⟨_, hl, rfl⟩), ?_⟩
      simp only [het, hv]
      exact runs_except_bind_iff.2
        (.inr ⟨_, _, runs_send_iff.2 hs, runs_settle_iff.2 (.inl ⟨hne, hr⟩)⟩)
    | unchanged hl het hv hs heq hb =>
      refine .inr ⟨_, _, runs_lookup_iff.2 (.inr ⟨_, hl, rfl⟩), ?_⟩
      simp only [het, hv]
      exact runs_except_bind_iff.2
        (.inr ⟨_, _, runs_send_iff.2 hs, runs_settle_iff.2 (.inr (.inl ⟨heq, _, hb, rfl, rfl⟩))⟩)
    | bodiless hl het hv hs heq hb hn hx =>
      refine .inr ⟨_, _, runs_lookup_iff.2 (.inr ⟨_, hl, rfl⟩), ?_⟩
      simp only [het, hv]
      exact runs_except_bind_iff.2
        (.inr ⟨_, _, runs_send_iff.2 hs, runs_settle_iff.2 (.inr (.inr ⟨heq, hb, _, hn, hx⟩))⟩)

/-! ## What every step keeps -/

/-- Whether a question concerns the records only as far as they are for a URI. -/
def Question.Concerns (uri : String) : Question → Prop
  | .store u _ _ => u = uri
  | _ => True

variable (step) in
/-- One question that concerns the records only as far as they are for a URI. -/
def Step (uri : String) (s s' : σ) : Prop := ∃ q r, step s q r s' ∧ Question.Concerns uri q

section
open Relation
variable {request : Request} {x : Except ClientError Resource}

theorem Recorded.steps {uri : String} {response : Resource}
    (h : Recorded step uri response s x s') : ReflTransGen (Step step uri) s s' := by
  cases h with
  | nothing => exact .refl
  | stored _ hq => exact .single ⟨_, _, hq, rfl⟩
  | refused _ hq => exact .single ⟨_, _, hq, rfl⟩

theorem Exchanged.steps (h : Exchanged step request s x s') :
    ReflTransGen (Step step request.uri.text) s s' := by
  cases h with
  | failed hs => exact .single ⟨_, _, hs, trivial⟩
  | answered hs hr => exact .head ⟨_, _, hs, trivial⟩ hr.steps

/-- The course of a GET is one of steps that concern its URI. -/
theorem Got.steps (h : Got step request s x s') :
    ReflTransGen (Step step request.uri.text) s s' := by
  cases h with
  | unknown hl => exact .single ⟨_, _, hl, trivial⟩
  | missed hl _ hx => exact .head ⟨_, _, hl, trivial⟩ hx.steps
  | unsendable hl _ _ hn hx =>
    exact .head ⟨_, _, hl, trivial⟩ (.head ⟨_, _, hn, trivial⟩ hx.steps)
  | unanswered hl _ _ hs => exact .head ⟨_, _, hl, trivial⟩ (.single ⟨_, _, hs, trivial⟩)
  | changed hl _ _ hs _ hr =>
    exact .head ⟨_, _, hl, trivial⟩ (.head ⟨_, _, hs, trivial⟩ hr.steps)
  | unchanged hl _ _ hs _ _ => exact .head ⟨_, _, hl, trivial⟩ (.single ⟨_, _, hs, trivial⟩)
  | bodiless hl _ _ hs _ _ hn hx =>
    exact .head ⟨_, _, hl, trivial⟩
      (.head ⟨_, _, hs, trivial⟩ (.head ⟨_, _, hn, trivial⟩ hx.steps))

end

end ConditionalGet.Revalidation
