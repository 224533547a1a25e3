import ConditionalGet.Proofs.Client.Conduct
import ConditionalGet.Proofs.Client.Headers

/-!
# What a request goes out with

The headers that a transport is handed come from three places, each name from one of them: the
credential gives its own header, the caller all others that he names, and a request that says
nothing of what it accepts asks for JSON (`Composed`). A credential that no header can carry stops
the request before it is sent.

The client on top of `Client.overHttp` may be a cached one. Its condition is a header of the caller
as far as the transport is concerned, so it reaches the server unless the credential stands in its
place.
-/

set_option autoImplicit false

namespace ConditionalGet

open Text Revalidation Program

/-! ## Credentials and names -/

/-- A header can carry the credential. -/
def Credential.Sendable (c : Credential) : Prop :=
  (FieldName.ofString? c.name).isSome ∧ (FieldValue.ofString? c.value).isSome

instance (c : Credential) : Decidable c.Sendable := inferInstanceAs (Decidable (_ ∧ _))

/-- The request is made with a credential for this header. -/
def Request.Credits (request : Request) (n : FieldName) : Prop :=
  ∃ c, request.credential = some c ∧ sameLetters c.name n.text

/-- The headers that a request goes out with (module doc). -/
structure Composed (request : Request) (fields : Fields) : Prop where
  credential : ∀ c n, request.credential = some c → sameLetters c.name n.text →
    ∃ value, fields.values n = [value] ∧ value.bytes = bytes c.value ∧ value.sensitive = true
  given : ∀ n, ¬request.Credits n → request.headers.values n ≠ [] →
    fields.values n = request.headers.values n
  json : ¬request.Credits .accept → request.headers.values .accept = [] →
    ∃ value, fields.values .accept = [value] ∧ value.bytes = bytes "application/json"
  nothing : ∀ n, n ≠ .accept → ¬request.Credits n → request.headers.values n = [] →
    fields.values n = []

theorem Credential.field_of_sendable {c : Credential} (h : c.Sendable) :
    ∃ name value, c.field = .ok (name, value) ∧ FieldName.ofString? c.name = some name ∧
      value.bytes = bytes c.value ∧ value.sensitive = true := by
  obtain ⟨name, hn⟩ := Option.isSome_iff_exists.1 h.1
  obtain ⟨value, hv⟩ := Option.isSome_iff_exists.1 h.2
  have hbytes : value.bytes = bytes c.value := FieldValue.bytes_of_ofBytes? hv
  exact ⟨name, { value with sensitive := true }, by simp only [field, hn, hv], hn, hbytes, rfl⟩

theorem Credential.field_of_not_sendable {c : Credential} (h : ¬c.Sendable) :
    ∃ flaw, c.field = .error flaw := by
  unfold Credential.field
  cases hn : FieldName.ofString? c.name with
  | none => exact ⟨_, rfl⟩
  | some name =>
    cases hv : FieldValue.ofString? c.value with
    | none => exact ⟨_, rfl⟩
    | some value => exact absurd ⟨by rw [hn]; rfl, by rw [hv]; rfl⟩ h

/-! ## The headers of a request -/

section
variable {request : Request}

/-- What the caller gives, and what is asked for if he does not say what he accepts. -/
theorem values_given (headers : Fields) (n : FieldName) :
    ((Fields.empty.append .accept HttpRequest.acceptJson).extend headers).values n =
      if headers.values n ≠ [] then headers.values n
      else if n = .accept then [HttpRequest.acceptJson] else [] := by
  rw [Fields.values_extend, Fields.values_append, Fields.values_empty, List.nil_append]
  by_cases h : headers.values n = [] <;> simp [h]

/-- The credential gives its own header, and leaves all others to the caller. -/
theorem ofRequest_values (h : ∀ c, request.credential = some c → c.Sendable) :
    ∃ r, HttpRequest.ofRequest request = .ok r ∧ r.method = request.method ∧
      r.uri = request.uri ∧
      (∀ c n, request.credential = some c → sameLetters c.name n.text →
        ∃ value, r.headers.values n = [value] ∧ value.bytes = bytes c.value ∧
          value.sensitive = true) ∧
      ∀ n, ¬request.Credits n → r.headers.values n =
        if request.headers.values n ≠ [] then request.headers.values n
        else if n = .accept then [HttpRequest.acceptJson] else [] := by
  unfold HttpRequest.ofRequest HttpRequest.fields
  cases hc : request.credential with
  | none => exact ⟨_, rfl, rfl, rfl, by rintro _ _ ⟨⟩, fun n _ => values_given _ n⟩
  | some c =>
    obtain ⟨name, value, hf, hn, hbytes, hsensitive⟩ := Credential.field_of_sendable (h c hc)
    simp only [hf]
    refine ⟨_, rfl, rfl, rfl, ?_, ?_⟩
    · rintro _ n ⟨⟩ hsame
      obtain rfl : name = n :=
        Option.some.inj (hn.symm.trans (FieldName.ofString?_eq_some_iff.2 hsame))
      exact ⟨value, by rw [Fields.values_insert, if_pos rfl], hbytes, hsensitive⟩
    · intro n hother
      have hne : n ≠ name := by
        rintro rfl
        exact hother ⟨c, hc, FieldName.ofString?_eq_some_iff.1 hn⟩
      rw [Fields.values_insert, if_neg hne]
      exact values_given _ n

/-- A request whose credential a header can carry has the headers that it should have. -/
theorem ofRequest_composed (h : ∀ c, request.credential = some c → c.Sendable) :
    ∃ r, HttpRequest.ofRequest request = .ok r ∧ r.method = request.method ∧
      r.uri = request.uri ∧ Composed request r.headers := by
  obtain ⟨r, hr, hmethod, huri, hcredential, hothers⟩ := ofRequest_values h
  refine ⟨r, hr, hmethod, huri, hcredential, ?_, ?_, ?_⟩
  · intro n hn hgiven
    rw [hothers n hn, if_pos hgiven]
  · intro hn hnone
    exact ⟨HttpRequest.acceptJson, by simp [hothers _ hn, hnone], rfl⟩
  · intro n hne hn hnone
    simp [hothers n hn, hnone, hne]

theorem ofRequest_error {c : Credential} (hc : request.credential = some c)
    (h : ¬c.Sendable) :
    ∃ flaw, HttpRequest.ofRequest request = .error (.invalidHeader c.name flaw) := by
  obtain ⟨flaw, hf⟩ := Credential.field_of_not_sendable h
  exact ⟨flaw, by simp only [HttpRequest.ofRequest, HttpRequest.fields, hc, hf]; rfl⟩

end

/-! ## What a transport is handed -/

variable {σ : Type}

/-- The transport, what it is handed written down. -/
def Transport.noted (transport : Transport (StateM σ)) :
    Transport (StateM (σ × List HttpRequest)) := fun r w =>
  (((transport r).run w.1).1, ((transport r).run w.1).2, w.2 ++ [r])

/-- An action that leaves what stands beside its state alone. -/
def beside {τ α : Type} (action : StateM σ α) : StateM (σ × τ) α := fun w =>
  ((action.run w.1).1, (action.run w.1).2, w.2)

/-- The store, beside something that it leaves alone. -/
def Store.beside {τ : Type} (store : Store (StateM σ)) : Store (StateM (σ × τ)) where
  lookup uri := ConditionalGet.beside (store.lookup uri)
  store uri etag body := ConditionalGet.beside (store.store uri etag body)

section
variable {transport : Transport (StateM σ)} {request : Request}
  {x : Except ClientError Resource} {w w' : σ × List HttpRequest}

theorem run_overHttp_error {e : ClientError} (h : HttpRequest.ofRequest request = .error e) :
    (Client.overHttp transport.noted request).run w = (.error e, w) := by
  simp only [Client.overHttp, h]
  rfl

/-- What is handed over is the request, unless nothing is served under its scheme. -/
theorem run_overHttp {r : HttpRequest} (h : HttpRequest.ofRequest request = .ok r)
    (hrun : (Client.overHttp transport.noted request).run w = (x, w')) :
    w'.2 = w.2 ++ if HttpRequest.isServed r.uri.scheme then [r] else [] := by
  simp only [Client.overHttp, h] at hrun
  cases hserved : HttpRequest.isServed r.uri.scheme with
  | false =>
    simp only [hserved] at hrun
    cases hrun
    simp
  | true =>
    have hnoted : (transport.noted r).run w =
      (((transport r).run w.1).1, ((transport r).run w.1).2, w.2 ++ [r]) := rfl
    simp only [hserved, Bool.not_true] at hrun
    rw [if_neg (by decide), StateT.run_bind, hnoted] at hrun
    cases hanswer : ((transport r).run w.1).1 with
    | ok response =>
      simp only [hanswer] at hrun
      cases hrun
      rfl
    | error failure =>
      simp only [hanswer] at hrun
      cases hrun
      rfl

/-! ## What a cached client hands over -/

/-- How a client over a transport and a store answer in the course of a GET. -/
def wiring (transport : Transport (StateM σ)) (store : Store (StateM σ))
    (notify : Notice → StateM σ Unit) :
    Answering Revalidation.interface (σ × List HttpRequest) :=
  answering ((Client.overHttp transport.noted).answerCourse store.beside fun n =>
    beside (notify n))

variable {store : Store (StateM σ)} {notify : Notice → StateM σ Unit}

/-- Nothing but sending hands anything over. -/
theorem wiring_quiet {q : Revalidation.Question} {r : Revalidation.Answer q}
    (hq : ∀ request, q ≠ .send request) (h : wiring transport store notify w q r w') :
    w'.2 = w.2 := by
  cases q with
  | send request => exact absurd rfl (hq request)
  | lookup uri =>
    obtain ⟨-, rfl⟩ := Prod.mk.inj h
    rfl
  | store uri etag body =>
    obtain ⟨-, rfl⟩ := Prod.mk.inj h
    rfl
  | notify notice =>
    obtain ⟨-, rfl⟩ := Prod.mk.inj h
    rfl

theorem wiring_send (hserved : HttpRequest.isServed request.uri.scheme)
    (hc : ∀ c, request.credential = some c → c.Sendable)
    (h : wiring transport store notify w (.send request) x w') :
    ∃ r, w'.2 = w.2 ++ [r] ∧ Composed request r.headers := by
  obtain ⟨r, hr, -, huri, hcomposed⟩ := ofRequest_composed hc
  have hsent := run_overHttp hr h
  rw [huri, if_pos hserved] at hsent
  exact ⟨r, hsent, hcomposed⟩

theorem wiring_recorded {uri : String} {response : Resource}
    (h : Recorded (wiring transport store notify) uri response w x w') : w'.2 = w.2 := by
  cases h with
  | nothing => rfl
  | stored _ hs => exact wiring_quiet (by simp) hs
  | refused _ hs => exact wiring_quiet (by simp) hs

theorem wiring_exchanged (hserved : HttpRequest.isServed request.uri.scheme)
    (hc : ∀ c, request.credential = some c → c.Sendable)
    (h : Exchanged (wiring transport store notify) request w x w') :
    ∃ r, w'.2 = w.2 ++ [r] ∧ Composed request r.headers := by
  cases h with
  | failed hs => exact wiring_send hserved hc hs
  | answered hs hr =>
    obtain ⟨r, hsent, hcomposed⟩ := wiring_send hserved hc hs
    exact ⟨r, (wiring_recorded hr).trans hsent, hcomposed⟩

/-- A GET of which a validator is on record hands over the request with that validator, and after
it at most the request without a condition. -/
theorem wiring_got {found : Lookup} {etag : String} {validator : FieldValue}
    (hserved : HttpRequest.isServed request.uri.scheme)
    (hc : ∀ c, request.credential = some c → c.Sendable)
    (hfound : ((store.lookup request.uri.text).run w.1).1 = .ok found)
    (he : found.etag? = some etag) (hv : FieldValue.ofString? etag = some validator)
    (h : Got (wiring transport store notify) request w x w') :
    ∃ r rest, w'.2 = w.2 ++ r :: rest ∧ Composed (conditional request validator) r.headers ∧
      ∀ r' ∈ rest, Composed (unconditional request) r'.headers := by
  have hlookup : ∀ {y : Except StoreError Lookup} {w₁ : σ × List HttpRequest},
      wiring transport store notify w (.lookup request.uri.text) y w₁ →
      y = .ok found ∧ w₁.2 = w.2 := by
    intro y w₁ hl
    refine ⟨?_, wiring_quiet (by simp) hl⟩
    rw [← hfound]
    exact (Prod.mk.inj hl).1.symm
  -- wherever a request is sent first, it is sent with the validator that was found
  have hsends : ∀ {found' : Lookup} {etag' : String} {validator' : FieldValue}
      {y : Except ClientError Resource} {w₁ w₂ : σ × List HttpRequest},
      wiring transport store notify w (.lookup request.uri.text)
        (.ok found' : Except StoreError Lookup) w₁ →
      found'.etag? = some etag' → FieldValue.ofString? etag' = some validator' →
      wiring transport store notify w₁ (.send (conditional request validator')) y w₂ →
      ∃ r, w₂.2 = w.2 ++ [r] ∧ Composed (conditional request validator) r.headers := by
    intro found' etag' validator' y w₁ w₂ hl he' hv' hs
    obtain ⟨hf, hw⟩ := hlookup hl
    obtain rfl := Except.ok.inj hf
    obtain rfl := Option.some.inj (he'.symm.trans he)
    obtain rfl := Option.some.inj (hv'.symm.trans hv)
    rw [← hw]
    exact wiring_send (by exact hserved) (by exact hc) hs
  cases h with
  | unknown hl => cases (hlookup hl).1
  | missed hl he' =>
    obtain rfl := Except.ok.inj (hlookup hl).1
    cases he.symm.trans he'
  | unsendable hl he' hv' =>
    obtain rfl := Except.ok.inj (hlookup hl).1
    obtain rfl := Option.some.inj (he'.symm.trans he)
    cases hv.symm.trans hv'
  | unanswered hl he' hv' hs =>
    obtain ⟨r, hsent, hcomposed⟩ := hsends hl he' hv' hs
    exact ⟨r, [], hsent, hcomposed, by simp⟩
  | changed hl he' hv' hs _ hr =>
    obtain ⟨r, hsent, hcomposed⟩ := hsends hl he' hv' hs
    exact ⟨r, [], (wiring_recorded hr).trans hsent, hcomposed, by simp⟩
  | unchanged hl he' hv' hs =>
    obtain ⟨r, hsent, hcomposed⟩ := hsends hl he' hv' hs
    exact ⟨r, [], hsent, hcomposed, by simp⟩
  | bodiless hl he' hv' hs _ _ hn hx =>
    obtain ⟨r, hsent, hcomposed⟩ := hsends hl he' hv' hs
    obtain ⟨r', hsent', hcomposed'⟩ := wiring_exchanged (by exact hserved) (by exact hc) hx
    refine ⟨r, [r'], ?_, hcomposed, by simpa using hcomposed'⟩
    rw [hsent', wiring_quiet (by simp) hn, hsent, List.append_assoc]
    rfl

/-- A condition of the caller goes out if the credential leaves that header alone. -/
theorem Composed.conditions {fields : Fields} (h : Composed request fields)
    (hc : ¬request.Credits .ifNoneMatch) :
    fields.values .ifNoneMatch = request.headers.values .ifNoneMatch := by
  by_cases hnone : request.headers.values .ifNoneMatch = []
  · rw [hnone]
    exact h.nothing _ (by decide +kernel) hc hnone
  · exact h.given _ hc hnone

/-- **The headers of a request are put together without loss.** Whatever headers a caller gives and
whatever credential there is: if a header can carry the credential, the transport is handed the
request once, with the credential's header as the credential has it, every other header as the
caller gave it, and `Accept` for JSON if neither says otherwise, and if nothing is served under the
scheme of its URI it is not handed anything; if none can, the error names the credential's header
and nothing is handed over. So of a cached client, whatever its store, the validator on record
reaches the transport as the one condition of the request if the credential is not for that
header. -/
theorem headers_without_loss (transport : Transport (StateM σ)) (request : Request) (s : σ) :
    (∀ c, request.credential = some c → ¬c.Sendable →
      ∃ flaw, (Client.overHttp transport.noted request).run (s, []) =
        (.error (.invalidHeader c.name flaw), (s, []))) ∧
    ((∀ c, request.credential = some c → c.Sendable) →
      ∃ r, HttpRequest.ofRequest request = .ok r ∧ r.method = request.method ∧
        r.uri = request.uri ∧ Composed request r.headers ∧
        ((Client.overHttp transport.noted request).run (s, [])).2.2 =
          if HttpRequest.isServed request.uri.scheme then [r] else []) ∧
    (∀ (store : Store (StateM σ)) (notify : Notice → StateM σ Unit) (found : Lookup)
        (etag : String) (validator : FieldValue),
      request.method = .get → HttpRequest.isServed request.uri.scheme →
      (∀ c, request.credential = some c → c.Sendable) → ¬request.Credits .ifNoneMatch →
      ((store.lookup request.uri.text).run s).1 = .ok found → found.etag? = some etag →
      FieldValue.ofString? etag = some validator →
      ∃ r rest, (((Client.overHttp transport.noted).cached store.beside (fun n => beside (notify n))
            request).run (s, [])).2.2 = r :: rest ∧
          Composed (conditional request validator) r.headers ∧
          r.headers.values .ifNoneMatch = [validator] ∧
          ∀ r' ∈ rest, Composed (unconditional request) r'.headers ∧
            r'.headers.values .ifNoneMatch = []) := by
  refine ⟨fun c hc hno => ?_, fun hc => ?_, ?_⟩
  · obtain ⟨flaw, hr⟩ := ofRequest_error hc hno
    exact ⟨flaw, run_overHttp_error hr⟩
  · obtain ⟨r, hr, hmethod, huri, hcomposed⟩ := ofRequest_composed hc
    obtain ⟨⟨x, w'⟩, hrun⟩ : ∃ out, (Client.overHttp transport.noted request).run (s, []) = out :=
      ⟨_, rfl⟩
    have hsent : w'.2 = _ := run_overHttp hr hrun
    rw [huri, List.nil_append] at hsent
    exact ⟨r, hr, hmethod, huri, hcomposed, by rw [hrun, hsent]⟩
  · intro store notify found etag validator hget hserved hc hfree hfound he hv
    obtain ⟨⟨x, w'⟩, hrun⟩ : ∃ out, ((Client.overHttp transport.noted).cached store.beside
      (fun n => beside (notify n)) request).run (s, []) = out := ⟨_, rfl⟩
    have hgot : Got (wiring transport store notify) request (s, []) x w' := by
      rw [← runs_get_iff, ← Client.decorated_get hget]
      refine runs_answer_iff.2 ?_
      rw [← Client.cached_eq_run]
      exact hrun
    obtain ⟨r, rest, hsent, hfirst, hrest⟩ := wiring_got hserved hc hfound he hv hgot
    rw [hrun]
    refine ⟨r, rest, hsent, hfirst, ?_, fun r' hr' => ⟨hrest r' hr', ?_⟩⟩
    · rw [hfirst.conditions hfree]
      simp [conditional]
    · rw [(hrest r' hr').conditions hfree]
      simp [unconditional]

end

/-! ### A caller with conditions of his own -/

namespace Bodiless

open Visits

/-- The caller has a credential. -/
def asOwner (c : Credential) : Request := asking.withCredential (some c)

/-- A credential with a blank in the name of its header. -/
def unfit : Credential := ⟨"PRIVATE TOKEN", "t"⟩

/-- A credential that can be sent goes out beside the validator on record, which takes the place of
the caller's conditions; one that cannot be sent stops the request. -/
theorem headers_without_loss_asking :
    (asOwner unfit).credential = some unfit ∧ ¬unfit.Sendable ∧
    (∃ flaw, (Client.overHttp (Transport.noted Transport.unreachable) (asOwner unfit)).run
        ((), []) = (.error (.invalidHeader "PRIVATE TOKEN" flaw), ((), []))) ∧
    (Credential.privateToken "t").Sendable ∧
    (∃ r, Composed (asOwner (.privateToken "t")) r.headers ∧
      ((Client.overHttp (Transport.noted Transport.unreachable) (asOwner (.privateToken "t"))).run
        ((), [])).2.2 = [r]) ∧
    ∃ r rest, (((Client.overHttp (Transport.noted Transport.unreachable)).cached
        (Store.beside store) (fun _ => beside (pure ())) (asOwner (.privateToken "t"))).run
          ((), [])).2.2 = r :: rest ∧ r.headers.values .ifNoneMatch = [validator] := by
  have hno : ¬unfit.Sendable := by decide +kernel
  have hyes : ∀ c, (asOwner (.privateToken "t")).credential = some c → c.Sendable := by
    rintro _ ⟨⟩
    decide +kernel
  have hfree : ¬(asOwner (.privateToken "t")).Credits .ifNoneMatch := by
    rintro ⟨_, ⟨⟩, hsame⟩
    revert hsame
    decide +kernel
  obtain ⟨hunfit, -, -⟩ := headers_without_loss Transport.unreachable (asOwner unfit) ()
  obtain ⟨-, hfit, hcached⟩ :=
    headers_without_loss Transport.unreachable (asOwner (.privateToken "t")) ()
  obtain ⟨r, -, -, -, hcomposed, hsent⟩ := hfit hyes
  obtain ⟨r', rest, hsent', -, hvalues, -⟩ := hcached store (fun _ => pure ()) _ _ validator rfl
    (by decide +kernel) hyes hfree rfl rfl ofString?_validator
  exact ⟨rfl, hno, hunfit _ rfl hno, hyes _ rfl, ⟨r, hcomposed, hsent⟩, r', rest, hsent', hvalues⟩

end Bodiless

end ConditionalGet
