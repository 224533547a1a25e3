import ConditionalGet.Proofs.Command.Following

/-!
# What the requests of a run carry

A run has one credential, or none. Each request that goes out is made for the owner of that
credential and has nothing else under the name of its header (`Belongs`), whatever the servers
answer and wherever the requests go (`runs_belong`). So what a server sees of a run's credential is
decided before the first request.

A run asks its client for resources without a credential of their own, and what is sent in the
course of a GET is the caller's request but for its condition (`asksOnly_get`). Both are facts about
what a program asks, and hold for any answers.
-/

set_option autoImplicit false

namespace ConditionalGet

open Program

/-! ## What a GET sends -/

namespace Request

/-- The same request, but for the values of its condition. -/
structure SameButCondition (r r' : Request) : Prop where
  same : ∃ headers, r' = { r with headers }
  values : ∀ n, n ≠ .ifNoneMatch → r'.headers.values n = r.headers.values n

theorem SameButCondition.refl (r : Request) : r.SameButCondition r := ⟨⟨_, rfl⟩, fun _ _ => rfl⟩

theorem SameButCondition.credential {r r' : Request} (h : r.SameButCondition r') :
    r'.credential = r.credential := by
  obtain ⟨headers, rfl⟩ := h.same
  rfl

end Request

namespace Revalidation

theorem sameButCondition_unconditional (request : Request) :
    request.SameButCondition (unconditional request) :=
  ⟨⟨_, rfl⟩, fun _ hn => (Fields.values_remove ..).trans (if_neg hn)⟩

theorem sameButCondition_conditional (request : Request) (validator : FieldValue) :
    request.SameButCondition (conditional request validator) :=
  ⟨⟨_, rfl⟩, fun _ hn => (Fields.values_insert ..).trans (if_neg hn)⟩

/-- A question that sends nothing but a request, if need be with another condition. -/
def Question.SendsFor (request : Request) : Question → Prop
  | .send r => request.SameButCondition r
  | _ => True

section
variable {request r : Request}

theorem asksOnly_notify (notice : Notice) :
    (notify notice).run.AsksOnly (Question.SendsFor request) :=
  (asksOnly_ask_pure trivial).map _

theorem asksOnly_remember (uri : String) (response : Resource) :
    (remember uri response).run.AsksOnly (Question.SendsFor request) := by
  unfold remember
  split
  · trivial
  · split
    · exact (asksOnly_ask_pure trivial).map _
    · trivial

theorem asksOnly_exchange (h : request.SameButCondition r) :
    (exchange r).run.AsksOnly (Question.SendsFor request) :=
  .except_bind (asksOnly_ask_pure h) fun response =>
    .except_bind (asksOnly_remember r.uri.text response) fun _ => trivial

theorem asksOnly_settle (found : Lookup) (response : Resource) :
    (settle request found response).run.AsksOnly (Question.SendsFor request) := by
  unfold settle
  split
  · exact .except_bind (asksOnly_remember _ _) fun _ => trivial
  · split
    · trivial
    · exact .except_bind (asksOnly_notify _) fun _ =>
        asksOnly_exchange (sameButCondition_unconditional request)

/-- What is sent in the course of a GET is the caller's request but for its condition. -/
theorem asksOnly_get (request : Request) :
    (get request).run.AsksOnly (Question.SendsFor request) := by
  refine .except_bind ((asksOnly_ask_pure trivial).map _) fun found => ?_
  split
  · exact asksOnly_exchange (.refl request)
  · split
    · exact .except_bind (asksOnly_notify _) fun _ =>
        asksOnly_exchange (sameButCondition_unconditional request)
    · refine .except_bind (asksOnly_ask_pure ?_) fun response => asksOnly_settle found response
      exact sameButCondition_conditional request _

theorem asksOnly_decorated (request : Request) :
    (Client.decorated request).AsksOnly (Question.SendsFor request) := by
  by_cases h : request.method = .get
  · rw [Client.decorated_get h]
    exact asksOnly_get request
  · rw [Client.decorated_other h]
    exact asksOnly_ask_pure (.refl request)

end

end Revalidation

namespace Command

/-! ## What a run asks its client for -/

/-- A question that asks for nothing but resources, by requests without a credential. -/
def Fetching.Question.Anonymous : Fetching.Question → Prop
  | .get request => request.credential = none ∧ request.headers.values .authorization = []
  | .print _ => True

theorem asksOnly_visit (limit : Nat) (p : Paging) :
    (Paging.visit Fetching.asked (fun r => Fetching.printed (pageText r)) limit p).AsksOnly
      Fetching.Question.Anonymous := by
  induction limit generalizing p with
  | zero => trivial
  | succ limit ih =>
    have hplain : ∀ uri, (Paging.request uri).headers.values .authorization = [] := by
      intro uri
      show (Fields.empty.append .cacheControl Paging.noCache).values .authorization = []
      decide +kernel
    have hstep : (p.step Fetching.asked).AsksOnly Fetching.Question.Anonymous := by
      unfold Paging.step
      split
      · trivial
      · exact (asksOnly_ask_pure ⟨rfl, hplain _⟩).bind fun _ => trivial
    refine hstep.bind fun y => ?_
    obtain ⟨_ | e | resource, p⟩ := y
    · trivial
    · trivial
    · exact (asksOnly_ask_pure trivial).bind fun _ => ih p

theorem asksOnly_fetching (a : Arguments) :
    (fetching a).AsksOnly Fetching.Question.Anonymous := by
  unfold fetching fetch
  split
  · refine (asksOnly_ask_pure ⟨rfl, rfl⟩).bind fun answer => ?_
    cases answer with
    | error e => trivial
    | ok resource =>
      refine (asksOnly_ask_pure trivial).bind fun _ => ?_
      split <;> trivial
  · exact (asksOnly_visit _ _).bind fun _ => trivial

/-! ## What is sent for a credential -/

/-- A request that is made for the owner of a credential, or for nobody. -/
def Belongs (credential : Option Credential) (r : HttpRequest) : Prop :=
  ∃ request : Request, request.credential = credential ∧
    request.headers.values .authorization = [] ∧ HttpRequest.ofRequest request = .ok r

section
variable {credential : Option Credential} {request : Request} {r : HttpRequest}

/-- Under the name of its header a request has its credential, and no other value. -/
theorem Belongs.authorization (hc : ∀ c, credential = some c → c.name = "Authorization")
    (h : Belongs credential r) :
    (r.headers.values .authorization).map FieldValue.bytes =
      (credential.map fun c => Text.bytes c.value).toList := by
  obtain ⟨request, rfl, hplain, hr⟩ := h
  have hgiven : ((Fields.empty.append .accept HttpRequest.acceptJson).extend
      request.headers).values .authorization = [] := by
    have hne : FieldName.authorization ≠ .accept := by decide +kernel
    rw [Fields.values_extend, if_pos hplain, Fields.values_append, if_neg hne]
    rfl
  cases hcredential : request.credential with
  | none =>
    unfold HttpRequest.ofRequest HttpRequest.fields at hr
    rw [hcredential] at hr
    cases hr
    exact congrArg (List.map FieldValue.bytes) hgiven
  | some c =>
    obtain ⟨-, name, value, hf, hvalues⟩ := bears_of_ofRequest hcredential hr
    obtain ⟨rfl, hbytes⟩ := field_of_name (hc c hcredential) hf
    rw [hvalues, List.map_singleton, hbytes]
    rfl

end

/-! ## Runs and their credential -/

/-- All of these requests are made for the owner of a credential. -/
def AllBelong (credential : Option Credential) (sent : List Sent) : Prop :=
  ∀ e ∈ sent, Belongs credential e.request

section
variable {φ : Type} {files : Answering Files.interface φ} {level : Level} {b : Backend}
  {w w' : φ × List Sent} {credential : Option Credential} {request : Request}
  {x : Except ClientError Resource}

theorem AllBelong.sends {sent new : List Sent} (hc : request.credential = credential)
    (hplain : request.headers.values .authorization = []) (hsent : AllBelong credential sent)
    (h : Sends request x new) : AllBelong credential (sent ++ new) := by
  have hnew : AllBelong credential new := by
    cases h with
    | unfit => exact List.forall_mem_nil _
    | unserved => exact List.forall_mem_nil _
    | failed hr _ => exact List.forall_mem_singleton.2 ⟨request, hc, hplain, hr⟩
    | answered hr _ => exact List.forall_mem_singleton.2 ⟨request, hc, hplain, hr⟩
  exact List.forall_mem_append.2 ⟨hsent, hnew⟩

/-- What a question of a GET adds to what has been sent belongs to the credential of the GET. -/
theorem AllBelong.step {q : Revalidation.Question} {r : Revalidation.Answer q}
    {s s' : b.Records × (φ × List Sent)} (hc : request.credential = credential)
    (hplain : request.headers.values .authorization = []) (hq : q.SendsFor request)
    (hs : AllBelong credential s.2.2) (h : b.behind level files s q r s') :
    AllBelong credential s'.2.2 := by
  cases q with
  | lookup uri =>
    rw [Backend.behind_lookup h]
    exact hs
  | store uri etag body =>
    rw [Backend.behind_store h]
    exact hs
  | notify notice =>
    rw [(Backend.behind_notify h).2]
    exact hs
  | send sent =>
    obtain ⟨-, new, hsends, hw⟩ := Backend.behind_send h
    have hne : FieldName.authorization ≠ .ifNoneMatch := by decide +kernel
    rw [hw]
    exact hs.sends (hq.credential.trans hc) ((hq.values _ hne).trans hplain) hsends

theorem runs_client_belong {records records' : b.Records} (hc : request.credential = credential)
    (hplain : request.headers.values .authorization = [])
    (h : Runs (world files) ((b.client level request).run records) w (x, records') w')
    (hw : AllBelong credential w.2) : AllBelong credential w'.2 := by
  rw [Backend.client_eq_run, runs_runState_iff] at h
  exact (Revalidation.asksOnly_decorated request).invariant
    (R := fun s : b.Records × (φ × List Sent) => AllBelong credential s.2.2)
    (fun _ _ _ _ hq hs hstep => hs.step hc hplain hq hstep) h hw

/-- What a question of fetching adds to what has been sent belongs to the credential of the run. -/
theorem AllBelong.through {storage : Storage} {request : Request}
    {s s' : Records storage × (φ × List Sent)} (hanonymous : request.credential = none)
    (hplain : request.headers.values .authorization = []) (hs : AllBelong credential s.2.2)
    (h : Command.through (world files) level credential storage s (.get request) x s') :
    AllBelong credential s'.2.2 := by
  have hc := @credential_of_anonymous credential _ hanonymous
  have hrun : Runs (world files) ((getter level credential storage request).run s.1) s.2
    (x, s'.1) s'.2 := h
  rw [getter_apply] at hrun
  cases storage with
  | none =>
    obtain ⟨new, hsends, hw⟩ := runs_direct (runs_lift_iff.1 hrun).1
    rw [hw]
    exact hs.sends hc hplain hsends
  | memory => exact runs_client_belong (b := .memory) hc hplain hrun hs
  | disk store => exact runs_client_belong (b := .disk) hc hplain hrun hs

theorem runs_fetchThrough_belong {a : Arguments} {storage : Storage} {x : Except Failure Unit}
    (h : Runs (world files) (fetchThrough level a credential storage) w x w')
    (hw : AllBelong credential w.2) : AllBelong credential w'.2 := by
  obtain ⟨kept, hrun⟩ := runs_fetchThrough_iff.1 h
  -- whatever becomes of the records, what has been sent belongs to the credential
  refine (asksOnly_fetching a).invariant
    (R := fun s : Records storage × (φ × List Sent) => AllBelong credential s.2.2) ?_ hrun hw
  intro s q r s' hq hs h
  cases q with
  | get request => exact hs.through hq.1 hq.2 h
  | print text =>
    rw [show s'.2 = s.2 from runs_ask_pure_iff.1 (runs_lift_iff.1 h).1]
    exact hs

/-- All that a run sends is sent for its credential, or for nobody if it has none. -/
theorem runs_belong {env : Environment} {account : Option String} {arguments : List String}
    {a : Arguments} {f f' : φ} {ending : Ending} {sent : List Sent}
    (hargs : Arguments.parse env arguments = .ok a)
    (hrun : Runs (world files) (run env account arguments) (f, []) ending (f', sent)) :
    AllBelong (a.credential? env) sent := by
  obtain ⟨hsent, -⟩ | ⟨storage, w₁, x, hbefore, -, hfetch⟩ := runs_run hargs hrun
  · obtain rfl : sent = [] := hsent
    exact List.forall_mem_nil _
  · -- nothing is sent before the run comes to fetching
    refine runs_fetchThrough_belong hfetch ?_
    rw [hbefore]
    exact List.forall_mem_nil _

end

end Command

end ConditionalGet
