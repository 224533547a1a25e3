import ConditionalGet.Proofs.Client.Course

/-!
# Sessions of clients with one store

`Client.decorated` is `Client.cached` over a client, a store and a log of notices that are nothing
but questions: what it does against an environment is what any cached client does, whatever its
inner client and its store. A `Session` has any number of clients made from it with one environment
behind them; a step makes a request through one of them or authenticates one.
-/

set_option autoImplicit false

namespace ConditionalGet

open Revalidation Program

namespace Program

variable {I : Interface} {α : Type}

/-- A program whose questions are passed on is itself. -/
theorem run_ask (p : Program I α) : (p.run fun q => .ask q .pure) = p := by
  induction p with
  | pure a => rfl
  | ask q next ih =>
    show Program.ask q (fun r => (next r).run fun q => .ask q .pure) = _
    simp only [ih]

end Program

/-! ## Decorated clients -/

/-- The client that passes every request on as a question. -/
def Client.asked : Client (Program Revalidation.interface) :=
  fun request => question (I := interface) (.send request)

/-- The store that passes everything on as a question. -/
def Store.asked : Store (Program Revalidation.interface) where
  lookup uri := question (I := interface) (.lookup uri)
  store uri etag body := question (I := interface) (.store uri etag body)

/-- The cached client over questions (module doc). -/
def Client.decorated : Client (Program Revalidation.interface) :=
  Client.asked.cached Store.asked fun notice => question (I := interface) (.notify notice)

theorem answerCourse_asked :
    Client.asked.answerCourse Store.asked
        (fun notice => question (I := interface) (.notify notice)) =
      fun q => (question q : Program interface (interface.Answer q)) := by
  funext q
  cases q <;> rfl

theorem Client.decorated_get {request : Request} (h : request.method = .get) :
    Client.decorated request = (Revalidation.get request).run := by
  simp only [Client.decorated, Client.cached, h, answerCourse_asked]
  exact run_ask _

theorem Client.decorated_other {request : Request} (h : request.method ≠ .get) :
    Client.decorated request = question (I := interface) (.send request) := by
  unfold Client.decorated Client.cached
  cases hm : request.method
  · exact absurd hm h
  all_goals rfl

/-- A cached client does what the one over questions does, its questions answered by client and
store. -/
theorem Client.cached_eq_run {m : Type → Type} [Monad m] [LawfulMonad m] (client : Client m)
    (store : Store m) (notify : Notice → m Unit) (request : Request) :
    client.cached store notify request =
      (Client.decorated request).run (client.answerCourse store notify) := by
  by_cases h : request.method = .get
  · rw [Client.decorated_get h]
    simp only [Client.cached, h]
  · rw [Client.decorated_other h]
    refine Eq.trans ?_
      (run_question (I := interface) (client.answerCourse store notify) (.send request)).symm
    unfold Client.cached
    cases hm : request.method
    · exact absurd hm h
    all_goals rfl

/-- A request made for somebody, or for nobody in particular. -/
def Request.withCredential (request : Request) (credential : Option Credential) : Request :=
  { request with credential }

@[simp] theorem Request.withCredential_method (request : Request) (credential : Option Credential) :
    (request.withCredential credential).method = request.method := rfl

@[simp] theorem Request.withCredential_headers (request : Request)
    (credential : Option Credential) :
    (request.withCredential credential).headers = request.headers := rfl

/-- A client made from the cached one by authenticating it, any number of times. -/
def Client.Derived (c : Client (Program Revalidation.interface)) : Prop :=
  ∀ request : Request, ∃ credential : Option Credential,
    c request = Client.decorated (request.withCredential credential)

theorem Client.derived_decorated : Client.Derived Client.decorated :=
  fun request => ⟨request.credential, rfl⟩

theorem Client.Derived.authenticated {c : Client (Program Revalidation.interface)}
    (h : Client.Derived c) (credential : Credential) :
    Client.Derived (c.authenticated credential) :=
  fun request => h { request with credential := request.credential.or (some credential) }

/-! ## Sessions -/

/-- Clients, and the state of the environment behind them. -/
structure Session (σ : Type) where
  clients : List (Client (Program Revalidation.interface))
  state : σ

namespace Session

variable {σ : Type}

/-- A number of cached clients that have not done anything yet. -/
def start (clients : Nat) (state : σ) : Session σ :=
  ⟨List.replicate clients Client.decorated, state⟩

/-- What may happen in a session whose callers make `allowed` requests. -/
inductive Step (step : Answering Revalidation.interface σ) (allowed : Request → Prop) :
    Session σ → Session σ → Prop
  | request {s : Session σ} {c : Client (Program Revalidation.interface)} {request : Request}
      {x : Except ClientError Resource} {state' : σ} : c ∈ s.clients → allowed request →
      Runs step (c request) s.state x state' → Step step allowed s { s with state := state' }
  | authenticate {s : Session σ} {c : Client (Program Revalidation.interface)}
      (credential : Credential) : c ∈ s.clients →
      Step step allowed s { s with clients := s.clients ++ [c.authenticated credential] }

/-- The sessions that a session can become. -/
inductive Reachable (step : Answering Revalidation.interface σ) (allowed : Request → Prop)
    (s₀ : Session σ) : Session σ → Prop
  | here : Reachable step allowed s₀ s₀
  | next {s s' : Session σ} : Reachable step allowed s₀ s → Step step allowed s s' →
      Reachable step allowed s₀ s'

variable {step : Answering Revalidation.interface σ} {allowed : Request → Prop}

/-- All clients of a session are made from the cached one. -/
theorem Reachable.derived {n : Nat} {state : σ} {s : Session σ}
    (h : Reachable step allowed (Session.start n state) s) : ∀ c ∈ s.clients, Client.Derived c := by
  induction h with
  | here =>
    intro c hc
    rw [List.eq_of_mem_replicate hc]
    exact Client.derived_decorated
  | next _ hs ih =>
    cases hs with
    | request => exact ih
    | authenticate credential hc =>
      intro c' hc'
      rcases List.mem_append.1 hc' with hc' | hc'
      · exact ih c' hc'
      · rw [List.mem_singleton.1 hc']
        exact (ih _ hc).authenticated credential

/-- What every GET and every other request through the cached client keeps, a session keeps. -/
theorem Reachable.invariant {P : σ → Prop} {n : Nat} {state : σ} {s : Session σ}
    (h : Reachable step allowed (Session.start n state) s) (h0 : P state)
    (hallowed : ∀ request credential, allowed request → allowed (request.withCredential credential))
    (hget : ∀ request state x state', request.method = .get → allowed request → P state →
      Got step request state x state' → P state')
    (hother : ∀ request state x state', request.method ≠ .get → P state →
      step state (.send request) x state' → P state') : P s.state := by
  induction h with
  | here => exact h0
  | next hr hs ih =>
    cases hs with
    | authenticate => exact ih
    | @request c request x _ hc ha hrun =>
      obtain ⟨credential, he⟩ := hr.derived c hc request
      rw [he] at hrun
      by_cases hm : request.method = .get
      · rw [Client.decorated_get (by exact hm)] at hrun
        exact hget (request.withCredential credential) _ _ _ hm (hallowed _ _ ha) ih
          (runs_get_iff.1 hrun)
      · rw [Client.decorated_other (by exact hm)] at hrun
        exact hother (request.withCredential credential) _ _ _ hm ih (runs_ask_pure_iff.1 hrun)

end Session

end ConditionalGet
