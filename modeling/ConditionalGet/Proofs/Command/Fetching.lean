import ConditionalGet.Proofs.Client.Unfolding
import ConditionalGet.Proofs.Command.World

/-!
# Fetching

A run uses its client only for the requests of `fetching`, one after another, and prints between
them. What it does with the pages of a collection is `Visiting`, page by page. Its client keeps
nothing, or the records of a cache (`Records`); `fetchThrough_eq` says that it fetches by the same
program in all of these cases.
-/

set_option autoImplicit false

namespace ConditionalGet.Command

open Program

/-! ## Fetching, whatever the client -/

namespace Fetching

/-- What fetching asks: for resources, and that something is printed. -/
inductive Question where
  | get (request : Request)
  | print (text : String)

def Answer : Question → Type
  | .get _ => Except ClientError Resource
  | .print _ => Unit

def interface : Interface := ⟨Question, Answer⟩

def asked : Client (Program interface) := fun request => .ask (.get request) .pure

def printed (text : String) : Program interface Unit := .ask (.print text) .pure

variable {m : Type → Type}

def answer (client : Client m) (print : String → m Unit) :
    (q : interface.Question) → m (interface.Answer q)
  | .get request => client request
  | .print text => print text

end Fetching

open Fetching in
/-- Fetching as a program of its own. -/
def fetching (a : Arguments) : Program Fetching.interface (Except Failure Unit) :=
  fetch asked printed a

section
variable {m : Type → Type} [Monad m] [LawfulMonad m] (client : Client m) (print : String → m Unit)

open Fetching

theorem run_asked (request : Request) :
    (asked request).run (answer client print) = client request :=
  run_question (answer client print) (.get request)

theorem run_printed (text : String) : (printed text).run (answer client print) = print text :=
  run_question (answer client print) (.print text)

theorem step_eq_run (p : Paging) :
    p.step client = (p.step asked).run (answer client print) := by
  unfold Paging.step
  cases p.next? with
  | none => rfl
  | some uri =>
    rw [run_bind, run_asked]
    rfl

theorem visit_eq_run (limit : Nat) (p : Paging) :
    Paging.visit client (fun r => print (pageText r)) limit p =
      (Paging.visit asked (fun r => printed (pageText r)) limit p).run (answer client print) := by
  induction limit generalizing p with
  | zero => rfl
  | succ limit ih =>
    rw [Paging.visit, Paging.visit, run_bind, ← step_eq_run]
    refine bind_congr fun y => ?_
    obtain ⟨_ | _ | resource, p⟩ := y
    · rfl
    · rfl
    · show _ = Program.run _ (printed (pageText resource) >>= fun _ => _)
      rw [run_bind, run_printed]
      exact bind_congr fun _ => ih p

theorem fetch_eq_run (a : Arguments) :
    fetch client print a = (fetching a).run (answer client print) := by
  unfold fetching fetch
  split
  · rw [run_bind, run_asked]
    refine bind_congr fun y => ?_
    cases y with
    | error e => rfl
    | ok resource =>
      show _ = Program.run _ (printed (pageText resource) >>= fun _ => _)
      rw [run_bind, run_printed]
      refine bind_congr fun _ => ?_
      split <;> rfl
  · rw [run_bind, ← visit_eq_run]
    rfl

end

/-! ## Page by page -/

section
variable {σ : Type} (step : Answering Fetching.interface σ)

open Paging

/-- Visiting a collection as a part of fetching. -/
abbrev visiting (limit : Nat) (p : Paging) : Program Fetching.interface (Except ClientError Unit) :=
  visit Fetching.asked (fun r => Fetching.printed (pageText r)) limit p

/-- How a visit of at most one page more than `limit` goes: there is none, or it is asked for and
does not come, or it comes and is printed, and the visit goes on from there. -/
inductive Visiting (limit : Nat) (p : Paging) : σ → Except ClientError Unit → σ → Prop
  | ended {s : σ} : p.next? = none → Visiting limit p s (.ok ()) s
  | failed {uri : Url} {answer : Except ClientError Resource} {e : ClientError} {s s' : σ} :
      p.next? = some uri → step s (.get (request uri)) answer s' → Fails uri answer e →
      Visiting limit p s (.error e) s'
  | page {uri : Url} {page : Resource} {next : Option Url} {x : Except ClientError Unit}
      {s s₁ s₂ s' : σ} : p.next? = some uri → step s (.get (request uri)) (.ok page) s₁ →
      page.status = 200 → Leads uri page next → step s₁ (.print (pageText page)) () s₂ →
      Runs step (visiting limit ⟨next, p.fetched + 1⟩) s₂ x s' → Visiting limit p s x s'

variable {step} {limit : Nat} {p : Paging} {x : Except ClientError Unit} {s s' : σ}

theorem runs_visit_iff :
    Runs step (visiting (limit + 1) p) s x s' ↔ Visiting step limit p s x s' := by
  have hstep : ∀ {uri : Url}, p.next? = some uri → p.step Fetching.asked =
      Fetching.asked (request uri) >>= fun answer =>
        Pure.pure (some (advance p.fetched uri answer).1, (advance p.fetched uri answer).2) := by
    intro uri hp
    simp only [Paging.step, hp]
  constructor
  · intro h
    obtain ⟨y, s₁, hs, hrest⟩ := runs_bind_iff.1 h
    cases hp : p.next? with
    | none =>
      simp only [Paging.step, hp] at hs
      obtain ⟨rfl, rfl⟩ := runs_pure_iff'.1 hs
      obtain ⟨rfl, rfl⟩ := runs_pure_iff'.1 hrest
      exact .ended hp
    | some uri =>
      rw [hstep hp] at hs
      obtain ⟨answer, s₂, hask, hs⟩ := runs_bind_iff.1 hs
      obtain ⟨rfl, rfl⟩ := runs_pure_iff'.1 hs
      have hask := runs_ask_pure_iff.1 hask
      -- the page as `Paging` reads it decides whether there is more
      have hadvanced := advanced_advance p.fetched uri answer
      revert hadvanced hrest
      generalize advance p.fetched uri answer = item
      intro hrest hadvanced
      cases hadvanced with
      | fault hf =>
        obtain ⟨rfl, rfl⟩ := runs_pure_iff'.1 hrest
        exact .failed hp hask hf
      | page hst hnext =>
        obtain ⟨u, s₃, hprint, hrest⟩ := runs_bind_iff.1 hrest
        exact .page hp hask hst hnext (runs_ask_pure_iff.1 hprint) hrest
  · intro h
    refine runs_bind_iff.2 ?_
    cases h with
    | ended hp =>
      refine ⟨(none, p), s, ?_, runs_pure_iff'.2 ⟨rfl, rfl⟩⟩
      simp only [Paging.step, hp]
      exact runs_pure_iff'.2 ⟨rfl, rfl⟩
    | failed hp hask hf =>
      rw [hstep hp]
      refine ⟨_, _, runs_bind_iff.2 ⟨_, _, runs_ask_pure_iff.2 hask, .pure _ _⟩, ?_⟩
      rw [← (Advanced.fault hf).eq_advance]
      exact runs_pure_iff'.2 ⟨rfl, rfl⟩
    | page hp hask hst hnext hprint hrest =>
      rw [hstep hp]
      refine ⟨_, _, runs_bind_iff.2 ⟨_, _, runs_ask_pure_iff.2 hask, .pure _ _⟩, ?_⟩
      rw [← (Advanced.page hst hnext).eq_advance]
      exact runs_bind_iff.2 ⟨(), _, runs_ask_pure_iff.2 hprint, hrest⟩

end

/-! ## Through the client of a run -/

/-- What the client of a run keeps: nothing, or the records of its cache. -/
def Records : Storage → Type
  | .none => Unit
  | .memory => Memory
  | .disk _ => DiskStore

def records : (storage : Storage) → Records storage
  | .none => ()
  | .memory => Table.empty
  | .disk store => store

/-- The client of a run. -/
def getter (level : Level) (credential : Option Credential) :
    (storage : Storage) → Client (StateT (Records storage) Action)
  | .none => fun request => StateT.lift (withCredential direct credential request)
  | .memory => withCredential (Backend.client level .memory) credential
  | .disk _ => withCredential (Backend.client level .disk) credential

/-- The answers of a run to what fetching asks. -/
def fetchAnswer (level : Level) (credential : Option Credential) (storage : Storage) :
    (q : Fetching.interface.Question) →
      StateT (Records storage) Action (Fetching.interface.Answer q) :=
  Fetching.answer (getter level credential storage) fun text =>
    StateT.lift (question (I := interface) (.print text))

/-- What is around fetching in a run: its client, with what that keeps. -/
def through {τ : Type} (step : Answering interface τ) (level : Level)
    (credential : Option Credential) (storage : Storage) :
    Answering Fetching.interface (Records storage × τ) :=
  viaState step (fetchAnswer level credential storage)

section
variable {level : Level} {credential : Option Credential} {storage : Storage} {a : Arguments}

/-- The credential of a run is that of a request without one. -/
theorem getter_apply (request : Request) : getter level credential storage request =
    getter level none storage (request.withCredential (request.credential.or credential)) := by
  cases storage with
  | none => exact congrArg StateT.lift (withCredential_apply direct credential request)
  | memory => exact withCredential_apply _ credential request
  | disk store => exact withCredential_apply _ credential request

/-- A run fetches by one program, whatever its client. -/
theorem fetchThrough_eq : fetchThrough level a credential storage =
    ((fetching a).run (fetchAnswer level credential storage)).run' (records storage) := by
  cases storage with
  | none =>
    have hanswer : fetchAnswer level credential .none = fun q => StateT.lift
        (Fetching.answer (withCredential direct credential)
          (fun text => question (I := interface) (.print text)) q) := by
      funext q
      cases q <;> rfl
    have hrun : (fetching a).run (fetchAnswer level credential .none) =
        StateT.lift (fetchThrough level a credential .none) := by
      rw [hanswer, run_lift]
      exact congrArg StateT.lift (fetch_eq_run (withCredential direct credential) _ a).symm
    rw [hrun]
    show _ = Prod.fst <$> (StateT.lift _ : StateT Unit Action _).run ()
    simp only [StateT.run_lift, map_bind, map_pure, bind_pure]
  | memory => exact congrArg (fun p => StateT.run' p _) (fetch_eq_run _ _ a)
  | disk store => exact congrArg (fun p => StateT.run' p _) (fetch_eq_run _ _ a)

theorem runs_fetchThrough_iff {τ : Type} {step : Answering interface τ} {w w' : τ}
    {x : Except Failure Unit} : Runs step (fetchThrough level a credential storage) w x w' ↔
      ∃ kept, Runs (through step level credential storage) (fetching a) (records storage, w) x
        (kept, w') := by
  rw [fetchThrough_eq]
  refine runs_map_iff.trans ?_
  constructor
  · rintro ⟨⟨y, kept⟩, hrun, rfl⟩
    exact ⟨kept, runs_runState_iff.1 hrun⟩
  · rintro ⟨kept, hrun⟩
    exact ⟨(x, kept), runs_runState_iff.2 hrun, rfl⟩

end

end ConditionalGet.Command
