import ConditionalGet.Proofs.Client.Journal
import ConditionalGet.Proofs.Client.Paging
import Mathlib.Data.List.Induction

/-!
# GETs at the same time

Any number of GETs share a memory and do not wait for one another: between two questions of one GET
any number of questions of others may be answered, and what a server answers is left open.
`Traffic` has the GETs on their way and a log of all that was asked and answered, each entry with
the number of the GET that it is of. One step puts one more GET on its way or answers one question
of one of them.

`Sound` is the invariant: the memory is what the log comes to, a lookup has found what the log up to
it comes to, and the entries of one GET are a course of it. What is known of the courses of a GET by
itself (`Founded`, `Settled`) then holds of it among others.
-/

set_option autoImplicit false

namespace ConditionalGet

open Revalidation Program

/-! ## What one GET asks -/

namespace Revalidation

/-- A question of a GET, and what was answered to it. -/
abbrev Turn : Type := Program.Turn interface

namespace Turn

/-- What is sent in a turn, and what comes back. -/
def exchange? : Turn → Option Exchange
  | ⟨.send request, answer⟩ => some ⟨request, answer⟩
  | _ => none

/-- What a turn puts on record, and for which URI. -/
def stored? : Turn → Option (String × CachedResponse)
  | ⟨.store uri etag body, _⟩ => some (uri, ⟨etag, body⟩)
  | _ => none

def apply (memory : Memory) : Turn → Memory
  | ⟨.store uri etag body, _⟩ => memory.store uri etag body
  | _ => memory

end Turn

/-- The latest exchange of a number of turns. -/
def lastExchange? (turns : List Turn) : Option Exchange := turns.reverse.findSome? Turn.exchange?

theorem lastExchange?_sent (turns : List Turn) (request : Request)
    (answer : Except ClientError Resource) :
    lastExchange? (turns ++ [⟨.send request, answer⟩]) = some ⟨request, answer⟩ := by
  rw [lastExchange?, List.reverse_append, List.findSome?_append]
  rfl

theorem lastExchange?_stored (turns : List Turn) (uri etag body : String)
    (r : Except StoreError Unit) :
    lastExchange? (turns ++ [⟨.store uri etag body, r⟩]) = lastExchange? turns := by
  rw [lastExchange?, List.reverse_append, List.findSome?_append]
  rfl

/-- Validator and body are those of one response with status 200 to a GET, which is among the
turns. -/
def Issued (uri : String) (kept : CachedResponse) (turns : List Turn) : Prop :=
  ∃ sent response, (⟨.send sent, .ok response⟩ : Turn) ∈ turns ∧ sent.method = .get ∧
    sent.uri.text = uri ∧ response.status = 200 ∧ response.etag? = some kept.etag ∧
    response.body = kept.body

/-- Whatever is put on record has been issued before. -/
def Founded (turns : List Turn) : Prop :=
  ∀ before turn after uri kept, turns = before ++ turn :: after →
    turn.stored? = some (uri, kept) → Issued uri kept before

/-- A response is what came last, or it stands for a 304 that came last, to a request with the
validator on record, and has the body on record. -/
def Settled (request : Request) (response : Resource) (turns : List Turn) : Prop :=
  (∃ sent, lastExchange? turns = some ⟨sent, .ok response⟩) ∨
    ∃ sent notModified found etag body,
      turns = [⟨.lookup request.uri.text, .ok found⟩, ⟨.send sent, .ok notModified⟩] ∧
      notModified.status = statusNotModified ∧ found.etag? = some etag ∧
      found.body? = some body ∧ sent.Carries etag ∧ response = notModified.derive statusOk body

section
variable {turns turns' : List Turn} {request : Request} {x : Except ClientError Resource}

/-- Where a list with one more element is cut at an element: at the last one or before it. -/
theorem snoc_eq_append_cons {α : Type} {l before after : List α} {a x : α}
    (h : l ++ [a] = before ++ x :: after) :
    (before = l ∧ x = a) ∨ ∃ after', l = before ++ x :: after' := by
  rcases List.eq_nil_or_concat after with rfl | ⟨after, last, rfl⟩
  · obtain ⟨rfl, rfl⟩ := List.append_singleton_inj.1 h
    exact .inl ⟨rfl, rfl⟩
  · rw [List.concat_eq_append, ← List.cons_append, ← List.append_assoc] at h
    exact .inr ⟨after, (List.append_singleton_inj.1 h).1⟩

theorem founded_nil : Founded [] := by
  intro before turn after uri kept h
  simp at h

/-- One more turn that puts nothing on record that has not been issued. -/
theorem Founded.snoc {turn : Turn} (h : Founded turns)
    (hturn : ∀ uri kept, turn.stored? = some (uri, kept) → Issued uri kept turns) :
    Founded (turns ++ [turn]) := by
  intro before stored after uri kept heq hstored
  obtain ⟨rfl, rfl⟩ | ⟨after', hturns⟩ := snoc_eq_append_cons heq
  · exact hturn uri kept hstored
  · exact h before stored after' uri kept hturns hstored

theorem Founded.silent {turn : Turn} (h : Founded turns) (hturn : turn.stored? = none) :
    Founded (turns ++ [turn]) := by
  refine h.snoc fun uri kept hk => ?_
  rw [hturn] at hk
  cases hk

theorem recorded_founded {sent : Request} {response : Resource} (hget : sent.method = .get)
    (hturns : Founded turns) (hlast : lastExchange? turns = some ⟨sent, .ok response⟩)
    (hsent : (⟨.send sent, .ok response⟩ : Turn) ∈ turns)
    (h : Recorded (recording interface) sent.uri.text response turns x turns') :
    Founded turns' ∧ ∀ y, x = .ok y → lastExchange? turns' = some ⟨sent, .ok y⟩ := by
  have hissued : ∀ etag, fresh? response = some etag →
      Issued sent.uri.text ⟨etag, response.body⟩ turns := by
    intro etag hf
    obtain ⟨hok, he⟩ := fresh?_eq_some_iff.1 hf
    exact ⟨sent, response, hsent, hget, rfl, hok, he, rfl⟩
  cases h with
  | nothing =>
    refine ⟨hturns, ?_⟩
    rintro y ⟨⟩
    exact hlast
  | @stored etag _ _ hf hs =>
    obtain rfl : turns' = _ := hs
    refine ⟨hturns.snoc ?_, ?_⟩
    · rintro uri kept ⟨⟩
      exact hissued etag hf
    · rintro y ⟨⟩
      rw [lastExchange?_stored]
      exact hlast
  | @refused etag _ _ _ hf hs =>
    obtain rfl : turns' = _ := hs
    refine ⟨hturns.snoc ?_, fun y hy => nomatch hy⟩
    rintro uri kept ⟨⟩
    exact hissued etag hf

theorem exchanged_founded {sent : Request} (hget : sent.method = .get) (hturns : Founded turns)
    (h : Exchanged (recording interface) sent turns x turns') :
    Founded turns' ∧ ∀ y, x = .ok y → lastExchange? turns' = some ⟨sent, .ok y⟩ := by
  cases h with
  | failed hs =>
    obtain rfl : turns' = _ := hs
    exact ⟨hturns.silent rfl, fun y hy => nomatch hy⟩
  | answered hs hr =>
    obtain rfl : _ = _ := hs
    exact recorded_founded hget (hturns.silent rfl) (lastExchange?_sent ..) (by simp) hr

/-- All the courses of a GET are founded, and the response it brings is settled. -/
theorem got_founded (hget : request.method = .get)
    (h : Got (recording interface) request [] x turns) :
    Founded turns ∧ ∀ response, x = .ok response → Settled request response turns := by
  cases h with
  | unknown hl =>
    obtain rfl : turns = _ := hl
    exact ⟨founded_nil.silent rfl, fun y hy => nomatch hy⟩
  | missed hl _ hx =>
    obtain rfl : _ = _ := hl
    obtain ⟨hturns, hlast⟩ := exchanged_founded hget (founded_nil.silent rfl) hx
    exact ⟨hturns, fun response hr => .inl ⟨_, hlast response hr⟩⟩
  | unsendable hl _ _ hn hx =>
    obtain rfl : _ = _ := hl
    obtain rfl : _ = _ := hn
    obtain ⟨hturns, hlast⟩ := exchanged_founded (by exact hget)
      ((founded_nil.silent rfl).silent rfl) hx
    exact ⟨hturns, fun response hr => .inl ⟨_, hlast response hr⟩⟩
  | unanswered hl _ _ hs =>
    obtain rfl : _ = _ := hl
    obtain rfl : _ = _ := hs
    exact ⟨(founded_nil.silent rfl).silent rfl, fun y hy => nomatch hy⟩
  | @changed _ _ validator _ _ _ _ _ _ hl _ _ hs _ hr =>
    obtain rfl : _ = _ := hl
    obtain rfl : _ = _ := hs
    have hget' : (conditional request validator).method = .get := hget
    obtain ⟨hturns, hlast⟩ := recorded_founded hget' ((founded_nil.silent rfl).silent rfl)
      (lastExchange?_sent ..) (by simp) hr
    exact ⟨hturns, fun response hr => .inl ⟨_, hlast response hr⟩⟩
  | @unchanged found etag body validator notModified _ _ _ hl he hv hs hst hb =>
    obtain rfl : _ = _ := hl
    obtain rfl : _ = _ := hs
    refine ⟨(founded_nil.silent rfl).silent rfl, ?_⟩
    rintro response ⟨⟩
    exact .inr ⟨_, notModified, found, etag, body, rfl, hst, he, hb,
      (carries_conditional request hv).2 rfl, rfl⟩
  | bodiless hl _ _ hs _ _ hn hx =>
    obtain rfl : _ = _ := hl
    obtain rfl : _ = _ := hs
    obtain rfl : _ = _ := hn
    obtain ⟨hturns, hlast⟩ := exchanged_founded (by exact hget)
      (((founded_nil.silent rfl).silent rfl).silent rfl) hx
    exact ⟨hturns, fun response hr => .inl ⟨_, hlast response hr⟩⟩

end

/-- What is put on record on the way has been issued before, whether the GET comes to an end or
not. -/
theorem founded_of_left {c : Client (Program interface)} (hc : c.Derived) {request : Request}
    (hget : request.method = .get) {turns : List Turn}
    {rest : Program interface (Except ClientError Resource)}
    (h : Left (c request) turns rest) : Founded turns := by
  have hanswer : ∀ q, Nonempty (interface.Answer q) := by
    intro q
    cases q with
    | lookup => exact ⟨(.ok .miss : Except StoreError Lookup)⟩
    | send => exact ⟨(.error (.transport ⟨"", []⟩) : Except ClientError Resource)⟩
    | store => exact ⟨(.ok () : Except StoreError Unit)⟩
    | notify => exact ⟨()⟩
  obtain ⟨x, more, hrun⟩ := h.exists_runs hanswer
  obtain ⟨credential, he⟩ := hc request
  rw [he, Client.decorated_get (by exact hget)] at hrun
  have hall := (got_founded (by exact hget) (runs_get_iff.1 hrun)).1
  intro before turn after uri kept heq hstored
  refine hall before turn (after ++ more) uri kept ?_ hstored
  rw [heq, List.append_assoc, List.cons_append]

theorem settled_of_left {c : Client (Program interface)} (hc : c.Derived) {request : Request}
    (hget : request.method = .get) {turns : List Turn} {response : Resource}
    (h : Left (c request) turns (.pure (.ok response))) : Settled request response turns := by
  have hrun := h.runs (.pure _ _)
  obtain ⟨credential, he⟩ := hc request
  rw [he, Client.decorated_get (by exact hget)] at hrun
  exact (got_founded (by exact hget) (runs_get_iff.1 hrun)).2 response rfl

end Revalidation

/-! ## Traffic -/

/-- A GET on its way, and what is left of it. -/
structure Flight where
  request : Request
  left : Program interface (Except ClientError Resource)

/-- All GETs that were ever on their way, the memory they share and what was asked and answered, the
latest last, each with the number of its GET. -/
structure Traffic where
  memory : Memory
  flights : List Flight
  log : List (Nat × Turn)

namespace Traffic

def quiet : Traffic := ⟨Table.empty, [], []⟩

/-- One more GET on its way. -/
def start (t : Traffic) (c : Client (Program interface)) (request : Request) : Traffic :=
  { t with flights := t.flights ++ [⟨request, c request⟩] }

/-- Answers a question of a GET by the memory or by a server. -/
def answerBy (server : Unchanging) : (q : Question) → StateM Memory (Answer q) :=
  (Client.direct server).answerCourse Memory.shared fun _ => Pure.pure ()

/-- One question of a GET is answered. -/
def turn (t : Traffic) (i : Nat) (server : Unchanging) : Traffic :=
  match t.flights[i]? with
  | some ⟨request, .ask q next⟩ =>
    let (r, memory) := (answerBy server q).run t.memory
    ⟨memory, t.flights.set i ⟨request, next r⟩, t.log ++ [(i, ⟨q, r⟩)]⟩
  | _ => t

/-- The traffic that there can be. A server may answer differently each time it is asked. -/
inductive Reachable : Traffic → Prop
  | quiet : Reachable quiet
  | start {t : Traffic} {c : Client (Program interface)} {request : Request} : Reachable t →
      c.Derived → request.method = .get → Reachable (t.start c request)
  | turn {t : Traffic} (i : Nat) (server : Unchanging) : Reachable t → Reachable (t.turn i server)

/-- The turns of one GET. -/
def turnsOf (i : Nat) (log : List (Nat × Turn)) : List Turn :=
  (log.filter (·.1 = i)).map Prod.snd

/-- What a log comes to. -/
def replay (log : List (Nat × Turn)) : Memory := log.foldl (fun m e => e.2.apply m) Table.empty

/-- The latest that was put on record for a URI. -/
def Latest (log : List (Nat × Turn)) (uri : String) (kept : CachedResponse) : Prop :=
  ∃ before i turn after, log = before ++ (i, turn) :: after ∧ turn.stored? = some (uri, kept) ∧
    ∀ e ∈ after, ∀ kept', e.2.stored? ≠ some (uri, kept')

/-- The invariant (module doc). -/
structure Sound (t : Traffic) : Prop where
  memory_eq : t.memory = replay t.log
  found : ∀ before i uri r after, t.log = before ++ (i, ⟨.lookup uri, r⟩) :: after →
    r = .ok ((replay before).lookup uri)
  flight : ∀ i request left, t.flights[i]? = some ⟨request, left⟩ → request.method = .get ∧
    ∃ c, Client.Derived c ∧ Left (c request) (turnsOf i t.log) left
  known : ∀ e ∈ t.log, e.1 < t.flights.length

section
variable {t : Traffic} {log : List (Nat × Turn)} {uri : String}

theorem turnsOf_append (i : Nat) (log log' : List (Nat × Turn)) :
    turnsOf i (log ++ log') = turnsOf i log ++ turnsOf i log' := by
  simp [turnsOf]

theorem turnsOf_cons_self (i : Nat) (turn : Turn) (log : List (Nat × Turn)) :
    turnsOf i ((i, turn) :: log) = turn :: turnsOf i log := by
  simp [turnsOf]

theorem turnsOf_cons_of_ne {i j : Nat} (h : j ≠ i) (turn : Turn) (log : List (Nat × Turn)) :
    turnsOf i ((j, turn) :: log) = turnsOf i log := by
  simp [turnsOf, h]

theorem mem_turnsOf {i : Nat} {turn : Turn} : turn ∈ turnsOf i log ↔ (i, turn) ∈ log := by
  simp [turnsOf]

theorem turnsOf_eq_nil {i : Nat} (h : ∀ e ∈ log, e.1 ≠ i) : turnsOf i log = [] := by
  rw [turnsOf, List.map_eq_nil_iff, List.filter_eq_nil_iff]
  intro e he
  simpa using h e he

/-- What one turn puts on record hides what was on record before. -/
theorem lookup_apply (memory : Memory) (turn : Turn) (uri : String) :
    (turn.apply memory).lookup uri = match turn.stored? with
      | some (u, kept) => if uri = u then .hit kept else memory.lookup uri
      | none => memory.lookup uri := by
  obtain ⟨q, r⟩ := turn
  cases q with
  | store u etag body => exact Memory.lookup_store memory u etag body uri
  | lookup => rfl
  | send => rfl
  | notify => rfl

theorem replay_snoc (log : List (Nat × Turn)) (e : Nat × Turn) :
    replay (log ++ [e]) = e.2.apply (replay log) := by
  rw [replay, List.foldl_append]
  rfl

theorem Latest.snoc {e : Nat × Turn} {kept : CachedResponse} (h : Latest log uri kept)
    (he : ∀ kept', e.2.stored? ≠ some (uri, kept')) : Latest (log ++ [e]) uri kept := by
  obtain ⟨before, i, turn, after, rfl, hturn, hafter⟩ := h
  refine ⟨before, i, turn, after ++ [e], by simp, hturn, fun e' he' => ?_⟩
  rcases List.mem_append.1 he' with he' | he'
  · exact hafter e' he'
  · rw [List.mem_singleton.1 he']
    exact he

/-- A log comes to what was put on record last, for each URI. -/
theorem lookup_replay (log : List (Nat × Turn)) (uri : String) :
    ((replay log).lookup uri = .miss ∧ ∀ e ∈ log, ∀ kept, e.2.stored? ≠ some (uri, kept)) ∨
      ∃ kept, (replay log).lookup uri = .hit kept ∧ Latest log uri kept := by
  induction log using List.reverseRecOn with
  | nil => exact .inl ⟨rfl, by simp⟩
  | append_singleton log e ih =>
    rw [replay_snoc, lookup_apply]
    by_cases hstores : ∃ kept, e.2.stored? = some (uri, kept)
    · obtain ⟨kept, hk⟩ := hstores
      refine .inr ⟨kept, ?_, log, e.1, e.2, [], rfl, hk, by simp⟩
      simp [hk]
    · have hno : ∀ kept, e.2.stored? ≠ some (uri, kept) := not_exists.1 hstores
      have hsame : (match e.2.stored? with
          | some (u, kept) => if uri = u then .hit kept else (replay log).lookup uri
          | none => (replay log).lookup uri) = (replay log).lookup uri := by
        rcases hs : e.2.stored? with _ | ⟨u, kept⟩
        · rfl
        · refine if_neg ?_
          rintro rfl
          exact hno kept hs
      rw [hsame]
      obtain ⟨hmiss, hlog⟩ | ⟨kept, hhit, hlatest⟩ := ih
      · refine .inl ⟨hmiss, fun e' he' => ?_⟩
        rcases List.mem_append.1 he' with he' | he'
        · exact hlog e' he'
        · rw [List.mem_singleton.1 he']
          exact hno
      · exact .inr ⟨kept, hhit, hlatest.snoc hno⟩

/-- What is found on record is what was put there last. -/
theorem latest_of_hit {kept : CachedResponse} (h : (replay log).lookup uri = .hit kept) :
    Latest log uri kept := by
  obtain ⟨hmiss, -⟩ | ⟨kept', hhit, hlatest⟩ := lookup_replay log uri
  · rw [h] at hmiss
    cases hmiss
  · rw [h] at hhit
    cases hhit
    exact hlatest

end

/-! ## One step -/

section
variable {t : Traffic}

theorem apply_of_inMemory {server : Unchanging} {memory memory' : Memory} {q : Question}
    {r : Answer q} (h : inMemory server memory q r memory') :
    memory' = Turn.apply memory ⟨q, r⟩ := by
  cases q with
  | lookup => exact (inMemory_lookup h).2
  | send => exact (inMemory_send h).2
  | store => exact (inMemory_store h).2
  | notify => exact inMemory_notify h

theorem turn_cases (t : Traffic) (i : Nat) (server : Unchanging) :
    t.turn i server = t ∨ ∃ request q next r memory,
      t.flights[i]? = some ⟨request, .ask q next⟩ ∧ inMemory server t.memory q r memory ∧
      t.turn i server = ⟨memory, t.flights.set i ⟨request, next r⟩, t.log ++ [(i, ⟨q, r⟩)]⟩ := by
  rcases h : t.flights[i]? with _ | ⟨request, x | ⟨q, next⟩⟩
  · left
    simp only [turn, h]
  · left
    simp only [turn, h]
  · right
    refine ⟨request, q, next, _, _, rfl, rfl, ?_⟩
    simp only [turn, h]
    rfl

theorem Sound.start (h : Sound t) {c : Client (Program interface)} (hc : c.Derived)
    {request : Request} (hget : request.method = .get) : Sound (t.start c request) where
  memory_eq := h.memory_eq
  found := h.found
  flight := by
    intro i request' left hi
    rw [Traffic.start, List.getElem?_append] at hi
    split at hi
    · exact h.flight i request' left hi
    · rw [List.getElem?_singleton] at hi
      split at hi
      case isFalse => cases hi
      cases hi
      -- the log has nothing yet of a GET that has just set out
      have hnil : turnsOf i t.log = [] := turnsOf_eq_nil fun e he hei => by
        have := h.known e he
        omega
      refine ⟨hget, c, hc, ?_⟩
      rw [show (t.start c request).log = t.log from rfl, hnil]
      exact .here
  known := by
    intro e he
    have := h.known e he
    simp only [Traffic.start, List.length_append]
    omega

theorem Sound.turn (h : Sound t) (i : Nat) (server : Unchanging) : Sound (t.turn i server) := by
  obtain heq | ⟨request, q, next, r, memory, hi, hans, heq⟩ := turn_cases t i server
  · rw [heq]
    exact h
  obtain ⟨hlen, -⟩ := List.getElem?_eq_some_iff.1 hi
  rw [heq]
  constructor
  · rw [apply_of_inMemory hans, h.memory_eq]
    exact (replay_snoc t.log (i, ⟨q, r⟩)).symm
  · intro before j uri r' after hlog
    obtain ⟨rfl, he⟩ | ⟨after', hlog'⟩ := snoc_eq_append_cons hlog
    · cases he
      rw [(inMemory_lookup hans).1, h.memory_eq]
    · exact h.found before j uri r' after' hlog'
  · intro j request' left hj
    rw [List.getElem?_set] at hj
    rw [turnsOf_append]
    split at hj
    · rename_i hij
      subst hij
      cases hj
      obtain ⟨hget, c, hc, hleft⟩ := h.flight i request (.ask q next) hi
      refine ⟨hget, c, hc, ?_⟩
      rw [turnsOf_cons_self]
      exact hleft.turn r
    · rename_i hij
      obtain ⟨hget, c, hc, hleft⟩ := h.flight j request' left hj
      refine ⟨hget, c, hc, ?_⟩
      rw [turnsOf_cons_of_ne hij]
      simpa [turnsOf] using hleft
  · intro e he
    rw [List.length_set]
    rcases List.mem_append.1 he with he | he
    · exact h.known e he
    · rw [List.mem_singleton.1 he]
      exact hlen

end

/-! ## Any number of steps -/

theorem Reachable.sound {t : Traffic} (h : Reachable t) : Sound t := by
  induction h with
  | quiet => exact ⟨rfl, by simp [Traffic.quiet], by simp [Traffic.quiet], by simp [Traffic.quiet]⟩
  | start _ hc hget ih => exact ih.start hc hget
  | turn i server _ ih => exact ih.turn i server

/-- Validator and body were put on record together for a URI, last of all, by a GET that had them
from one response. -/
def OnRecord (log : List (Nat × Turn)) (uri : String) (kept : CachedResponse) : Prop :=
  ∃ before i turn after, log = before ++ (i, turn) :: after ∧ turn.stored? = some (uri, kept) ∧
    Issued uri kept (turnsOf i before) ∧ ∀ e ∈ after, ∀ kept', e.2.stored? ≠ some (uri, kept')

theorem Sound.onRecord {t : Traffic} (h : Sound t) {log later : List (Nat × Turn)}
    (hlog : t.log = log ++ later) {uri : String} {kept : CachedResponse}
    (hlatest : Latest log uri kept) : OnRecord log uri kept := by
  obtain ⟨before, i, turn, after, rfl, hturn, hafter⟩ := hlatest
  refine ⟨before, i, turn, after, rfl, hturn, ?_, hafter⟩
  have hi : i < t.flights.length := h.known (i, turn) (by simp [hlog])
  obtain ⟨hget, c, hc, hleft⟩ := h.flight i _ _ (List.getElem?_eq_getElem hi)
  rw [hlog, List.append_assoc, List.cons_append, turnsOf_append, turnsOf_cons_self] at hleft
  exact founded_of_left hc hget hleft _ turn _ uri kept rfl hturn

/-- **GETs that know nothing of each other do not mix what is on record.** Whatever GETs share a
memory that was empty at first, in whatever order their questions are answered and whatever the
servers answer: each URI has on record the validator and the body of one response with status 200 to
a GET for it, those that were put there last; and a GET that makes a response with status 200 of a
304 has the body that was on record, when it looked, with the very validator that it has sent. -/
theorem concurrent_unmixed {t : Traffic} (h : Reachable t) :
    (∀ uri, (t.memory.lookup uri = .miss ∧ ∀ e ∈ t.log, ∀ kept, e.2.stored? ≠ some (uri, kept)) ∨
      ∃ kept, t.memory.lookup uri = .hit kept ∧ OnRecord t.log uri kept) ∧
    ∀ i request response sent notModified,
      t.flights[i]? = some ⟨request, .pure (.ok response)⟩ → response.status = 200 →
      lastExchange? (turnsOf i t.log) = some ⟨sent, .ok notModified⟩ → notModified.status = 304 →
      ∃ kept before after,
        t.log = before ++ (i, ⟨.lookup request.uri.text, .ok (.hit kept)⟩) :: after ∧
        OnRecord before request.uri.text kept ∧ sent.Carries kept.etag ∧
        response = notModified.derive 200 kept.body := by
  have hs := h.sound
  constructor
  · intro uri
    rw [hs.memory_eq]
    obtain hmiss | ⟨kept, hhit, hlatest⟩ := lookup_replay t.log uri
    · exact .inl hmiss
    · exact .inr ⟨kept, hhit, hs.onRecord (List.append_nil _).symm hlatest⟩
  · intro i request response sent notModified hi hok hlast hst
    obtain ⟨hget, c, hc, hleft⟩ := hs.flight i request _ hi
    obtain ⟨sent', hlast'⟩ | ⟨sent', notModified', found, etag, body, hturns, -, he, hb, hcarries,
      hresponse⟩ := settled_of_left hc hget hleft
    · -- what came last is no 304 then
      rw [hlast] at hlast'
      cases hlast'
      rw [hok] at hst
      cases hst
    · have hlast' : lastExchange? (turnsOf i t.log) = some ⟨sent', .ok notModified'⟩ := by
        rw [hturns]
        exact lastExchange?_sent [⟨.lookup request.uri.text, .ok found⟩] sent' _
      rw [hlast] at hlast'
      cases hlast'
      have hmem : (i, (⟨.lookup request.uri.text, .ok found⟩ : Turn)) ∈ t.log :=
        mem_turnsOf.1 (by simp [hturns])
      obtain ⟨before, after, hlog⟩ := List.append_of_mem hmem
      have hfound := hs.found before i _ _ after hlog
      cases hfound
      obtain ⟨body', hhit⟩ := Memory.body?_of_etag? he
      rw [hhit] at hb hlog
      cases hb
      exact ⟨⟨etag, body'⟩, before, after, hlog, hs.onRecord hlog (latest_of_hit hhit), hcarries,
        hresponse⟩

/-! ### A page overwritten while it is asked for -/

namespace Overtaken

open Visits

/-- The page after it has changed. -/
def changed : Resource := ⟨statusOk, "[2]", Table.empty.insert "ETag" ["\"v2\""]⟩

/-- What a GET has got, if it has come to an end and has not failed. -/
def response? (flight : Flight) : Option Resource :=
  match flight.left with
  | .pure (.ok response) => some response
  | _ => none

theorem of_response? {flight : Option Flight} {shown : Nat × String}
    (h : (flight.bind response?).map Resource.shown = some shown) :
    ∃ request response, flight = some ⟨request, .pure (.ok response)⟩ ∧
      response.shown = shown := by
  rcases flight with _ | ⟨request, (_ | response) | _⟩
  · cases h
  · cases h
  · cases h
    exact ⟨request, response, rfl, rfl⟩
  · cases h

/-- The status that a request was answered with. -/
def status? (e : Exchange) : Option Nat := e.answer.toOption.map Resource.status

theorem of_status? {exchange : Option Exchange} {status : Nat}
    (h : exchange.bind status? = some status) :
    ∃ sent response, exchange = some ⟨sent, .ok response⟩ ∧ response.status = status := by
  rcases exchange with _ | ⟨sent, _ | response⟩
  · cases h
  · cases h
  · cases h
    exact ⟨sent, response, rfl, rfl⟩

/-- The first GET puts the page on record. -/
def visited : Traffic :=
  (((quiet.start Client.decorated request).turn 0 fun _ => .ok page).turn 0
    fun _ => .ok page).turn 0 fun _ => .ok page

/-- The second one looks what is on record. -/
def asking : Traffic :=
  (visited.start (Client.decorated.authenticated (.bearer "t")) request).turn 1 fun _ => .ok same

/-- Now the third one puts a changed page on record. -/
def overtaken : Traffic :=
  (((asking.start Client.decorated request).turn 2 fun _ => .ok changed).turn 2
    fun _ => .ok changed).turn 2 fun _ => .ok changed

/-- Only then is the second one told that nothing has changed. -/
def traffic : Traffic := overtaken.turn 1 fun _ => .ok same

theorem reachable : Reachable traffic := by
  have hvisited : Reachable visited :=
    (((Reachable.quiet.start Client.derived_decorated rfl).turn 0 _).turn 0 _).turn 0 _
  have hasking : Reachable asking :=
    (hvisited.start (Client.derived_decorated.authenticated (.bearer "t")) rfl).turn 1 _
  have hovertaken : Reachable overtaken :=
    (((hasking.start Client.derived_decorated rfl).turn 2 _).turn 2 _).turn 2 _
  exact hovertaken.turn 1 _

def uri : String := request.uri.text

theorem lookup_changed : traffic.memory.lookup uri = .hit ⟨"\"v2\"", "[2]"⟩ := by decide +kernel

/-- The second GET has got something. -/
theorem response?_second :
    (traffic.flights[1]?.bind response?).map Resource.shown = some (200, "[1]") := by
  decide +kernel

theorem lastExchange?_second :
    ((lastExchange? (turnsOf 1 traffic.log)).bind status?) = some 304 := by
  decide +kernel

/-- The second GET has got the page as it was when it looked, although another is on record now. -/
theorem concurrent_unmixed_overtaken :
    Reachable traffic ∧ traffic.memory.lookup uri = .hit ⟨"\"v2\"", "[2]"⟩ ∧
      OnRecord traffic.log uri ⟨"\"v2\"", "[2]"⟩ ∧
      ∃ asked response sent kept before after,
        traffic.flights[1]? = some ⟨asked, .pure (.ok response)⟩ ∧ response.shown = (200, "[1]") ∧
        traffic.log = before ++ (1, ⟨.lookup asked.uri.text, .ok (.hit kept)⟩) :: after ∧
        OnRecord before asked.uri.text kept ∧ Request.Carries sent kept.etag ∧
        kept.body = "[1]" := by
  obtain ⟨hrecord, hflights⟩ := concurrent_unmixed reachable
  refine ⟨reachable, lookup_changed, ?_, ?_⟩
  · obtain ⟨hmiss, -⟩ | ⟨kept, hhit, hon⟩ := hrecord uri
    · rw [lookup_changed] at hmiss
      cases hmiss
    · rw [lookup_changed] at hhit
      cases hhit
      exact hon
  · obtain ⟨asked, response, hi, hshown⟩ := of_response? response?_second
    obtain ⟨sent, notModified, hlast, hst⟩ := of_status? lastExchange?_second
    have hok : response.status = 200 := congrArg Prod.fst hshown
    obtain ⟨kept, before, after, hlog, hon, hcarries, hresponse⟩ :=
      hflights 1 asked response sent notModified hi hok hlast hst
    refine ⟨asked, response, sent, kept, before, after, hi, hshown, hlog, hon, hcarries, ?_⟩
    rw [hresponse] at hshown
    exact congrArg Prod.snd hshown

end Overtaken

end Traffic

end ConditionalGet
