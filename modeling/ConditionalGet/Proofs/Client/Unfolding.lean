import ConditionalGet.Proofs.Client.Journal
import ConditionalGet.Proofs.Client.Paging

/-!
# A collection unfolds along its links

`Paging.calls` asks for the next page of a collection a number of times. A `Call` is what one time
came to: where the sequence stood, what was sent, what was yielded and where the sequence stands
after it. The client is any function on any state, so it may count, loop or never come to an end.
`Trail` says how one call follows another; `calls_trail` says that any number of calls is one, and
the rest is read off it by induction.
-/

set_option autoImplicit false

namespace ConditionalGet

/-- The client that notes down what passes through it. -/
def Client.logged {σ : Type} (client : Client (StateM σ)) :
    Client (StateT (List Exchange) (StateM σ)) := fun request => do
  let answer ← client request
  modify (· ++ [⟨request, answer⟩])
  return answer

namespace Paging

/-! ## Calls -/

/-- One call for the next page. -/
structure Call where
  place : Paging
  sent : List Exchange
  item : Option (Except ClientError Resource)
  after : Paging

namespace Call

/-- Where the request of a call went, if there was one. -/
def target? (call : Call) : Option Url := call.sent.head?.map (·.request.uri)

def isPage (call : Call) : Bool :=
  match call.item with
  | some (.ok _) => true
  | _ => false

/-- How many of a number of calls yielded a page. -/
def pages (calls : List Call) : Nat := calls.countP isPage

end Call

section
variable {σ : Type}

def call (client : Client (StateM σ)) (place : Paging) : StateM σ Call := do
  let ((item, after), sent) ← (place.step client.logged).run []
  return ⟨place, sent, item, after⟩

/-- Calls for the next page, `n` of them, one after another. -/
def calls (client : Client (StateM σ)) : (n : Nat) → Paging → StateM σ (List Call)
  | 0, _ => return []
  | n + 1, place => do
    let call ← place.call client
    return call :: (← calls client n call.after)

variable {client : Client (StateM σ)} {place : Paging} {s : σ}

theorem call_of_none (h : place.next? = none) :
    (place.call client).run s = (⟨place, [], none, place⟩, s) := by
  simp only [call, step, h]
  rfl

theorem call_of_some {uri : Url} (h : place.next? = some uri) :
    (place.call client).run s =
      (⟨place, [⟨request uri, ((client (request uri)).run s).1⟩],
        some (advance place.fetched uri ((client (request uri)).run s).1).1,
        (advance place.fetched uri ((client (request uri)).run s).1).2⟩,
        ((client (request uri)).run s).2) := by
  simp only [call, step, h]
  rfl

/-- Noting down what is sent does not change what is yielded. -/
theorem step_eq_call (client : Client (StateM σ)) (place : Paging) (s : σ) :
    (place.step client).run s =
      ((((place.call client).run s).1.item, ((place.call client).run s).1.after),
        ((place.call client).run s).2) := by
  cases h : place.next? with
  | none =>
    rw [call_of_none h]
    simp only [step, h]
    rfl
  | some uri =>
    rw [call_of_some h]
    simp only [step, h]
    rfl

end

/-! ## One call -/

/-- Where a page leads: nowhere without a link to a next one, and else where that link resolves to
from the place of the page. -/
inductive Leads (uri : Url) (page : Resource) : Option Url → Prop
  | last : page.nextLink? = none → Leads uri page none
  | next {link : String} {target : Url} : page.nextLink? = some link →
      uri.join link = .ok target → Leads uri page (some target)

/-- How the request for a page can fail to bring one, and the error for it. -/
inductive Fails (uri : Url) : Except ClientError Resource → ClientError → Prop
  | unanswered (e : ClientError) : Fails uri (.error e) e
  | unexpected {page : Resource} : page.status ≠ 200 →
      Fails uri (.ok page) (.unexpectedStatus uri page.status)
  | astray {page : Resource} {link : String} {flaw : UrlFlaw} : page.status = 200 →
      page.nextLink? = some link → uri.join link = .error flaw →
      Fails uri (.ok page) (.invalidLink uri link flaw)

/-- A request brings a page, or it fails; `advance` says which. -/
inductive Advanced (fetched : Nat) (uri : Url) :
    Except ClientError Resource → Except ClientError Resource × Paging → Prop
  | page {page : Resource} {next : Option Url} : page.status = 200 → Leads uri page next →
      Advanced fetched uri (.ok page) (.ok page, ⟨next, fetched + 1⟩)
  | fault {answer : Except ClientError Resource} {e : ClientError} : Fails uri answer e →
      Advanced fetched uri answer (.error e, ⟨none, fetched⟩)

theorem advanced_advance (fetched : Nat) (uri : Url) (answer : Except ClientError Resource) :
    Advanced fetched uri answer (advance fetched uri answer) := by
  cases answer with
  | error e => exact .fault (.unanswered e)
  | ok page =>
    by_cases hs : page.status = 200
    · rw [advance_ok fetched uri hs, following]
      cases hl : page.nextLink? with
      | none => exact .page hs (.last hl)
      | some link =>
        cases hj : uri.join link with
        | ok target => simpa [hj] using .page hs (.next hl hj)
        | error flaw => simpa [hj] using .fault (.astray hs hl hj)
    · simpa [advance, hs] using .fault (.unexpected hs)

/-- What `advance` says is all there is to say. -/
theorem Advanced.eq_advance {fetched : Nat} {uri : Url} {answer : Except ClientError Resource}
    {y : Except ClientError Resource × Paging} (h : Advanced fetched uri answer y) :
    y = advance fetched uri answer := by
  cases h with
  | page hs hn =>
    rw [advance_ok fetched uri hs, following]
    cases hn with
    | last hl => rw [hl]
    | next hl hj => simp only [hl, hj]
  | fault hf =>
    cases hf with
    | unanswered => rfl
    | unexpected hs => simp [advance, hs]
    | astray hs hl hj =>
      rw [advance_ok fetched uri hs, following]
      simp only [hl, hj]

/-- A request that fails brings no page. -/
theorem Fails.not_leads {uri : Url} {page : Resource} {e : ClientError} {next : Option Url}
    (h : Fails uri (.ok page) e) (hs : page.status = 200) : ¬Leads uri page next := by
  intro hn
  cases h with
  | unexpected hne => exact hne hs
  | astray _ hl hj =>
    cases hn with
    | last hl' =>
      rw [hl] at hl'
      cases hl'
    | next hl' hj' =>
      rw [hl] at hl'
      cases hl'
      rw [hj] at hj'
      cases hj'

theorem Fails.unique {uri : Url} {answer : Except ClientError Resource} {e e' : ClientError}
    (h : Fails uri answer e) (h' : Fails uri answer e') : e = e' := by
  cases h with
  | unanswered =>
    cases h'
    rfl
  | unexpected hs =>
    cases h' with
    | unexpected => rfl
    | astray hs' => exact absurd hs' hs
  | astray hs hl hj =>
    cases h' with
    | unexpected hs' => exact absurd hs hs'
    | astray _ hl' hj' =>
      rw [hl] at hl'
      cases hl'
      rw [hj] at hj'
      cases hj'
      rfl

namespace Advanced

variable {fetched : Nat} {uri : Url} {answer item : Except ClientError Resource} {after : Paging}

theorem item_ok_iff (h : Advanced fetched uri answer (item, after)) (page : Resource) :
    item = .ok page ↔ answer = .ok page ∧ page.status = 200 ∧ ∃ next, Leads uri page next := by
  cases h with
  | page hs hn =>
    constructor
    · intro h
      cases h
      exact ⟨rfl, hs, _, hn⟩
    · exact fun h => h.1
  | fault hf =>
    constructor
    · intro h
      cases h
    · rintro ⟨rfl, hs, next, hn⟩
      exact absurd hn (hf.not_leads hs)

theorem item_error_iff (h : Advanced fetched uri answer (item, after)) (e : ClientError) :
    item = .error e ↔ Fails uri answer e := by
  cases h with
  | page hs hn =>
    constructor
    · intro h
      cases h
    · exact fun hf => absurd hn (hf.not_leads hs)
  | fault hf =>
    constructor
    · intro h
      cases h
      exact hf
    · intro hf'
      rw [hf.unique hf']

end Advanced

/-- What a call has to do: nothing where the sequence has ended, and else one request for the page,
from whose answer comes what it yields. -/
structure Call.Lawful (call : Call) : Prop where
  isSome_eq : call.item.isSome = call.place.hasNext
  idle : call.item = none → call.sent = []
  asks : ∀ item, call.item = some item → ∃ sent answer, call.sent = [⟨sent, answer⟩] ∧
    sent.method = .get ∧ sent.body = none ∧ sent.credential = none ∧
    sent.headers.list.map (fun f => (f.1.text, f.2.bytes)) =
      [("cache-control", Text.bytes "no-cache")] ∧
    (∀ page, item = .ok page ↔
      answer = .ok page ∧ page.status = 200 ∧ ∃ next, Leads sent.uri page next) ∧
    ∀ e, item = .error e ↔ Fails sent.uri answer e

/-! ## Any number of calls -/

/-- Calls of which each starts where the one before it has left the sequence. -/
inductive Trail : Paging → List Call → Prop
  | nil (place : Paging) : Trail place []
  | ended {place : Paging} {calls : List Call} : place.next? = none → Trail place calls →
      Trail place (⟨place, [], none, place⟩ :: calls)
  | asked {place after : Paging} {uri : Url} {answer item : Except ClientError Resource}
      {calls : List Call} : place.next? = some uri →
      Advanced place.fetched uri answer (item, after) → Trail after calls →
      Trail place (⟨place, [⟨request uri, answer⟩], some item, after⟩ :: calls)

theorem calls_trail {σ : Type} (client : Client (StateM σ)) (n : Nat) (place : Paging) (s : σ) :
    ((calls client n place).run s).1.length = n ∧
      Trail place ((calls client n place).run s).1 := by
  induction n generalizing place s with
  | zero => exact ⟨rfl, .nil place⟩
  | succ n ih =>
    have hrun : ((calls client (n + 1) place).run s).1 =
        ((place.call client).run s).1 ::
          ((calls client n ((place.call client).run s).1.after).run
            ((place.call client).run s).2).1 := rfl
    rw [hrun]
    cases hp : place.next? with
    | none =>
      rw [call_of_none hp]
      obtain ⟨hlen, htrail⟩ := ih place s
      exact ⟨congrArg (· + 1) hlen, .ended hp htrail⟩
    | some uri =>
      rw [call_of_some hp]
      obtain ⟨hlen, htrail⟩ := ih _ _
      exact ⟨congrArg (· + 1) hlen, .asked hp (advanced_advance ..) htrail⟩

namespace Trail

variable {place : Paging} {calls : List Call}

theorem lawful (h : Trail place calls) : ∀ call ∈ calls, call.Lawful := by
  induction h with
  | nil => simp
  | ended hp _ ih =>
    refine List.forall_mem_cons.2 ⟨⟨?_, fun _ => rfl, fun _ h => nomatch h⟩, ih⟩
    rw [hasNext, hp]
    rfl
  | @asked place after uri answer item calls hp ha _ ih =>
    refine List.forall_mem_cons.2 ⟨⟨?_, fun h => (nomatch h), ?_⟩, ih⟩
    · rw [hasNext, hp]
      rfl
    · rintro item' ⟨⟩
      exact ⟨request uri, answer, rfl, rfl, rfl, rfl, rfl, ha.item_ok_iff, ha.item_error_iff⟩

/-- The part of a trail from one of its calls on is a trail too, and the pages up to there are
counted. -/
theorem split {before rest : List Call} {call : Call}
    (h : Trail place (before ++ call :: rest)) :
    Trail call.place (call :: rest) ∧ call.place.fetched = place.fetched + Call.pages before := by
  induction before generalizing place with
  | nil =>
    have hplace : call.place = place := by
      cases h <;> rfl
    rw [hplace]
    exact ⟨h, rfl⟩
  | cons first before ih =>
    rw [List.cons_append] at h
    cases h with
    | ended hp htrail =>
      obtain ⟨htrail, hcount⟩ := ih htrail
      exact ⟨htrail, hcount.trans (by simp [Call.pages, Call.isPage])⟩
    | asked hp ha htrail =>
      obtain ⟨htrail, hcount⟩ := ih htrail
      refine ⟨htrail, hcount.trans ?_⟩
      cases ha with
      | page =>
        simp only [Call.pages, Call.isPage, List.countP_cons, if_true]
        omega
      | fault => simp [Call.pages, Call.isPage]

theorem after_fetched {call : Call} {rest : List Call} (h : Trail place (call :: rest)) :
    call.after.fetched = call.place.fetched + Call.pages [call] := by
  cases h with
  | ended => rfl
  | asked _ ha =>
    cases ha with
    | page => rfl
    | fault => rfl

/-- Where a sequence has ended, it yields nothing any more. -/
theorem all_none (h : Trail place calls) (hp : place.next? = none) :
    ∀ call ∈ calls, call.item = none := by
  induction h with
  | nil => simp
  | ended _ _ ih => exact List.forall_mem_cons.2 ⟨rfl, ih hp⟩
  | asked hs =>
    rw [hp] at hs
    cases hs

theorem target?_eq {call : Call} {rest : List Call} (h : Trail place (call :: rest)) :
    call.target? = place.next? := by
  cases h with
  | ended hp => rw [hp]; rfl
  | asked hp => rw [hp]; rfl

/-- The call after one that yielded a page asks for what that page leads to. -/
theorem leads {call next : Call} {rest : List Call} {page : Resource}
    (h : Trail place (call :: next :: rest)) (hpage : call.item = some (.ok page)) :
    ∃ uri, call.target? = some uri ∧ Leads uri page next.target? := by
  cases h with
  | ended => cases hpage
  | @asked _ _ uri _ _ _ hp ha htrail =>
    cases hpage
    cases ha with
    | page hs hn =>
      refine ⟨uri, rfl, ?_⟩
      rw [htrail.target?_eq]
      exact hn

/-- After nothing, an error or a page that leads nowhere there is nothing more. -/
theorem ends {call : Call} {rest : List Call} (h : Trail place (call :: rest))
    (hends : ∀ page, call.item = some (.ok page) → page.nextLink? = none) :
    ∀ later ∈ rest, later.item = none := by
  cases h with
  | ended hp htrail => exact htrail.all_none hp
  | asked hp ha htrail =>
    refine htrail.all_none ?_
    cases ha with
    | fault => rfl
    | @page page next hs hn =>
      cases hn with
      | last => rfl
      | next hl =>
        rw [hends page rfl] at hl
        cases hl

end Trail

/-- **Paging is the lazy unfolding of next links.** Whatever a client is and does, wherever a
sequence of pages starts and however often it is asked for its next page: each call is lawful
(`Call.Lawful`), so it sends one request where `hasNext` has said that there is a page, and none
elsewhere. The first request goes to the start, and the one after a page goes where that page leads.
After an error and after a page without a link to a next one nothing more is yielded. All along,
`fetched` is the number of pages so far. -/
theorem calls_unfold_links {σ : Type} (client : Client (StateM σ)) (uri : Url) (n : Nat) (s : σ) :
    ((calls client n (start uri)).run s).1.length = n ∧
      (∀ call ∈ ((calls client n (start uri)).run s).1, call.Lawful) ∧
      ∀ before call rest, ((calls client n (start uri)).run s).1 = before ++ call :: rest →
        (before = [] → call.target? = some uri) ∧
        (∀ page next later, call.item = some (.ok page) → rest = next :: later →
          ∃ uri, call.target? = some uri ∧ Leads uri page next.target?) ∧
        ((∀ page, call.item = some (.ok page) → page.nextLink? = none) →
          ∀ later ∈ rest, later.item = none) ∧
        call.place.fetched = Call.pages before ∧
        call.after.fetched = Call.pages (before ++ [call]) := by
  obtain ⟨hlen, htrail⟩ := calls_trail client n (start uri) s
  refine ⟨hlen, htrail.lawful, fun before call rest heq => ?_⟩
  rw [heq] at htrail
  obtain ⟨hhere, hcount⟩ := htrail.split
  have hcount : call.place.fetched = Call.pages before := hcount.trans (Nat.zero_add _)
  refine ⟨?_, ?_, hhere.ends, hcount, ?_⟩
  · rintro rfl
    exact htrail.target?_eq
  · rintro page next later hpage rfl
    exact hhere.leads hpage
  · rw [hhere.after_fetched, hcount, Call.pages, Call.pages, Call.pages, List.countP_append]

end Paging

end ConditionalGet
