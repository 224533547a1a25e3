import ConditionalGet.Proofs.Command.Following
import ConditionalGet.Proofs.Command.Reading
import ConditionalGet.Proofs.Command.Visits

/-!
# What a limit on pages does

A run with a limit on pages does what the run without does, and stops (`page_limit_cuts`). Both are
set up in the same way (`runWith_eq`), before they are told how many pages there are to be, and then
visit a collection; so it comes down to visits with different limits (`Visited.take`). Whatever the
client of a run is, it asks for a page without printing anything (`silent_getter`), so that all that
is printed is pages (`printed_flatMap_shown`).
-/

set_option autoImplicit false

namespace ConditionalGet.Command

open Program Paging

/-! ## Nothing is printed on the way to a page -/

section
variable {level : Level}

/-- Nothing is printed by a run that prepares itself. -/
theorem silent_of_preparing {α : Type} {p : Action α} (h : p.AsksOnly Preparing) :
    p.AsksOnly Silent := by
  refine h.mono ?_
  rintro _ (_ | _) _ ⟨⟩

theorem silent_tell (n : Notice) : (tell level n).AsksOnly Silent :=
  silent_of_preparing (preparing_tell level n)

theorem silent_onFiles {α : Type} (p : FileProgram α) : (onFiles p).AsksOnly Silent :=
  silent_of_preparing (preparing_onFiles p)

theorem silent_direct (request : Request) : (direct request).AsksOnly Silent := by
  unfold direct Client.overHttp
  split
  · trivial
  · split
    · trivial
    · refine (asksOnly_ask_pure (by rintro _ ⟨⟩)).bind fun answer => ?_
      split <;> trivial

theorem silent_lift {α ρ : Type} {p : Action α} (h : p.AsksOnly Silent) (kept : ρ) :
    ((StateT.lift p : StateT ρ Action α).run kept).AsksOnly Silent :=
  h.bind fun _ => trivial

theorem silent_told (y : DiskStore × Except StoreError (Option Notice)) :
    (Backend.told level y).AsksOnly Silent := by
  obtain ⟨changed, e | _ | notice⟩ := y
  · trivial
  · trivial
  · exact (silent_tell notice).bind fun _ => trivial

theorem silent_lookup (b : Backend) (uri : String) (kept : b.Records) :
    (((b.store level).lookup uri).run kept).AsksOnly Silent := by
  cases b with
  | memory => trivial
  | disk =>
    have hrun := @Backend.disk_lookup_run level kept uri
    exact (congrArg (AsksOnly Silent) hrun).mpr ((silent_onFiles _).map _)

theorem silent_store (b : Backend) (uri etag body : String) (kept : b.Records) :
    (((b.store level).store uri etag body).run kept).AsksOnly Silent := by
  cases b with
  | memory => trivial
  | disk =>
    have hrun := @Backend.disk_store_run level kept uri etag body
    refine (congrArg (AsksOnly Silent) hrun).mpr ?_
    exact (asksOnly_ask_pure (by rintro _ ⟨⟩)).bind fun _ =>
      (silent_onFiles _).bind fun y => silent_told y

theorem silent_client (b : Backend) (request : Request) (kept : b.Records) :
    ((b.client level request).run kept).AsksOnly Silent := by
  rw [Backend.client_eq_run]
  refine asksOnly_runState (fun q kept => ?_) _ kept
  cases q with
  | lookup uri => exact silent_lookup b uri kept
  | send request => exact silent_lift (silent_direct request) kept
  | store uri etag body => exact silent_store b uri etag body kept
  | notify notice => exact silent_lift (silent_tell notice) kept

theorem silent_getter (credential : Option Credential) (storage : Storage) (request : Request)
    (kept : Records storage) :
    ((getter level credential storage request).run kept).AsksOnly Silent := by
  rw [getter_apply]
  cases storage with
  | none => exact silent_lift (silent_direct _) kept
  | memory => exact silent_client .memory _ kept
  | disk store => exact silent_client .disk _ kept

/-- A run writes down what it asks, and prints nothing on the way to a page. -/
theorem telling_through {σ : Type} (step : Answering interface σ) (credential : Option Credential)
    (storage : Storage) : Telling (through (logged step) level credential storage)
      (fun s => s.2.2) where
  get _ request _ _ h := (silent_getter credential storage request _).turns h
  print _ _ _ _ h := (runs_ask_pure_iff.1 (runs_lift_iff.1 h).1).2

end

/-! ## What the client makes of the answers -/

/-- Each page is what a client makes of what is asked and answered for it, with what it has kept
from the pages before. -/
inductive Obtained {ρ : Type} (client : Client (StateT ρ Action)) : ρ → List PageFetch → Prop
  | nil (kept : ρ) : Obtained client kept []
  | cons {f : PageFetch} {rest : List PageFetch} {kept kept' : ρ} :
      Runs (recording interface) ((client (request f.uri)).run kept) [] (f.answer, kept') f.turns →
      Obtained client kept' rest → Obtained client kept (f :: rest)

section
variable {σ : Type} {step : Answering interface σ} {level : Level} {credential : Option Credential}
  {storage : Storage} {p : Paging} {s s' : Records storage × (σ × List (Turn interface))}

theorem Fetches.recording {f : PageFetch}
    (h : Fetches (through (logged step) level credential storage) (fun s => s.2.2) p f s s') :
    Runs (Program.recording interface) ((getter level credential storage (request f.uri)).run s.1)
      [] (f.answer, s'.1) f.turns := by
  obtain ⟨turns, hturns, hrun⟩ := Runs.recording h.asked
  obtain rfl : f.turns = turns := List.append_cancel_left (h.turns.symm.trans hturns)
  exact hrun

theorem Visited.obtained {limit : Nat} {fetches : List PageFetch} {x : Except ClientError Unit}
    (h : Visited (through (logged step) level credential storage) (fun s => s.2.2) limit p s fetches
      x s') : Obtained (getter level credential storage) s.1 fetches := by
  induction h with
  | cut => exact .nil _
  | ended => exact .nil _
  | failed hfetch => exact .cons hfetch.recording (.nil _)
  | page hfetch _ _ _ hprint _ ih =>
    -- what is kept is not touched by printing
    rw [(runs_lift_iff.1 hprint).2] at ih
    exact .cons hfetch.recording ih

end

/-! ## What is printed -/

/-- What is printed, in the order in which it is. -/
def printed (turns : List (Turn interface)) : List String :=
  turns.filterMap fun
    | ⟨.print text, _⟩ => some text
    | _ => none

theorem printed_append (turns turns' : List (Turn interface)) :
    printed (turns ++ turns') = printed turns ++ printed turns' :=
  List.filterMap_append

theorem printed_of_silent {turns : List (Turn interface)} (h : ∀ t ∈ turns, Silent t.question) :
    printed turns = [] := by
  refine List.filterMap_eq_nil_iff.2 fun t ht => ?_
  have hsilent := h t ht
  obtain ⟨q, r⟩ := t
  cases q with
  | print text => exact absurd rfl (hsilent text)
  | _ => rfl

/-- Of what is fetched, the pages are printed and nothing else. -/
theorem printed_flatMap_shown {fetches : List PageFetch}
    (h : ∀ f ∈ fetches, ∀ t ∈ f.turns, Silent t.question) :
    printed (fetches.flatMap PageFetch.shown) = (pages fetches).map pageText := by
  induction fetches with
  | nil => rfl
  | cons f rest ih =>
    obtain ⟨hf, hrest⟩ := List.forall_mem_cons.1 h
    rw [List.flatMap_cons, printed_append, ih hrest, PageFetch.shown, printed_append,
      printed_of_silent hf]
    cases hp : f.page? with
    | none => rw [pages, pages, List.filterMap_cons_none hp]; rfl
    | some page => rw [pages_cons hp]; rfl

/-! ## Runs with a limit and without -/

section
variable {σ : Type} {answer : (q : interface.Question) → StateM σ (interface.Answer q)}
  {env : Environment} {account : Option String} {a : Arguments} {storage : Storage}

/-- A run that is to print pages and has been set up goes on with a visit. -/
theorem noting_run_iff {arguments : List String} (hargs : Arguments.parse env arguments = .ok a)
    (hpages : (!a.allPages && a.maxPages.isNone) = false) {w w₁ w' : σ × List (Turn interface)}
    (hready : ((setUp env account (a.credential? env) a.noCache).run (noting answer)).run w =
      (.ok storage, w₁)) {ending : Ending} :
    ((run env account arguments).run (noting answer)).run w = (ending, w') ↔
      ∃ x kept, Runs (through (logged (answering answer)) (logLevel env) (a.credential? env)
        storage) (visiting (a.maxPages.getD noLimit) (start a.url)) (records storage, w₁) x
          (kept, w') ∧
        ending = .ofFetched (x.mapError ClientError.failure) := by
  have hrun : run env account arguments =
      setUp env account (a.credential? env) a.noCache >>= onceSetUp env a := by
    rw [← runWith_eq]
    simp only [run, hargs]
  have hfetching : fetching a =
      (·.mapError ClientError.failure) <$> visiting (a.maxPages.getD noLimit) (start a.url) := by
    unfold fetching fetch
    rw [hpages]
    exact LawfulMonad.bind_pure_comp _ _
  rw [← runs_noting_iff, hrun, runs_bind_iff]
  constructor
  · rintro ⟨opened, w₂, hsetup, hrest⟩
    obtain ⟨rfl, rfl⟩ := Prod.mk.inj ((runs_noting_iff.1 hsetup).symm.trans hready)
    obtain ⟨y, hfetch, rfl⟩ := runs_map_iff.1 hrest
    obtain ⟨kept, hfetch⟩ := runs_fetchThrough_iff.1 hfetch
    rw [hfetching] at hfetch
    obtain ⟨x, hvisit, rfl⟩ := runs_map_iff.1 hfetch
    exact ⟨x, kept, hvisit, rfl⟩
  · rintro ⟨x, kept, hvisit, rfl⟩
    refine ⟨_, w₁, runs_noting_iff.2 hready, runs_map_iff.2 ⟨_, ?_, rfl⟩⟩
    refine runs_fetchThrough_iff.2 ⟨kept, ?_⟩
    rw [hfetching]
    exact runs_map_iff.2 ⟨x, hvisit, rfl⟩

theorem ofFetched_eq_success_iff {x : Except ClientError Unit} :
    Ending.ofFetched (x.mapError ClientError.failure) = .success ↔ x = .ok () := by
  cases x with
  | error e => exact ⟨fun h => (nomatch h), fun h => (nomatch h)⟩
  | ok u => exact ⟨fun _ => rfl, fun _ => rfl⟩

/-- **A limit on pages cuts a run and changes nothing else.** Where a run that is to print all pages
can be set up, all that is asked and answered after that is what is asked and answered for one page
after another, each where the page before leads, and each page is printed before the next one is
asked for. The run with a limit, with or without being told to print all pages, does the first part
of that: it fetches as many times as the limit says, or as often as the other run if that is less
often. It succeeds if that many pages are printed, and otherwise ends as the other run does. That
one succeeds exactly if it comes to a last page, unless it has printed `noLimit` pages, which stands
for a collection without end. -/
theorem page_limit_cuts {full limited : List String} {N : Nat} {follow : Bool}
    (hfull : Arguments.parse env full = .ok a) (hall : a.allPages = true)
    (hmax : a.maxPages = none)
    (hlimited : Arguments.parse env limited =
      .ok { a with allPages := follow, maxPages := some N })
    {s s₁ : σ} {before : List (Turn interface)}
    (hready : ((setUp env account (a.credential? env) a.noCache).run (noting answer)).run (s, []) =
      (.ok storage, (s₁, before))) :
    ∃ fetches ending s₂ s₂',
      ((run env account full).run (noting answer)).run (s, []) =
        (ending, (s₂, before ++ fetches.flatMap PageFetch.shown)) ∧
      ((run env account limited).run (noting answer)).run (s, []) =
        (if N ≤ (pages fetches).length then .success else ending,
          (s₂', before ++ (fetches.take N).flatMap PageFetch.shown)) ∧
      Linked a.url fetches ∧
      Obtained (getter (logLevel env) (a.credential? env) storage) (records storage) fetches ∧
      printed (before ++ fetches.flatMap PageFetch.shown) = (pages fetches).map pageText ∧
      printed (before ++ (fetches.take N).flatMap PageFetch.shown) =
        ((pages fetches).take N).map pageText ∧
      (ending = .success ↔
        (∃ f ∈ fetches, f.IsLast) ∨ (pages fetches).length = noLimit) := by
  have htell : Telling (through (logged (answering answer)) (logLevel env) (a.credential? env)
      storage) (fun s => s.2.2) := telling_through _ _ _
  -- the run without a limit, as a visit
  obtain ⟨⟨ending, s₂, turns⟩, hrun⟩ : ∃ out,
    ((run env account full).run (noting answer)).run (s, []) = out := ⟨_, rfl⟩
  obtain ⟨x, kept, hvisit, rfl⟩ := (noting_run_iff hfull (by simp [hall]) hready).1 hrun
  rw [hmax, Option.getD_none] at hvisit
  obtain ⟨fetches, hvisited⟩ := exists_visited htell hvisit
  have hbefore : ∀ t ∈ before, Silent t.question := by
    obtain ⟨turns, hturns, hsilent⟩ := (silent_of_preparing (preparing_setUp env account _ _)).turns
      (runs_noting_iff.2 hready)
    obtain rfl : before = turns := hturns
    exact hsilent
  -- its first part, as a run with the limit
  obtain ⟨⟨kept', s₂', turns'⟩, hcut⟩ := hvisited.take (Arguments.maxPages_le hlimited rfl)
  have hrun' := (noting_run_iff hlimited (Bool.and_false _) hready).2 ⟨_, kept', hcut.runs, rfl⟩
  have hturns : turns = before ++ fetches.flatMap PageFetch.shown := hvisited.log_eq htell
  have hturns' : turns' = before ++ (fetches.take N).flatMap PageFetch.shown := hcut.log_eq htell
  subst hturns hturns'
  refine ⟨fetches, _, s₂, s₂', hrun, hrun'.trans ?_, hvisited.linked rfl, hvisited.obtained, ?_, ?_,
    ?_⟩
  · split <;> rfl
  · rw [printed_append, printed_of_silent hbefore, printed_flatMap_shown hvisited.silent]
    rfl
  · rw [printed_append, printed_of_silent hbefore, printed_flatMap_shown hcut.silent,
      hvisited.pages_take]
    rfl
  · rw [ofFetched_eq_success_iff]
    exact hvisited.ok_iff rfl

end

/-! ### A collection of two pages -/

namespace FirstPage

open Elsewhere (env here page asked)

def limited : List String := ["--max-pages=1", "--no-cache", "http://[2001:db8::1]/"]

/-- What is asked and answered in a run, where there are no files and the servers send their
pages. -/
def outcome (arguments : List String) :
    Ending × ((Tree × List Sent) × List (Turn interface)) :=
  ((run env none arguments).run (noting (serving page))).run ((Tree.empty, []), [])

def ready : Except Failure Storage × ((Tree × List Sent) × List (Turn interface)) :=
  ((setUp env none (asked.credential? env) asked.noCache).run (noting (serving page))).run
    ((Tree.empty, []), [])

theorem parse_limited : Arguments.parse env limited =
    .ok { asked with allPages := false, maxPages := some 1 } :=
  DiskStore.eq_ok_of_toOption (by decide +kernel)

/-- A run is set up to keep nothing. -/
def keepsNothing : Except Failure Storage → Bool
  | .ok .none => true
  | _ => false

theorem eq_none_of_keepsNothing {opened : Except Failure Storage} (h : keepsNothing opened = true) :
    opened = .ok .none := by
  rcases opened with failure | _ | _ | store
  · cases h
  · rfl
  · cases h
  · cases h

theorem ready_none : ready = (.ok .none, (ready.2.1, ready.2.2)) :=
  Prod.ext (eq_none_of_keepsNothing (by decide +kernel)) rfl

theorem printed_outcome : printed (outcome Elsewhere.arguments).2.2 =
    ["HTTP 200\n[\n  1\n]\n", "HTTP 200\n[\n  2\n]\n"] := by
  decide +kernel

/-- Of two pages the first is printed, and the other one is not asked for. -/
theorem page_limit_cuts_first :
    ∃ fetches,
      printed (outcome Elsewhere.arguments).2.2 =
        ["HTTP 200\n[\n  1\n]\n", "HTTP 200\n[\n  2\n]\n"] ∧
      printed (outcome limited).2.2 = ["HTTP 200\n[\n  1\n]\n"] ∧
      (outcome limited).1 = .success ∧
      (outcome Elsewhere.arguments).2.2 = ready.2.2 ++ fetches.flatMap PageFetch.shown ∧
      (outcome limited).2.2 = ready.2.2 ++ (fetches.take 1).flatMap PageFetch.shown ∧
      Linked here fetches := by
  obtain ⟨fetches, ending, s₂, s₂', hfull, hlimited, hlinked, -, hprinted, hprinted', -⟩ :=
    page_limit_cuts (a := asked) Elsewhere.parse_arguments rfl rfl parse_limited ready_none
  have hfull : outcome Elsewhere.arguments = _ := hfull
  have hlimited : outcome limited = _ := hlimited
  have htwo := printed_outcome
  rw [hfull, hprinted] at htwo
  have hlength : (pages fetches).length = 2 := by
    have h := congrArg List.length htwo
    rwa [List.length_map] at h
  refine ⟨fetches, printed_outcome, ?_, ?_, ?_, ?_, hlinked⟩
  · rw [hlimited, hprinted', List.map_take, htwo]
    rfl
  · rw [hlimited, hlength]
    rfl
  · rw [hfull]
  · rw [hlimited]

end FirstPage

end ConditionalGet.Command
