import ConditionalGet.Proofs.Client.Transparency
import ConditionalGet.Proofs.Store.Cleaning
import ConditionalGet.Proofs.Store.Failure
import ConditionalGet.Proofs.Store.Naming

/-!
# Failures are fatal

Whatever fails in the course of a GET ends it, and is what comes out of it: no lookup that failed
passes for nothing on record, no request that failed is tried again, and no fresh answer that could
not be stored is handed on (`Revalidation.Fatal`). `DiskStore.behindGet` is a store on disk behind a
GET, whose file operations may fail at any time; a GET that fails leaves every lookup in it as it
was, if its entries are ones that it made (`DiskStore.Made`).
-/

set_option autoImplicit false

namespace ConditionalGet

open Program

namespace Revalidation

/-! ## Turns of a GET -/

/-- What a turn failed with, if it did. -/
def failure? : Turn interface → Option ClientError
  | ⟨.lookup _, .error e⟩ => some (.store e)
  | ⟨.send _, .error e⟩ => some e
  | ⟨.store .., .error e⟩ => some (.store e)
  | _ => none

/-- What was looked up. -/
def lookedUp? : Turn interface → Option String
  | ⟨.lookup uri, _⟩ => some uri
  | _ => none

/-- The fresh response that a turn brought. -/
def brought? : Turn interface → Option CachedResponse
  | ⟨.send _, .ok response⟩ => (fresh? response).map fun etag => ⟨etag, response.body⟩
  | _ => none

/-- What was given to the store, and for which URI. -/
def given? : Turn interface → Option (String × CachedResponse)
  | ⟨.store uri etag body, _⟩ => some (uri, ⟨etag, body⟩)
  | _ => none

/-- How a GET for a URI goes on, once it has looked up what is on record. -/
structure Strict (uri : String) (turns : List (Turn interface)) (x : Except ClientError Resource) :
    Prop where
  nonempty : turns ≠ []
  /-- It looks nothing up again. -/
  unlooked : turns.filterMap lookedUp? = []
  /-- Nothing is asked after a failure, and nothing after a call to store. -/
  last : ∀ turn ∈ turns.dropLast, failure? turn = none ∧ given? turn = none
  /-- The failure of the last turn is what comes out, and no other error does. -/
  outcome : ∀ e, x = .error e ↔ turns.getLast?.bind failure? = some e
  /-- Every fresh response is stored, and nothing else is. -/
  stored : turns.filterMap given? = (turns.filterMap brought?).map (uri, ·)

/-- How a GET for a URI goes: a lookup that fails is all of it. -/
inductive Fatal (uri : String) : List (Turn interface) → Except ClientError Resource → Prop
  | unknown (e : StoreError) : Fatal uri [⟨.lookup uri, .error e⟩] (.error (.store e))
  | known (found : Lookup) {rest : List (Turn interface)} {x : Except ClientError Resource} :
      Strict uri rest x → Fatal uri (⟨.lookup uri, .ok found⟩ :: rest) x

section
variable {uri etag : String} {request : Request} {response : Resource}
  {turns : List (Turn interface)} {x : Except ClientError Resource}

/-- Where a resource comes out, nothing has failed. -/
theorem Fatal.unfailed {resource : Resource} (h : Fatal uri turns (.ok resource)) :
    ∀ turn ∈ turns, failure? turn = none := by
  cases h with
  | @known found rest _ hstrict =>
    intro turn hturn
    rcases List.mem_cons.1 hturn with rfl | hturn
    · rfl
    rw [← List.dropLast_concat_getLast hstrict.nonempty, List.mem_append,
      List.mem_singleton] at hturn
    rcases hturn with hturn | rfl
    · exact (hstrict.last turn hturn).1
    · cases hf : failure? (rest.getLast hstrict.nonempty) with
      | none => rfl
      | some e =>
        have hlast : rest.getLast?.bind failure? = some e := by
          rw [List.getLast?_eq_some_getLast hstrict.nonempty]
          exact hf
        cases (hstrict.outcome e).2 hlast

theorem strict_failed (uri : String) (request : Request) (e : ClientError) :
    Strict uri [⟨.send request, .error e⟩] (.error e) where
  nonempty := by simp
  unlooked := rfl
  last := by simp
  outcome := by simp [failure?]
  stored := rfl

theorem strict_answered (h : fresh? response = none) (uri : String) (request : Request)
    (resource : Resource) : Strict uri [⟨.send request, .ok response⟩] (.ok resource) where
  nonempty := by simp
  unlooked := rfl
  last := by simp
  outcome := by simp [failure?]
  stored := by simp [given?, brought?, h]

theorem strict_stored (h : fresh? response = some etag) (uri : String) (request : Request)
    {r : Except StoreError Unit}
    (hx : ∀ e, x = .error e ↔ failure? ⟨.store uri etag response.body, r⟩ = some e) :
    Strict uri [⟨.send request, .ok response⟩, ⟨.store uri etag response.body, r⟩] x where
  nonempty := by simp
  unlooked := rfl
  last := by simp [failure?, given?]
  outcome := by simp [hx]
  stored := by
    have hbrought : brought? ⟨.send request, .ok response⟩ = some ⟨etag, response.body⟩ := by
      simp [brought?, h]
    rw [List.filterMap_cons_some hbrought]
    rfl

theorem brought?_notModified (h : response.status = statusNotModified) (request : Request) :
    brought? ⟨.send request, .ok response⟩ = none :=
  Option.map_eq_none_iff.2 (fresh?_of_notModified h)

/-- A turn that neither fails nor brings anything may stand before. -/
theorem Strict.cons (h : Strict uri turns x) {turn : Turn interface}
    (hlooked : lookedUp? turn = none) (hfailure : failure? turn = none)
    (hbrought : brought? turn = none) (hgiven : given? turn = none) :
    Strict uri (turn :: turns) x where
  nonempty := by simp
  unlooked := by simp [hlooked, h.unlooked]
  last := by
    rw [List.dropLast_cons_of_ne_nil h.nonempty, List.forall_mem_cons]
    exact ⟨⟨hfailure, hgiven⟩, h.last⟩
  outcome := by
    obtain ⟨first, rest, rfl⟩ := List.exists_cons_of_ne_nil h.nonempty
    rw [List.getLast?_cons_cons]
    exact h.outcome
  stored := by simp [hgiven, hbrought, h.stored]

/-! ## The course of a GET, written down -/

variable {σ : Type} {step : Answering interface σ} {s s' : σ × List (Turn interface)}

/-- What is left once a request is answered. -/
theorem strict_of_recorded (h : Recorded (logged step) uri response s x s') (request : Request) :
    ∃ new, s'.2 = s.2 ++ new ∧ Strict uri (⟨.send request, .ok response⟩ :: new) x := by
  cases h with
  | nothing hf => exact ⟨[], (List.append_nil _).symm, strict_answered hf uri request response⟩
  | stored hf hs => exact ⟨_, hs.2, strict_stored hf uri request (by simp [failure?])⟩
  | refused hf hs => exact ⟨_, hs.2, strict_stored hf uri request (by simp [failure?])⟩

theorem strict_of_exchanged (h : Exchanged (logged step) request s x s') :
    ∃ new, s'.2 = s.2 ++ new ∧ Strict request.uri.text new x := by
  cases h with
  | failed hs => exact ⟨_, hs.2, strict_failed _ request _⟩
  | answered hs hr =>
    obtain ⟨new, hnew, hstrict⟩ := strict_of_recorded hr request
    exact ⟨_, by rw [hnew, hs.2, List.append_assoc]; rfl, hstrict⟩

theorem fatal_of_got {state : σ} (h : Got (logged step) request (state, []) x s') :
    Fatal request.uri.text s'.2 x := by
  cases h with
  | unknown hl =>
    rw [hl.2]
    exact .unknown _
  | missed hl _ hx =>
    obtain ⟨new, hnew, hstrict⟩ := strict_of_exchanged hx
    rw [hnew, hl.2]
    exact .known _ hstrict
  | unsendable hl _ _ hn hx =>
    obtain ⟨new, hnew, hstrict⟩ := strict_of_exchanged hx
    rw [hnew, hn.2, hl.2]
    exact .known _ (hstrict.cons rfl rfl rfl rfl)
  | unanswered hl _ _ hs =>
    rw [hs.2, hl.2]
    exact .known _ (strict_failed _ _ _)
  | changed hl _ _ hs _ hr =>
    obtain ⟨new, hnew, hstrict⟩ := strict_of_recorded hr _
    rw [hnew, hs.2, hl.2]
    exact .known _ hstrict
  | unchanged hl _ _ hs hst _ =>
    rw [hs.2, hl.2]
    exact .known _ (strict_answered (fresh?_of_notModified hst) _ _ _)
  | bodiless hl _ _ hs hst _ hn hx =>
    obtain ⟨new, hnew, hstrict⟩ := strict_of_exchanged hx
    rw [hnew, hn.2, hs.2, hl.2]
    exact .known _ ((hstrict.cons rfl rfl rfl rfl).cons rfl rfl (brought?_notModified hst _) rfl)

end

end Revalidation

/-! ## A store on disk behind a GET -/

namespace DiskStore

open Revalidation

/-- The store made all that it has on record itself, each entry as its response of this number, and
either it has done so since it was opened, or the clock showed another time. -/
def Made (disk : DiskStore) (number : String → UInt64) (now : Instant) : Prop :=
  ∀ uri entry, disk.index.find? uri = some entry →
    entry.bodyFile = bodyName uri entry.etag entry.storedAt (number uri) ∧
      (number uri < disk.sequence ∨ entry.storedAt ≠ now)

section
variable {disk disk' : DiskStore} {number : String → UInt64} {now : Instant}
  {uri etag body : String} {t t' : Tree}

theorem sequence_counted (hfew : disk.sequence.toNat + 1 < 2 ^ 64) :
    disk.counted.sequence.toNat = disk.sequence.toNat + 1 := by
  rw [DiskStore.counted, UInt64.toNat_add]
  exact Nat.mod_eq_of_lt hfew

/-- The body file of the next response is none of those on record, or the digest has a collision. -/
theorem Made.ne_bodyName (h : Made disk number now) {v : String} {entry : IndexEntry}
    (hf : disk.index.find? v = some entry)
    (hdigest : Sha256.digest (nameSeed v entry.etag entry.storedAt (number v)) =
        Sha256.digest (nameSeed uri etag now disk.sequence) →
      nameSeed v entry.etag entry.storedAt (number v) = nameSeed uri etag now disk.sequence) :
    entry.bodyFile ≠ bodyName uri etag now disk.sequence := by
  intro he
  obtain ⟨hname, hnew⟩ := h v entry hf
  rw [hname] at he
  obtain ⟨htime, hnumber⟩ := stamp_of_nameSeed_eq (hdigest (bodyName_eq_iff.1 he))
  rcases hnew with hlt | hne
  · rw [hnumber] at hlt
    exact UInt64.lt_irrefl _ hlt
  · exact hne htime

/-- A store with nothing on record has made all of it. -/
theorem made_empty (dir : String) (number : String → UInt64) (now : Instant) :
    Made ⟨dir, Table.empty, 0⟩ number now := fun _ _ hf => (nomatch hf)

theorem Made.counted (h : Made disk number now) (hfew : disk.sequence.toNat + 1 < 2 ^ 64) :
    disk.counted.Made number now := by
  intro v entry hf
  obtain ⟨hname, hnew⟩ := h v entry hf
  refine ⟨hname, hnew.imp_left fun hlt => ?_⟩
  have hnext := sequence_counted hfew
  rw [UInt64.lt_iff_toNat_lt] at hlt ⊢
  omega

theorem Made.recorded (h : Made disk number now) (hfew : disk.sequence.toNat + 1 < 2 ^ 64)
    (moment : Instant) (uri etag : String) :
    (disk.recorded moment uri etag).Made (Function.update number uri disk.sequence) now := by
  intro v entry hf
  rw [find?_recorded] at hf
  split at hf
  · rename_i hv
    cases hf
    rw [hv, Function.update_self]
    refine ⟨rfl, .inl ?_⟩
    have hnext := sequence_counted hfew
    rw [UInt64.lt_iff_toNat_lt]
    show _ < disk.counted.sequence.toNat
    omega
  · rename_i hv
    rw [Function.update_of_ne hv]
    exact h.counted hfew v entry hf

/-- Whatever comes of a call to store, the store has made all that it has on record. -/
theorem Made.stored (h : Made disk number now) (hfew : disk.sequence.toNat + 1 < 2 ^ 64)
    {σ : Type} {step : Answering Files.interface σ} {s s' : σ} {moment : Instant}
    {result : Except StoreError (Option Notice)}
    (hs : Stored step disk moment uri etag body s (disk', result) s') :
    ∃ number', disk'.Made number' now := by
  rcases hs.store_eq with rfl | rfl
  · exact ⟨number, h.counted hfew⟩
  · exact ⟨_, h.recorded hfew moment uri etag⟩

/-- A call to store that fails leaves every lookup as it was. -/
theorem lookup_of_failed {e : StoreError}
    (hnames : ∀ v entry, disk.index.find? v = some entry →
      BodyName entry.bodyFile ∧ entry.bodyFile ≠ bodyName uri etag now disk.sequence)
    (h : Runs Tree.faulty (disk.store now uri etag body) t (disk', .error e) t') (v : String) :
    (t'.run (disk'.lookup v).run).1 = (t.run (disk.lookup v).run).1 := by
  have hname := bodyName_bodyName uri etag now disk.sequence
  obtain ⟨⟨e', he⟩, hw⟩ | ⟨⟨notice, he⟩, -⟩ := stored_cases rfl (runs_store_iff.1 h)
  rotate_left
  · cases he
  obtain ⟨rfl, -⟩ := Prod.mk.inj he
  rcases hw.leads with rfl | hl
  · rfl
  · show (t'.run (disk.lookup v).run).1 = _
    rw [lookup_congr fun entry hf =>
      hw.read_body rfl hl hname (hnames v entry hf).1 (hnames v entry hf).2]

end

/-- The environment of a GET with this store, and the tree of its files, which may fail at any time.
The clock shows `now`, and requests may be answered in any way. -/
def behindGet (now : Instant) : Answering Revalidation.interface (DiskStore × Tree)
  | s, .lookup uri, r, s' => Runs Tree.faulty (s.1.lookup uri).run s.2 r s'.2 ∧ s'.1 = s.1
  | s, .send _, _, s' => s' = s
  | s, .store uri etag body, r, s' => ∃ result,
    Runs Tree.faulty (s.1.store now uri etag body) s.2 (s'.1, result) s'.2 ∧
      r = result.map fun _ => ()
  | s, .notify _, _, s' => s' = s

/-- Lookups find the same in both. -/
def SameLookups (s s' : DiskStore × Tree) : Prop :=
  ∀ uri, (s'.2.run (s'.1.lookup uri).run).1 = (s.2.run (s.1.lookup uri).run).1

/-- What is given to the store gets the digest of what is on record only if both digests are of the
same. -/
def Collisionless (disk : DiskStore) (number : String → UInt64) (now : Instant)
    (turns : List (Turn interface)) : Prop :=
  ∀ uri response, (uri, response) ∈ turns.filterMap given? →
    ∀ v entry, disk.index.find? v = some entry →
      Sha256.digest (nameSeed v entry.etag entry.storedAt (number v)) =
          Sha256.digest (nameSeed uri response.etag now disk.sequence) →
        nameSeed v entry.etag entry.storedAt (number v) =
          nameSeed uri response.etag now disk.sequence

section
variable {disk : DiskStore} {t : Tree} {number : String → UInt64} {now : Instant}
  {request : Request} {response : Resource} {e : ClientError}
  {s s' : (DiskStore × Tree) × List (Turn interface)}

theorem behindGet_lookup {s s' : DiskStore × Tree} {uri : String} {r : Except StoreError Lookup}
    (h : behindGet now s (.lookup uri) r s') : s' = s :=
  Prod.ext h.2 (lookedUp_faulty (runs_lookup_iff.1 h.1)).1

theorem sameLookups_of_recorded {uri : String} (hs : s.1 = (disk, t)) (hmade : disk.Made number now)
    (h : Recorded (logged (behindGet now)) uri response s (.error e) s')
    (hdigest : disk.Collisionless number now s'.2) : SameLookups (disk, t) s'.1 := by
  obtain ⟨_, turns⟩ := s
  cases hs
  cases h with
  | @refused etag _ _ _ hf hask =>
    obtain ⟨⟨result, hstore, hr⟩, hturns⟩ := hask
    have hgiven : (uri, ⟨etag, response.body⟩) ∈ s'.2.filterMap given? := by
      rw [hturns]
      simp [given?]
    cases result with
    | ok notice => cases hr
    | error e' =>
      refine lookup_of_failed (fun v entry hfound => ⟨?_, ?_⟩) hstore
      · rw [(hmade v entry hfound).1]
        exact bodyName_bodyName _ _ _ _
      · exact hmade.ne_bodyName hfound (hdigest _ _ hgiven v entry hfound)

theorem sameLookups_of_eq (hs : s.1 = (disk, t)) : SameLookups (disk, t) s.1 := by
  rw [hs]
  exact fun _ => rfl

theorem sameLookups_of_exchanged (hs : s.1 = (disk, t)) (hmade : disk.Made number now)
    (h : Exchanged (logged (behindGet now)) request s (.error e) s')
    (hdigest : disk.Collisionless number now s'.2) : SameLookups (disk, t) s'.1 := by
  cases h with
  | failed hask => exact sameLookups_of_eq (hask.1.trans hs)
  | answered hask hr => exact sameLookups_of_recorded (hask.1.trans hs) hmade hr hdigest

/-- Before its call to store, a GET leaves the store and its files alone. -/
theorem sameLookups_of_got (hs : s.1 = (disk, t)) (hmade : disk.Made number now)
    (h : Got (logged (behindGet now)) request s (.error e) s')
    (hdigest : disk.Collisionless number now s'.2) : SameLookups (disk, t) s'.1 := by
  have hlooked : ∀ {uri : String} {r : Except StoreError Lookup}
      {s₁ : (DiskStore × Tree) × List (Turn interface)},
      logged (behindGet now) s (.lookup uri) r s₁ → s₁.1 = (disk, t) :=
    fun hl => (behindGet_lookup hl.1).trans hs
  cases h with
  | unknown hl => exact sameLookups_of_eq (hlooked hl)
  | missed hl _ hx => exact sameLookups_of_exchanged (hlooked hl) hmade hx hdigest
  | unsendable hl _ _ hn hx =>
    exact sameLookups_of_exchanged (hn.1.trans (hlooked hl)) hmade hx hdigest
  | unanswered hl _ _ hask => exact sameLookups_of_eq (hask.1.trans (hlooked hl))
  | changed hl _ _ hask _ hr =>
    exact sameLookups_of_recorded (hask.1.trans (hlooked hl)) hmade hr hdigest
  | bodiless hl _ _ hask _ _ hn hx =>
    exact sameLookups_of_exchanged (hn.1.trans (hask.1.trans (hlooked hl))) hmade hx hdigest

end

end DiskStore

/-- **Failures are fatal.** For any store and any inner client, each of whose answers may be a
failure, and any GET through the cached client or one made from it by authenticating: a lookup that
fails is all that is asked, and its failure comes out; otherwise nothing is asked after a request or
a call to store that failed, whose failure comes out, and every fresh response is stored. With a
store on disk that made its entries itself, and file operations that may fail at any time, a GET
that fails leaves every lookup as it was. -/
theorem failures_are_fatal {c : Client (Program Revalidation.interface)} (hc : Client.Derived c)
    {request : Request} (hget : request.method = .get) :
    (∀ {σ : Type} {step : Answering Revalidation.interface σ} {s s' : σ}
        {x : Except ClientError Resource} {turns : List (Turn Revalidation.interface)},
      Runs (logged step) (c request) (s, []) x (s', turns) →
        Revalidation.Fatal request.uri.text turns x) ∧
    ∀ {disk disk' : DiskStore} {t t' : Tree} {number : String → UInt64} {now : Instant}
        {e : ClientError} {turns : List (Turn Revalidation.interface)},
      disk.Made number now → disk.Collisionless number now turns →
      Runs (logged (DiskStore.behindGet now)) (c request) ((disk, t), []) (.error e)
        ((disk', t'), turns) →
      DiskStore.SameLookups (disk, t) (disk', t') := by
  obtain ⟨credential, he⟩ := hc request
  have hget' : (request.withCredential credential).method = .get := hget
  rw [he, Client.decorated_get hget']
  constructor
  · intro σ step s s' x turns hrun
    exact Revalidation.fatal_of_got (Revalidation.runs_get_iff.1 hrun)
  · intro disk disk' t t' number now e turns hmade hdigest hrun
    exact DiskStore.sameLookups_of_got rfl hmade (Revalidation.runs_get_iff.1 hrun) hdigest

/-! ### An index that cannot be written -/

namespace Refused

open Revalidation DiskStore Visits
open DiskStore.Overwritten (clock)

/-- A call to store that fails is one whose operations may fail at any time. -/
theorem exists_runs_of_failed {disk : DiskStore} {t : Tree} {now : Instant}
    {uri etag body : String} (h : (t.run (disk.store now uri etag body)).1.2.isOk = false) :
    ∃ disk' e t', Runs Tree.faulty (disk.store now uri etag body) t (disk', .error e) t' := by
  have hruns := Tree.runs_faulty_run (disk.store now uri etag body) t
  generalize t.run (disk.store now uri etag body) = z at h hruns
  obtain ⟨⟨disk', e | notice⟩, t'⟩ := z
  · exact ⟨disk', e, t', hruns⟩
  · cases h

/-- A conditional request brings a fresh response that cannot be stored. -/
theorem runs_refused {disk disk' : DiskStore} {t t' : Tree} {now : Instant} {request : Request}
    {found : Lookup} {etag fresh : String} {validator : FieldValue} {response : Resource}
    {e : StoreError} (hlookup : t.run (disk.lookup request.uri.text).run = (.ok found, t))
    (he : found.etag? = some etag) (hv : FieldValue.ofString? etag = some validator)
    (hf : fresh? response = some fresh)
    (hstore : Runs Tree.faulty (disk.store now request.uri.text fresh response.body) t
      (disk', .error e) t') :
    Runs (logged (behindGet now)) (Revalidation.get request).run ((disk, t), [])
      (.error (.store e)) ((disk', t'), [⟨.lookup request.uri.text, .ok found⟩,
        ⟨.send (conditional request validator), .ok response⟩,
        ⟨.store request.uri.text fresh response.body, .error e⟩]) := by
  have hl := Tree.runs_faulty_run (disk.lookup request.uri.text).run t
  rw [hlookup] at hl
  have hne : response.status ≠ statusNotModified := by
    rw [(fresh?_eq_some_iff.1 hf).1]
    decide
  have hlooked : logged (behindGet now) ((disk, t), []) (.lookup request.uri.text) (.ok found)
      ((disk, t), [⟨.lookup request.uri.text, .ok found⟩]) := ⟨⟨hl, rfl⟩, rfl⟩
  have hsent : logged (behindGet now) ((disk, t), [⟨.lookup request.uri.text, .ok found⟩])
      (.send (conditional request validator)) (.ok response)
      ((disk, t), [⟨.lookup request.uri.text, .ok found⟩,
        ⟨.send (conditional request validator), .ok response⟩]) := ⟨rfl, rfl⟩
  exact runs_get_iff.2 (.changed hlooked he hv hsent hne
    (.refused hf ⟨⟨.error e, hstore, rfl⟩, rfl⟩))

/-- A store with one response on record. -/
def disk : DiskStore :=
  DiskStore.recorded ⟨"/cache", Table.empty, 0⟩ (clock 0) request.uri.text "\"v1\""

/-- The name of its body file. -/
def name : String := bodyName request.uri.text "\"v1\"" (clock 0) 0

/-- The directory of the store, with a directory where the index is written first. -/
def tree : Tree where
  nodes := Table.ofList [(["cache"], .directory), (["cache", "bodies"], .directory),
    (["cache", "index.tmp"], .directory),
    (["cache", "index.json"], .file (Text.encode disk.index.text)),
    (["cache", "bodies", name], .file (Text.encode "[1]"))]
  working := []

/-- The page with another validator. -/
def changed : Resource := ⟨statusOk, "[2]", Table.empty.insert "ETag" ["\"v2\""]⟩

theorem fresh?_changed : fresh? changed = some "\"v2\"" := by decide +kernel

theorem find?_disk : disk.index.find? request.uri.text = some ⟨"\"v1\"", name, clock 0⟩ :=
  find?_recorded_self ⟨"/cache", Table.empty, 0⟩ (clock 0) request.uri.text "\"v1\""

/-- The numbers of the responses on record. -/
def number : String → UInt64 := Function.update (fun _ => 0) request.uri.text 0

theorem made_disk (now : Instant) : disk.Made number now :=
  (made_empty "/cache" (fun _ => 0) now).recorded (by decide) (clock 0) request.uri.text "\"v1\""

theorem lookup_disk :
    tree.run (disk.lookup request.uri.text).run = (.ok (.hit ⟨"\"v1\"", "[1]"⟩), tree) := by
  have hlocate : tree.locate (disk.bodyPath name) = .ok (["cache", "bodies", name], false) :=
    eq_ok_of_toOption (by decide +kernel)
  have hfile : tree.file? ["cache", "bodies", name] = some (Text.encode "[1]") := by
    decide +kernel
  exact run_lookup_of_lookedUp (.hit find?_disk (exact_of_read (Tree.read_eq_ok hlocate hfile)))

theorem store_failed :
    (tree.run (disk.store (clock 1) request.uri.text "\"v2\"" "[2]")).1.2.isOk = false := by
  decide +kernel

theorem digest_ne : Sha256.digest (nameSeed request.uri.text "\"v1\"" (clock 0) 0) ≠
    Sha256.digest (nameSeed request.uri.text "\"v2\"" (clock 1) 1) := by decide +kernel

theorem collisionless {e : StoreError} {found : Lookup} {sent : Request} :
    disk.Collisionless number (clock 1) [⟨.lookup request.uri.text, .ok found⟩,
      ⟨.send sent, .ok changed⟩,
      ⟨.store request.uri.text "\"v2\"" changed.body, .error e⟩] := by
  intro uri response hgiven v entry hf hdigest
  obtain ⟨rfl, rfl⟩ : uri = request.uri.text ∧ response = ⟨"\"v2\"", "[2]"⟩ :=
    Prod.mk.inj (List.mem_singleton.1 hgiven)
  rw [disk, find?_recorded] at hf
  split at hf
  · rename_i hv
    cases hf
    rw [hv, number, Function.update_self] at hdigest
    exact absurd hdigest digest_ne
  · cases hf

/-- The page has changed, and the GET fails because the new response cannot be stored; the one on
record is found as before. -/
theorem failures_are_fatal_refused :
    Client.Derived Client.decorated ∧ request.method = .get ∧
      disk.Made number (clock 1) ∧ ∃ e disk' t' turns,
        disk.Collisionless number (clock 1) turns ∧
        Runs (logged (behindGet (clock 1))) (Client.decorated request) ((disk, tree), [])
          (.error (.store e)) ((disk', t'), turns) ∧
        Fatal request.uri.text turns (.error (.store e)) ∧
        SameLookups (disk, tree) (disk', t') := by
  obtain ⟨disk', e, t', hstore⟩ := exists_runs_of_failed store_failed
  have hrun := runs_refused lookup_disk rfl ofString?_validator fresh?_changed hstore
  rw [← Client.decorated_get rfl] at hrun
  have hget : request.method = .get := rfl
  obtain ⟨hfatal, hsame⟩ := failures_are_fatal Client.derived_decorated hget
  exact ⟨Client.derived_decorated, rfl, made_disk _, e, disk', t', _, collisionless, hrun,
    hfatal hrun, hsame (made_disk _) collisionless hrun⟩

end Refused

end ConditionalGet
