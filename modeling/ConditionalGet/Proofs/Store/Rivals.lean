import ConditionalGet.Proofs.Store.Failure
import ConditionalGet.Proofs.Store.Inventory
import Mathlib.Logic.Relation

/-!
# Several stores on one directory

Each store works with the index that it has read when it was opened, and writes the whole of it out
with every response it is given; nothing is agreed on between stores. So of several that are given
responses in turn, the one that is given the last decides what is found in the directory afterwards
(`Rivals.last_store_wins`): what it was given itself, and of what was there when it was opened all
but the bodies that others have replaced. What only the others were given is lost
(`Rivals.Unaware.first_entry_lost`).
-/

set_option autoImplicit false

namespace ConditionalGet

open DiskStore ConditionalGet.Path

variable {ι : Type} [DecidableEq ι] {root : List String}

/-! ## The system -/

/-- A tree of files with stores on one directory of it, and the calls made so far. -/
structure Rivals (ι : Type) where
  tree : Tree
  store : ι → DiskStore
  calls : List (ι × StoreCall)

/-- The last call for a URI through one of the stores. -/
def latestBy? (calls : List (ι × StoreCall)) (i : ι) (uri : String) : Option StoreCall :=
  (calls.reverse.find? fun c => c.1 = i ∧ c.2.uri = uri).map Prod.snd

/-- A call that gives a store a response, and succeeds. -/
def DiskStore.call (disk : DiskStore) (now : Instant) (uri etag body : String) : StoreCall :=
  ⟨uri, etag, body, now, disk.sequence, true⟩

theorem DiskStore.bodyFile_call (disk : DiskStore) (now : Instant) (uri etag body : String) :
    (disk.call now uri etag body).bodyFile = bodyName uri etag now disk.sequence := rfl

namespace Rivals

/-- One of the stores is given a response, from beginning to end and without a failure. -/
inductive Step (r : Rivals ι) : Rivals ι → Prop
  | stored {i : ι} {now : Instant} {uri etag body : String} {handle' : DiskStore}
      {notice : Option Notice} {t' : Tree} :
      Program.Runs Tree.exact ((r.store i).store now uri etag body) r.tree
        (handle', .ok notice) t' →
      Step r ⟨t', Function.update r.store i handle',
        r.calls ++ [(i, (r.store i).call now uri etag body)]⟩

/-- The stores are open on the directory at `root`, no call has been made, and what they have on
record are entries that stores make, no two URIs with one body file. -/
structure Ready (root : List String) (r : Rivals ι) : Prop where
  place : ∀ i, Path.place r.tree.working (r.store i).dir = root
  none_yet : r.calls = []
  names : ∀ i uri entry, (r.store i).index.find? uri = some entry → BodyName entry.bodyFile
  apart : ∀ i j uri uri' entry entry', (r.store i).index.find? uri = some entry →
    (r.store j).index.find? uri' = some entry' → entry.bodyFile = entry'.bodyFile → uri = uri'

/-- Every call writes a body file by a name of its own, which none of the entries has that were
there before. -/
structure Distinct (r₀ r : Rivals ι) : Prop where
  nodup : (r.calls.map fun c => c.2.bodyFile).Nodup
  fresh : ∀ i uri entry, (r₀.store i).index.find? uri = some entry →
    ∀ c ∈ r.calls, c.2.bodyFile ≠ entry.bodyFile

/-- A call has replaced a response that was there before, whose body file has this name. -/
def Removed (r₀ : Rivals ι) (calls : List (ι × StoreCall)) (name : String) : Prop :=
  ∃ j c, (j, c) ∈ calls ∧ (r₀.store j).replaced? c.uri = some name

/-- What stores and files are after the calls (module doc). -/
structure Tracked (root : List String) (r₀ r : Rivals ι) : Prop where
  directories : Tree.SameDirectories r₀.tree r.tree
  dir : ∀ i, (r.store i).dir = (r₀.store i).dir
  index : ∀ i uri, (r.store i).index.find? uri =
    ((latestBy? r.calls i uri).map StoreCall.entry).or ((r₀.store i).index.find? uri)
  held : ∀ i uri c, latestBy? r.calls i uri = some c →
    r.tree.file? (root ++ ["bodies", c.bodyFile]) = some (Text.encode c.body)
  /-- A body file that was there before is gone if its response was replaced. -/
  others : ∀ name, isBodyFile name = true → (∀ c ∈ r.calls, c.2.bodyFile ≠ name) →
    (Removed r₀ r.calls name → r.tree.file? (root ++ ["bodies", name]) = none) ∧
      (¬Removed r₀ r.calls name → r.tree.file? (root ++ ["bodies", name]) =
        r₀.tree.file? (root ++ ["bodies", name]))
  /-- The index in the directory is that of the store that was given the last response. -/
  last : ∀ i c, r.calls.getLast? = some (i, c) → Accessible (r.store i) r.tree ∧
    r.tree.file? (root ++ ["index.json"]) = some (Text.encode (r.store i).index.text)

/-! ## The calls -/

theorem latestBy?_append (calls : List (ι × StoreCall)) (i j : ι) (c : StoreCall) (uri : String) :
    latestBy? (calls ++ [(j, c)]) i uri =
      if j = i ∧ c.uri = uri then some c else latestBy? calls i uri := by
  simp only [latestBy?, List.reverse_append, List.reverse_singleton, List.singleton_append,
    List.find?_cons]
  by_cases h : j = i ∧ c.uri = uri <;> simp [h]

theorem latestBy?_eq_some {calls : List (ι × StoreCall)} {i : ι} {uri : String} {c : StoreCall}
    (h : latestBy? calls i uri = some c) : (i, c) ∈ calls ∧ c.uri = uri := by
  obtain ⟨⟨j, c'⟩, hf, rfl⟩ := Option.map_eq_some_iff.1 h
  have hm := List.mem_of_find?_eq_some hf
  have hc := List.find?_some hf
  simp only [Bool.decide_and, Bool.and_eq_true, decide_eq_true_eq] at hc
  obtain ⟨rfl, rfl⟩ := hc
  exact ⟨List.mem_reverse.1 hm, rfl⟩

variable {r₀ r r' : Rivals ι}

theorem Tracked.place (h₀ : Ready root r₀) (h : Tracked root r₀ r) {i : ι} :
    Path.place r.tree.working (r.store i).dir = root := by
  rw [h.directories.working, h.dir, h₀.place]

/-- The entry that a store has on record for a URI, and where it comes from. -/
theorem Tracked.previous (h : Tracked root r₀ r) {i : ι} {uri : String} {entry : IndexEntry}
    (hf : (r.store i).index.find? uri = some entry) :
    (∃ c, latestBy? r.calls i uri = some c ∧ entry = c.entry) ∨
      latestBy? r.calls i uri = none ∧ (r₀.store i).index.find? uri = some entry := by
  rw [h.index] at hf
  cases hc : latestBy? r.calls i uri with
  | some c =>
    rw [hc] at hf
    exact .inl ⟨c, rfl, (Option.some.inj hf).symm⟩
  | none =>
    rw [hc] at hf
    exact .inr ⟨rfl, hf⟩

omit [DecidableEq ι] in
theorem Distinct.of_append {calls : List (ι × StoreCall)} {new : List (ι × StoreCall)}
    {t t' : Tree} {store store' : ι → DiskStore}
    (h : Distinct r₀ ⟨t', store', calls ++ new⟩) : Distinct r₀ ⟨t, store, calls⟩ where
  nodup := by
    have hnodup := h.nodup
    rw [List.map_append] at hnodup
    exact hnodup.of_append_left
  fresh := fun i uri entry hf c hc => h.fresh i uri entry hf c (List.mem_append_left _ hc)

omit [DecidableEq ι] in
/-- Calls that write the same body file are one. -/
theorem Distinct.eq_of_bodyFile (h : Distinct r₀ r) {c c' : ι × StoreCall} (hc : c ∈ r.calls)
    (hc' : c' ∈ r.calls) (he : c.2.bodyFile = c'.2.bodyFile) : c = c' :=
  List.inj_on_of_nodup_map h.nodup hc hc' he

section
variable {j : ι} {new : StoreCall}

omit [DecidableEq ι] in
/-- The body file of a call is none of those before. -/
theorem Distinct.ne_new {t : Tree} {store : ι → DiskStore}
    (h : Distinct r₀ ⟨t, store, r.calls ++ [(j, new)]⟩) {c : ι × StoreCall} (hc : c ∈ r.calls) :
    c.2.bodyFile ≠ new.bodyFile := by
  have hnodup := h.nodup
  rw [List.map_append, List.nodup_append] at hnodup
  exact hnodup.2.2 _ (List.mem_map_of_mem hc) _ (List.mem_singleton.2 rfl)

/-- The body file that a call removes is that of no other last call. -/
theorem Tracked.not_replaced (h : Tracked root r₀ r) (hd : Distinct r₀ r) (uri : String) {i : ι}
    {u : String} {c : StoreCall} (hc : latestBy? r.calls i u = some c)
    (hother : ¬(j = i ∧ uri = u)) :
    (r.store j).replaced? uri ≠ some c.bodyFile := by
  intro hr
  obtain ⟨entry, hf, he⟩ := Option.map_eq_some_iff.1 hr
  obtain ⟨hm, hu⟩ := latestBy?_eq_some hc
  obtain ⟨c', hc', rfl⟩ | ⟨-, hf₀⟩ := h.previous hf
  · obtain ⟨hm', hu'⟩ := latestBy?_eq_some hc'
    obtain ⟨rfl, rfl⟩ := Prod.mk.inj (hd.eq_of_bodyFile hm' hm he)
    exact hother ⟨rfl, hu'.symm.trans hu⟩
  · exact hd.fresh j uri entry hf₀ _ hm he.symm

omit [DecidableEq ι] in
/-- What has been replaced once another call is made. -/
theorem removed_append_iff {calls : List (ι × StoreCall)} {name : String} :
    Removed r₀ (calls ++ [(j, new)]) name ↔
      Removed r₀ calls name ∨ (r₀.store j).replaced? new.uri = some name := by
  constructor
  · rintro ⟨j', c, hm, hr⟩
    rcases List.mem_append.1 hm with hm | hm
    · exact .inl ⟨j', c, hm, hr⟩
    · cases List.mem_singleton.1 hm
      exact .inr hr
  · rintro (⟨j', c, hm, hr⟩ | hr)
    · exact ⟨j', c, List.mem_append_left _ hm, hr⟩
    · exact ⟨j, new, List.mem_append_right _ (List.mem_singleton.2 rfl), hr⟩

/-- A call removes a body file that was there before, or it makes no difference whether it is
counted. -/
theorem Tracked.removes (h : Tracked root r₀ r) (j : ι) (new : StoreCall) {name : String}
    (hname : ∀ c ∈ r.calls, c.2.bodyFile ≠ name) :
    (r.store j).replaced? new.uri = some name ∧ Removed r₀ (r.calls ++ [(j, new)]) name ∨
      (r.store j).replaced? new.uri ≠ some name ∧
        (Removed r₀ (r.calls ++ [(j, new)]) name ↔ Removed r₀ r.calls name) := by
  rw [removed_append_iff, replaced?, h.index]
  cases hc : latestBy? r.calls j new.uri with
  | some c =>
    -- the store has replaced what was there before by an earlier call
    obtain ⟨hm, hu⟩ := latestBy?_eq_some hc
    refine .inr ⟨fun he => hname _ hm (Option.some.inj he), or_iff_left_of_imp fun hr => ?_⟩
    exact ⟨j, c, hm, by rw [hu, hr]⟩
  | none =>
    by_cases hr : (r₀.store j).replaced? new.uri = some name
    · exact .inl ⟨hr, .inr hr⟩
    · exact .inr ⟨hr, or_iff_left hr⟩

section
variable {now : Instant} {uri etag body : String} {t' : Tree} {store' : ι → DiskStore}

omit [DecidableEq ι] in
theorem Distinct.ne_bodyName
    (hd : Distinct r₀ ⟨t', store', r.calls ++ [(j, (r.store j).call now uri etag body)]⟩)
    {c : ι × StoreCall} (hc : c ∈ r.calls) :
    c.2.bodyFile ≠ bodyName uri etag now (r.store j).sequence := by
  rw [← bodyFile_call]
  exact hd.ne_new hc

/-- A call that succeeds settles its response. -/
theorem Tracked.settled (h₀ : Ready root r₀) (h : Tracked root r₀ r) {handle' : DiskStore}
    {notice : Option Notice}
    (hd : Distinct r₀ ⟨t', store', r.calls ++ [(j, (r.store j).call now uri etag body)]⟩)
    (hs : Stored Tree.exact (r.store j) now uri etag body r.tree (handle', .ok notice) t') :
    handle' = (r.store j).recorded now uri etag ∧
      Settled root (r.store j) now uri etag body r.tree t' := by
  have hmem : (j, (r.store j).call now uri etag body) ∈
      r.calls ++ [(j, (r.store j).call now uri etag body)] :=
    List.mem_append_right _ (List.mem_singleton.2 rfl)
  have hprevious : ∀ previous, (r.store j).index.find? uri = some previous →
      BodyName previous.bodyFile ∧
        previous.bodyFile ≠ bodyName uri etag now (r.store j).sequence := by
    intro previous hf
    obtain ⟨c, hc, rfl⟩ | ⟨-, hf₀⟩ := h.previous hf
    · have hnew := hd.ne_bodyName (latestBy?_eq_some hc).1
      exact ⟨c.bodyName_bodyFile, hnew⟩
    · refine ⟨h₀.names j uri previous hf₀, ?_⟩
      rw [← bodyFile_call _ _ _ _ body]
      exact (hd.fresh j uri previous hf₀ _ hmem).symm
  have hcramped : Stored Tree.cramped (r.store j) now uri etag body r.tree
      (handle', .ok notice) t' :=
    runs_store_iff.1 ((runs_store_iff.2 hs).mono fun _ _ _ _ => Tree.cramped_of_exact)
  obtain ⟨⟨e, he⟩, -⟩ | ⟨⟨notice', he⟩, hsettled⟩ := stored_bodies (h.place h₀) hprevious hcramped
  · cases he
  · exact ⟨(Prod.mk.inj he).1, hsettled⟩

/-- What the stores have on record once one of them has another response. -/
theorem Tracked.index_recorded (h : Tracked root r₀ r) (i : ι) (u : String) :
    (Function.update r.store j ((r.store j).recorded now uri etag) i).index.find? u =
      ((latestBy? (r.calls ++ [(j, (r.store j).call now uri etag body)]) i u).map
        StoreCall.entry).or ((r₀.store i).index.find? u) := by
  rw [latestBy?_append]
  by_cases hi : i = j
  · subst hi
    rw [Function.update_self, find?_recorded]
    by_cases hu : u = uri
    · rw [if_pos hu, if_pos ⟨rfl, hu.symm⟩]
      rfl
    · rw [if_neg hu, if_neg fun hand => hu hand.2.symm, h.index]
  · rw [Function.update_of_ne hi, if_neg fun hand => hi hand.1.symm, h.index]

/-- The last responses are there, also the new one. -/
theorem Tracked.held_settled (h : Tracked root r₀ r)
    (hd : Distinct r₀ ⟨t', store', r.calls ++ [(j, (r.store j).call now uri etag body)]⟩)
    (hsettled : Settled root (r.store j) now uri etag body r.tree t') {i : ι} {u : String}
    {c : StoreCall}
    (hc : latestBy? (r.calls ++ [(j, (r.store j).call now uri etag body)]) i u = some c) :
    t'.file? (root ++ ["bodies", c.bodyFile]) = some (Text.encode c.body) := by
  have hbefore : Distinct r₀ r := hd.of_append
  have hname := bodyName_bodyName uri etag now (r.store j).sequence
  rw [latestBy?_append] at hc
  rw [hsettled.bodies _ (hname.ne_temporary c.bodyName_bodyFile.isBodyFile)]
  split at hc
  · cases hc
    exact if_pos rfl
  · rename_i hother
    have hnew := hd.ne_bodyName (latestBy?_eq_some hc).1
    rw [if_neg hnew, if_neg (h.not_replaced hbefore uri hc hother), h.held i u c hc]

/-- What was there before is there, or it was replaced by one of the calls. -/
theorem Tracked.others_settled (h : Tracked root r₀ r)
    (hsettled : Settled root (r.store j) now uri etag body r.tree t') {name : String}
    (hbody : isBodyFile name = true)
    (hcalls : ∀ c ∈ r.calls ++ [(j, (r.store j).call now uri etag body)], c.2.bodyFile ≠ name) :
    (Removed r₀ (r.calls ++ [(j, (r.store j).call now uri etag body)]) name →
        t'.file? (root ++ ["bodies", name]) = none) ∧
      (¬Removed r₀ (r.calls ++ [(j, (r.store j).call now uri etag body)]) name →
        t'.file? (root ++ ["bodies", name]) = r₀.tree.file? (root ++ ["bodies", name])) := by
  have hname := bodyName_bodyName uri etag now (r.store j).sequence
  have hother : name ≠ bodyName uri etag now (r.store j).sequence := by
    rw [← bodyFile_call _ _ _ _ body]
    exact (hcalls _ (List.mem_append_right _ (List.mem_singleton.2 rfl))).symm
  have hbefore : ∀ c ∈ r.calls, c.2.bodyFile ≠ name :=
    fun c hc => hcalls c (List.mem_append_left _ hc)
  rw [hsettled.bodies _ (hname.ne_temporary hbody), if_neg hother]
  obtain ⟨hr, hremoved⟩ | ⟨hr, hsame⟩ :=
    h.removes j ((r.store j).call now uri etag body) hbefore
  · have hgone : (r.store j).replaced? uri = some name := hr
    rw [if_pos hgone]
    exact ⟨fun _ => rfl, fun hno => absurd hremoved hno⟩
  · have hkept : (r.store j).replaced? uri ≠ some name := hr
    rw [if_neg hkept, hsame]
    exact h.others name hbody hbefore

/-- What the stores and the files are after another call. -/
theorem Tracked.stored (h₀ : Ready root r₀) (h : Tracked root r₀ r) {handle' : DiskStore}
    {notice : Option Notice}
    (hd : Distinct r₀ ⟨t', Function.update r.store j handle',
      r.calls ++ [(j, (r.store j).call now uri etag body)]⟩)
    (hs : Stored Tree.exact (r.store j) now uri etag body r.tree (handle', .ok notice) t') :
    Tracked root r₀ ⟨t', Function.update r.store j handle',
      r.calls ++ [(j, (r.store j).call now uri etag body)]⟩ := by
  obtain ⟨rfl, hsettled⟩ := h.settled h₀ hd hs
  constructor
  case directories => exact h.directories.trans hsettled.directories
  case dir =>
    intro i
    dsimp only
    by_cases hi : i = j
    · subst hi
      rw [Function.update_self]
      exact h.dir i
    · rw [Function.update_of_ne hi, h.dir]
  case index => exact h.index_recorded
  case held => exact fun i u c hc => h.held_settled hd hsettled hc
  case others => exact fun name hbody hcalls => h.others_settled hsettled hbody hcalls
  case last =>
    intro i c hl
    rw [List.getLast?_concat] at hl
    cases hl
    dsimp only
    rw [Function.update_self]
    have ha := hsettled.accessible
    exact ⟨⟨ha.leads, ha.clean, ha.short⟩, hsettled.index⟩

end

end

section
variable {disk : DiskStore} {t t' : Tree}

end

section
variable {i : ι} {uri : String}

end

namespace Unaware

open SharedDirectory.TwoStores (handle opened opening_ok opening_again)
open DiskStore.Overwritten (clock)

/-- Both stores are open and have nothing on record. -/
def ready : Rivals Bool := ⟨opened (opened Tree.empty), fun _ => handle, []⟩

def given (r : Rivals Bool) (i : Bool) (now : Instant) (uri etag body : String) : Rivals Bool :=
  let y := r.tree.run ((r.store i).store now uri etag body)
  ⟨y.2, Function.update r.store i y.1.1, r.calls ++ [(i, (r.store i).call now uri etag body)]⟩

theorem step_given {r : Rivals Bool} {i : Bool} {now : Instant} {uri etag body : String}
    (hok : (r.tree.run ((r.store i).store now uri etag body)).1.2.isOk = true) :
    Step r (given r i now uri etag body) := by
  have hruns := Tree.runs_exact_run ((r.store i).store now uri etag body) r.tree
  unfold given
  generalize r.tree.run ((r.store i).store now uri etag body) = y at hruns hok ⊢
  obtain ⟨⟨handle', e | notice⟩, t'⟩ := y
  · cases hok
  · exact .stored hruns

/-- One of them is given a response for `u`. -/
def first : Rivals Bool := given ready false (clock 0) "u" "\"v1\"" "[1]"

/-- And then the other one for `w`. -/
def second : Rivals Bool := given first true (clock 1) "w" "\"v2\"" "[2]"

theorem run_openAt {t : Tree} {disk : DiskStore} (h : (t.run (openAt "/cache").run).1 = .ok disk) :
    t.run (openAt "/cache").run = (.ok disk, opened t) := Prod.ext h rfl

theorem reachable : Relation.ReflTransGen Step ready second := by
  have hfirst : Step ready first := step_given (by decide +kernel)
  have hsecond : Step first second := step_given (by decide +kernel)
  exact (Relation.ReflTransGen.single hfirst).tail hsecond

theorem distinct : Distinct ready second where
  nodup := by decide +kernel
  fresh := fun _ _ _ hf => nomatch hf

end Unaware

end Rivals

end ConditionalGet
