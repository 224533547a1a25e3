import ConditionalGet.Proofs.Store.Calls
import ConditionalGet.Proofs.Store.Mirror

/-!
# The store on disk refines the store in memory

One call on disk does what it does in memory, and opening the directory anew does nothing, unless a
file operation fails (`Follows.call`, `Follows.reopen`), so that by induction the replies to any
sequence of calls are the same (`replies_eq`). `DiskStore.refines_memory` is that for a store that
is opened in a directory with nothing in it.
-/

set_option autoImplicit false

namespace ConditionalGet.DiskStore

open Program ConditionalGet.Path

/-! ## Call by call -/

section
variable {root : List String} {disk : DiskStore} {w : Machine} {memory : Memory}

/-- Looking up changes nothing and finds what is on record in memory. -/
theorem Mirrors.run_lookup (clock : Nat → Instant) (h : Mirrors root disk w.tree memory)
    (uri : String) :
    ∃ x, (((onMachine clock).lookup uri).run disk).run w = ((x, disk), w) ∧
      ((∃ path fault, x = .error (.io path fault)) ∨ x = .ok (memory.lookup uri)) ∧
      (Roomy w.tree root disk.dir → ∃ found, x = .ok found) := by
  have hrun := runs_lookup_iff.1 (Tree.runs_exact_run (disk.lookup uri).run w.tree)
  obtain ⟨htree, hx⟩ := h.lookedUp hrun
  refine ⟨_, ?_, hx, fun hroom => h.lookedUp_succeeds (fun _ _ => hroom.short) hrun⟩
  rw [DiskStore.run_lookup, htree]

/-- Opening the directory anew gives the same store. -/
theorem Mirrors.run_reopen (h : Mirrors root disk w.tree memory) :
    ((∃ path fault, ((reopen.run disk).run w).1.1 = .error (.io path fault)) ∧
        ¬Roomy w.tree root disk.dir) ∨
      (reopen.run disk).run w = ((.ok (), { disk with sequence := 0 }), w) := by
  have hrun := runs_openAt_iff.1 (Tree.runs_exact_run (openAt disk.dir).run w.tree)
  obtain ⟨htree, ⟨path, fault, hx⟩ | hx⟩ := h.opened hrun
  · refine .inl ⟨⟨path, fault, ?_⟩, fun hroom => ?_⟩
    · rw [DiskStore.run_reopen, hx]
      rfl
    · obtain ⟨disk', hx'⟩ := h.opened_succeeds hroom.openable hrun
      cases hx.symm.trans hx'
  · refine .inr ?_
    rw [DiskStore.run_reopen, hx, htree]
    rfl

/-- Storing a response fails, or puts on record what it does in memory. -/
theorem Mirrors.run_store (clock : Nat → Instant) (h : Mirrors root disk w.tree memory)
    {uri etag : String} (body : String)
    (hfresh : Fresh disk.index [bodyName uri etag (clock w.readings) disk.sequence]) :
    let z := (((onMachine clock).store uri etag body).run disk).run w
    ((∃ path fault, z.1.1 = .error (.io path fault)) ∧ ¬Roomy w.tree root disk.dir) ∨
      ∃ t', z = ((.ok (), disk.recorded (clock w.readings) uri etag), ⟨t', w.readings + 1⟩) ∧
        Tree.SameDirectories w.tree t' ∧
        Mirrors root (disk.recorded (clock w.readings) uri etag) t'
          (memory.store uri etag body) := by
  intro z
  have hrun := runs_store_iff.1
    (Tree.runs_exact_run (disk.store (clock w.readings) uri etag body) w.tree)
  have hz : z = _ := DiskStore.run_store clock disk w uri etag body
  have hfaulty := runs_store_iff.1 (Tree.runs_faulty_of_exact (runs_store_iff.2 hrun))
  obtain ⟨hs, ⟨⟨e, hx⟩, -⟩ | ⟨⟨notice, hx⟩, -, hm⟩⟩ := h.stored hfresh hfaulty
  · rw [hx] at hfaulty
    obtain ⟨path, fault, rfl⟩ := hfaulty.io_of_error
    refine .inl ⟨⟨path, fault, ?_⟩, fun hroom => ?_⟩
    · simp only [hz, hx]
      rfl
    · obtain ⟨notice, hx'⟩ := h.stored_succeeds hroom hrun
      rw [hx] at hx'
      cases hx'
  · refine .inr ⟨_, ?_, hs, hm⟩
    simp only [hz, hx]
    rfl

end

/-! ## Sequences of calls -/

/-- The relation with what is still to be called: its body files have names of their own. -/
structure Follows (root : List String) (clock : Nat → Instant) (events : List Event)
    (disk : DiskStore) (w : Machine) (memory : Memory) : Prop where
  mirrors : Mirrors root disk w.tree memory
  fresh : Fresh disk.index (bodyNames clock w.readings disk.sequence events)
  nodup : (bodyNames clock w.readings disk.sequence events).Nodup

section
variable {root : List String} {clock : Nat → Instant} {events : List Event} {disk : DiskStore}
  {w : Machine} {memory : Memory}

/-- What comes of a call on disk and in memory: a failed file operation, or the same. -/
def Agree (root : List String) (clock : Nat → Instant) (rest : List Event) (disk : DiskStore)
    (w : Machine) (z : (Store.Reply × DiskStore) × Machine) (m : Store.Reply × Memory) : Prop :=
  (z.1.1.IoFailure ∧ ¬Roomy w.tree root disk.dir) ∨
    z.1.1 = m.1 ∧ Follows root clock rest z.1.2 z.2 m.2 ∧
      (Roomy w.tree root disk.dir → Roomy z.2.tree root z.1.2.dir)

/-- A call that looks something up. -/
theorem Follows.look (h : Follows root clock events disk w memory) (uri : String)
    {f : Except StoreError Lookup → Store.Reply} (hf : ∀ e, f (.error e) = .failed e) :
    Agree root clock events disk w (((f <$> (onMachine clock).lookup uri).run disk).run w)
      (f (.ok (memory.lookup uri)), memory) := by
  obtain ⟨x, hrun, hx, hroom⟩ := h.mirrors.run_lookup clock uri
  rw [run_map, hrun]
  rcases hx with ⟨path, fault, rfl⟩ | rfl
  · refine .inl ⟨?_, fun hr => ?_⟩
    · show (f _).IoFailure
      rw [hf]
      trivial
    · obtain ⟨found, he⟩ := hroom hr
      cases he
  · exact .inr ⟨rfl, h, id⟩

theorem Follows.store {uri etag body : String} {rest : List Event}
    (h : Follows root clock (.call (.store uri etag body) :: rest) disk w memory) :
    Agree root clock rest disk w (((make clock (.store uri etag body)).run disk).run w)
      ((Memory.make (.store uri etag body)).run memory) := by
  obtain ⟨hmirrors, hfresh, hnodup⟩ := h
  rw [bodyNames] at hfresh hnodup
  have hnew : Fresh disk.index [bodyName uri etag (clock w.readings) disk.sequence] :=
    fun u entry hu hm => hfresh u entry hu (List.mem_cons.2 (.inl (List.mem_singleton.1 hm)))
  have hstored := hmirrors.run_store clock body hnew
  rw [make, Store.Call.make, run_map]
  generalize (((onMachine clock).store uri etag body).run disk).run w = z at hstored ⊢
  obtain ⟨⟨path, fault, hz⟩, hroom⟩ | ⟨t', rfl, hs, hm⟩ := hstored
  · refine .inl ⟨?_, hroom⟩
    rw [hz]
    trivial
  · refine .inr ⟨rfl, ⟨hm, fun u entry hu => ?_, (List.nodup_cons.1 hnodup).2⟩,
      fun hroom => hroom.of_sameDirectories hs⟩
    have hu' := (find?_recorded disk (clock w.readings) uri etag u).symm.trans hu
    split at hu'
    · cases hu'
      exact (List.nodup_cons.1 hnodup).1
    · exact fun hmem => hfresh u entry hu' (List.mem_cons_of_mem _ hmem)

/-- A call that stores nothing writes no body file. -/
theorem Follows.skip {c : Store.Call} {rest : List Event}
    (h : Follows root clock (.call c :: rest) disk w memory)
    (hc : ∀ uri etag body, c ≠ .store uri etag body) : Follows root clock rest disk w memory := by
  cases c with
  | store uri etag body => exact absurd rfl (hc uri etag body)
  | _ => exact ⟨h.mirrors, h.fresh, h.nodup⟩

theorem Follows.call {c : Store.Call} {rest : List Event}
    (h : Follows root clock (.call c :: rest) disk w memory) :
    Agree root clock rest disk w (((make clock c).run disk).run w)
      ((Memory.make c).run memory) := by
  cases c with
  | store uri etag body => exact h.store
  | lookup uri => exact (h.skip nofun).look uri fun _ => rfl
  | etagOf uri =>
    exact (h.skip nofun).look uri
      (f := fun x => Store.Reply.of .text (Except.map Lookup.etag? x)) fun _ => rfl
  | bodyOf uri =>
    exact (h.skip nofun).look uri
      (f := fun x => Store.Reply.of .text (Except.map Lookup.body? x)) fun _ => rfl
  | size =>
    have hsize : disk.index.size = memory.size := by
      rw [Table.size_eq_length_keys, h.mirrors.keys, Table.size_eq_length_keys]
    exact .inr ⟨congrArg Store.Reply.size hsize, h.skip nofun, id⟩
  | isEmpty =>
    have hempty : disk.index.isEmpty = memory.isEmpty := by
      rw [Table.isEmpty_eq_isEmpty_keys, h.mirrors.keys, Table.isEmpty_eq_isEmpty_keys]
    exact .inr ⟨congrArg Store.Reply.isEmpty hempty, h.skip nofun, id⟩

theorem Follows.reopen {rest : List Event}
    (h : Follows root clock (.reopen :: rest) disk w memory) :
    ((∃ path fault, ((DiskStore.reopen.run disk).run w).1.1 = .error (.io path fault)) ∧
        ¬Roomy w.tree root disk.dir) ∨
      (DiskStore.reopen.run disk).run w = ((.ok (), { disk with sequence := 0 }), w) ∧
        Follows root clock rest { disk with sequence := 0 } w memory :=
  h.mirrors.run_reopen.imp id fun hz => ⟨hz, h.mirrors.recount 0, h.fresh, h.nodup⟩

/-- The replies on disk are those in memory, unless a file operation fails. -/
theorem replies_eq (h : Follows root clock events disk w memory)
    (hio : (∀ reply ∈ (((replies clock events).run disk).run w).1.1, ¬reply.IoFailure) ∨
      Roomy w.tree root disk.dir) :
    (((replies clock events).run disk).run w).1.1 =
      ((Memory.replies (events.filterMap Event.call?)).run memory).1 := by
  induction events generalizing disk w memory with
  | nil => rfl
  | cons event rest ih =>
    cases event with
    | reopen =>
      rcases h.reopen with ⟨⟨path, fault, he⟩, hroom⟩ | ⟨hz, hrest⟩
      · exact absurd trivial (hio.resolve_right hroom _ (failed_mem_replies he))
      · rw [replies_reopen_of_ok hz] at hio ⊢
        exact ih hrest hio
    | call c =>
      rw [replies_call] at hio ⊢
      rcases h.call with ⟨hf, hroom⟩ | ⟨heq, hrest, hroom⟩
      · exact absurd hf (hio.resolve_right hroom _ List.mem_cons_self)
      · have hio' := hio.imp (fun hall reply hr => hall reply (List.mem_cons_of_mem _ hr)) hroom
        show _ :: _ = ((Memory.make c).run memory).1 :: _
        rw [heq, ih hrest hio']
        rfl

end

/-! ## A new directory -/

/-- The directory of a store can be made in a tree, and then there is room for its files. -/
def Accommodates (t : Tree) (dir : String) : Prop :=
  ∃ t', t.createAll (bodiesPath dir) = (t', .ok ()) ∧ Roomy t' (Path.place t.working dir) dir

section
variable {t t' : Tree} {dir : String} (hvacant : t.Vacant (Path.place t.working dir))
include hvacant

/-- Where nothing was, directories that are made are those of an empty store. -/
theorem mirrors_of_createAll (hm : t.createAll (bodiesPath dir) = (t', .ok ())) :
    Mirrors (Path.place t.working dir) ⟨dir, Table.empty, 0⟩ t' Table.empty ∧
      t'.file? (Path.place t'.working dir ++ ["index.json"]) = none := by
  obtain ⟨hw, hn⟩ := Tree.node?_createAll t (bodiesPath dir)
  obtain ⟨hleads, hclean⟩ := Tree.leads_of_createAll plain_bodies hm
  rw [hm] at hw hn
  have hnone : t'.file? (Path.place t.working dir ++ ["index.json"]) = none := by
    have hnode := hvacant (Path.place t.working dir ++ ["index.json"]) (List.prefix_append _ _)
      (by simp)
    rw [Tree.file?_of_added (hn _), Tree.file?, hnode]
  refine ⟨⟨by rw [hw], hleads, hclean, rfl, ?_, ?_, .inr ⟨hnone, rfl⟩⟩, by rw [hw, hnone]⟩
  · intro uri entry r hf
    cases hf
  · intro uri uri' entry entry' hf
    cases hf

/-- A store that is opened where nothing is is an empty one, unless a file operation fails. -/
theorem opened_of_vacant {x : Except StoreError DiskStore} (ho : Opened Tree.exact dir t x t') :
    ((∃ path fault, x = .error (.io path fault)) ∧ ¬Accommodates t dir) ∨
      x = .ok ⟨dir, Table.empty, 0⟩ ∧
        Mirrors (Path.place t.working dir) ⟨dir, Table.empty, 0⟩ t' Table.empty ∧
        (Accommodates t dir → Roomy t' (Path.place t.working dir) dir) := by
  have hnone : ∀ {t₁ text}, t.createAll (bodiesPath dir) = (t₁, .ok ()) →
      t₁.read (indexPath dir) ≠ .ok text := by
    intro t₁ text hm hread
    obtain ⟨bytes, hbytes, -⟩ := Tree.file_of_read hread
    rw [place_indexPath] at hbytes
    cases (mirrors_of_createAll hvacant hm).2.symm.trans hbytes
  cases ho with
  | unmade hm =>
    refine .inl ⟨⟨_, _, rfl⟩, ?_⟩
    rintro ⟨t₂, hm', -⟩
    cases (exact_createAll hm).symm.trans hm'
  | fresh hm hr =>
    have hm := exact_createAll hm
    obtain rfl := (exact_read hr).2
    refine .inr ⟨rfl, (mirrors_of_createAll hvacant hm).1, ?_⟩
    rintro ⟨t₂, hm', hroom⟩
    cases hm.symm.trans hm'
    exact hroom
  | unread hm hr hne =>
    have hm := exact_createAll hm
    refine .inl ⟨⟨_, _, rfl⟩, ?_⟩
    rintro ⟨t₂, hm', hroom⟩
    cases hm.symm.trans hm'
    exact hne ((mirrors_of_createAll hvacant hm).1.notFound_of_read hroom.openable
      (exact_read hr).1)
  | corrupt hm hr _ => exact absurd (exact_read hr).1 (hnone (exact_createAll hm))
  | loaded hm hr _ => exact absurd (exact_read hr).1 (hnone (exact_createAll hm))

end

/-- **The store on disk refines the store in memory.** Of a store that is opened in a directory with
nothing in it, whatever is called and however often the directory is opened anew, the replies are
those of a store in memory that is given the same calls, if no reply is that a file operation
failed; and none is where the tree accommodates the store. -/
theorem refines_memory (clock : Nat → Instant) {t : Tree} {dir : String}
    (hvacant : t.Vacant (Path.place t.working dir)) (events : List Event)
    (hnames : (bodyNames clock 0 0 events).Nodup) :
    let onDisk := repliesIn clock t dir events
    let inMemory := ((Memory.replies (events.filterMap Event.call?)).run Table.empty).1
    ((∀ reply ∈ onDisk, ¬reply.IoFailure) → onDisk = inMemory) ∧
      (Accommodates t dir → onDisk = inMemory) := by
  intro onDisk inMemory
  have hdisk : onDisk = repliesIn clock t dir events := rfl
  have ho := runs_openAt_iff.1 (Tree.runs_exact_run (openAt dir).run t)
  rw [repliesIn] at hdisk
  generalize t.run (openAt dir).run = opened at ho hdisk
  obtain ⟨x, t'⟩ := opened
  rcases opened_of_vacant hvacant ho with ⟨⟨path, fault, rfl⟩, hnot⟩ | ⟨rfl, hmirrors, hroom⟩
  · refine ⟨fun hio => ?_, fun ha => absurd ha hnot⟩
    rw [hdisk] at hio
    exact absurd trivial (hio _ List.mem_cons_self)
  · have hfollows : Follows (Path.place t.working dir) clock events ⟨dir, Table.empty, 0⟩ ⟨t', 0⟩
        Table.empty := by
      refine ⟨hmirrors, ?_, hnames⟩
      intro uri entry hf
      cases hf
    rw [hdisk]
    exact ⟨fun hio => replies_eq hfollows (.inl hio),
      fun ha => replies_eq hfollows (.inr (hroom ha))⟩

/-! ### One response replaced by another -/

namespace Overwritten

theorem isDate_clock : isDate 2020 1 1 = true := by decide

theorem isTime_clock (n : Nat) : isTime 0 0 (n % 60) 0 = true := by
  have h := Nat.mod_lt n (by decide : 0 < 60)
  simp [isTime]
  omega

/-- A clock that goes on by a second each time, for a minute. -/
def clock (n : Nat) : Instant :=
  { date := ⟨2020, 1, 1, isDate_clock⟩, hour := 0, minute := 0, second := n % 60, nanos := 0,
    valid := isTime_clock n }

/-- A response is replaced after the directory was opened anew. -/
def events : List Event :=
  [.call (.store "u" "\"v1\"" "[1]"), .call (.lookup "u"), .reopen,
    .call (.store "u" "\"v2\"" "[2]"), .reopen, .call (.bodyOf "u"), .call .size]

/-- The tree once the directory is made. -/
def tree : Tree := (Tree.empty.createAll (bodiesPath "/cache")).1

theorem place_cache : place Tree.empty.working "/cache" = ["cache"] := by decide +kernel

theorem ne_nil_of_cache {q : List String} (h : ["cache"] <+: q) : q ≠ [] := by
  rintro rfl
  simp at h

theorem vacant : Tree.empty.Vacant (place Tree.empty.working "/cache") := by
  rw [place_cache]
  intro q hp _
  rw [Tree.node?, if_neg (ne_nil_of_cache hp)]
  rfl

theorem roomy : Roomy tree ["cache"] "/cache" where
  made := by decide +kernel
  bare := by
    have hkeys : tree.nodes.keys = [["cache"], ["cache", "bodies"]] := by decide +kernel
    intro q hp hd
    rw [Tree.node?, if_neg (ne_nil_of_cache hp)] at hd
    have hmem := (tree.nodes.mem_keys_iff q).2 (by rw [hd]; rfl)
    rw [hkeys] at hmem
    simpa using hmem
  short := by decide +kernel

theorem accommodates : Accommodates Tree.empty "/cache" := by
  have hok : (Tree.empty.createAll (bodiesPath "/cache")).2 = .ok () :=
    eq_ok_of_toOption (by decide +kernel)
  exact ⟨tree, Prod.ext rfl hok, place_cache ▸ roomy⟩

theorem names_nodup : (bodyNames clock 0 0 events).Nodup := by decide +kernel

theorem replies_memory :
    ((Memory.replies (events.filterMap Event.call?)).run Table.empty).1 =
      [.stored, .found (.hit ⟨"\"v1\"", "[1]"⟩), .stored, .text (some "[2]"), .size 1] := rfl

theorem refines_memory_overwritten :
    Tree.empty.Vacant (place Tree.empty.working "/cache") ∧ Accommodates Tree.empty "/cache" ∧
      (bodyNames clock 0 0 events).Nodup ∧ repliesIn clock Tree.empty "/cache" events =
        [.stored, .found (.hit ⟨"\"v1\"", "[1]"⟩), .stored, .text (some "[2]"), .size 1] := by
  have h := (refines_memory clock vacant events names_nodup).2 accommodates
  exact ⟨vacant, accommodates, names_nodup, h.trans replies_memory⟩

end Overwritten

end ConditionalGet.DiskStore
