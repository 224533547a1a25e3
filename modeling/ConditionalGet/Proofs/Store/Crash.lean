import ConditionalGet.Proofs.Store.Refinement

/-!
# A call to store that is stopped

A call may be stopped between two file operations or in the middle of one, with any bytes in the
file that is written. What it leaves behind then a complete call may leave behind too, one whose
operations fail from there on (`Tree.exists_runs_of_stops`), so complete calls are all there is to
look at. What they leave is intact (`Intact.stored`): the records are those of before the call, or
those and the new response, and they are found by the store that is opened in the directory.
-/

set_option autoImplicit false

namespace ConditionalGet.DiskStore

open Program ConditionalGet.Path

section
variable {root : List String} {dir : String} {disk : DiskStore} {t t' : Tree} {memory : Memory}
  {now : Instant} {uri etag body : String}

/-! ## Intact directories -/

/-- A store on disk mirrors one in memory, and what is on disk can be read. -/
structure Intact (root : List String) (disk : DiskStore) (t : Tree) (memory : Memory) : Prop where
  mirrors : Mirrors root disk t memory
  openable : Openable t root disk.dir
  short : ∀ uri entry, disk.index.find? uri = some entry →
    (bodiesPath disk.dir).utf8ByteSize + 70 ≤ Tree.longestPath

theorem Intact.recount (h : Intact root disk t memory) (sequence : UInt64) :
    Intact root { disk with sequence := sequence } t memory :=
  ⟨h.mirrors.recount sequence, h.openable, h.short⟩

/-- Opening the directory does nothing to it and gives the store that it holds. -/
theorem Intact.run_openAt (h : Intact root disk t memory) :
    t.run (openAt disk.dir).run = (.ok { disk with sequence := 0 }, t) := by
  have ho := runs_openAt_iff.1 (Tree.runs_exact_run (openAt disk.dir).run t)
  obtain ⟨opened, hok⟩ := h.mirrors.opened_succeeds h.openable ho
  obtain ⟨htree, ⟨path, fault, he⟩ | hx⟩ := h.mirrors.opened ho
  · cases he.symm.trans hok
  · exact Prod.ext hx htree

theorem Intact.run_lookup (h : Intact root disk t memory) (v : String) :
    (t.run (disk.lookup v).run).1 = .ok (memory.lookup v) := by
  have hl := runs_lookup_iff.1 (Tree.runs_exact_run (disk.lookup v).run t)
  obtain ⟨found, hok⟩ := h.mirrors.lookedUp_succeeds (h.short v) hl
  obtain ⟨-, ⟨path, fault, he⟩ | hx⟩ := h.mirrors.lookedUp hl
  · cases he.symm.trans hok
  · exact hx

theorem Openable.of_sameDirectories (h : Openable t root dir) (hs : Tree.SameDirectories t t') :
    Openable t' root dir := by
  refine ⟨fun hd => ?_, h.short⟩
  exact h.free ((hs.directory _).1 hd)

/-- A complete call keeps the directory intact, whether its response goes on record or not. -/
theorem Intact.stored (h : Intact root disk t memory)
    (hfresh : Fresh disk.index [bodyName uri etag now disk.sequence])
    {y : DiskStore × Except StoreError (Option Notice)}
    (hs : Stored Tree.faulty disk now uri etag body t y t') :
    y.1.dir = disk.dir ∧
      (Intact root y.1 t' memory ∨ Intact root y.1 t' (memory.store uri etag body)) := by
  obtain ⟨hdirectories, ⟨⟨e, rfl⟩, hm⟩ | ⟨⟨notice, rfl⟩, hshort, hm⟩⟩ := h.mirrors.stored hfresh hs
  · exact ⟨rfl, .inl ⟨hm, h.openable.of_sameDirectories hdirectories, h.short⟩⟩
  · exact ⟨rfl, .inr ⟨hm, h.openable.of_sameDirectories hdirectories, fun _ _ _ => hshort⟩⟩

/-! ## Opening -/

/-- Where a store was opened, its index can be read. -/
theorem openable_of_opened (h : Opened Tree.exact dir t (.ok disk) t') :
    Openable t' (Path.place t'.working dir) dir := by
  cases h with
  | fresh hm hr =>
    obtain ⟨hread, rfl⟩ := exact_read hr
    obtain ⟨hleads, -⟩ := Tree.leads_of_createAll plain_bodies (exact_createAll hm)
    obtain ⟨-, hshort, hnone⟩ := (Tree.read_join_eq_notFound_iff
      (Tree.Leads.of_join plain_bodies hleads) plain_indexName).1 hread
    exact ⟨by rw [hnone]; simp, hshort⟩
  | loaded _ hr _ =>
    obtain ⟨hread, rfl⟩ := exact_read hr
    obtain ⟨bytes, hfile, -⟩ := Tree.file_of_read hread
    obtain ⟨found, hlocate⟩ := Tree.locate_of_read hread
    rw [place_indexPath] at hfile
    exact ⟨by rw [Tree.file?_eq_some_iff.1 hfile]; simp, Tree.size_of_locate hlocate⟩

/-- A store that is opened where nothing is has an intact directory, with nothing on record. -/
theorem intact_of_opened (hvacant : t.Vacant (Path.place t.working dir))
    (h : Opened Tree.exact dir t (.ok disk) t') :
    disk.dir = dir ∧ Intact (Path.place t.working dir) disk t' Table.empty := by
  obtain ⟨⟨path, fault, he⟩, -⟩ | ⟨he, hmirrors, -⟩ := opened_of_vacant hvacant h
  · cases he
  obtain rfl := Except.ok.inj he
  have hopenable := openable_of_opened h
  have hplace : Path.place t'.working dir = Path.place t.working dir := hmirrors.place
  rw [hplace] at hopenable
  refine ⟨rfl, hmirrors, hopenable, fun v entry hf => ?_⟩
  cases hf

/-! ## Directories that complete calls have built -/

/-- A store in a directory with nothing in it at first, after complete calls to store, which may
have failed, and after its directory was opened anew any number of times. -/
inductive Built (dir : String) : DiskStore → Tree → Prop
  | opened {disk : DiskStore} {t t' : Tree} : t.Vacant (Path.place t.working dir) →
      t.run (openAt dir).run = (.ok disk, t') → Built dir disk t'
  | stored {disk : DiskStore} {t t' : Tree} {now : Instant} {uri etag body : String}
      {y : DiskStore × Except StoreError (Option Notice)} : Built dir disk t →
      Fresh disk.index [bodyName uri etag now disk.sequence] →
      Runs Tree.faulty (disk.store now uri etag body) t y t' → Built dir y.1 t'
  | reopened {disk disk' : DiskStore} {t t' : Tree} : Built dir disk t →
      t.run (openAt dir).run = (.ok disk', t') → Built dir disk' t'

theorem Built.intact (h : Built dir disk t) :
    disk.dir = dir ∧ ∃ root memory, Intact root disk t memory := by
  induction h with
  | opened hvacant ho =>
    obtain ⟨hdir, hi⟩ :=
      intact_of_opened hvacant (runs_openAt_iff.1 (runs_answer_iff.2 ho))
    exact ⟨hdir, _, _, hi⟩
  | stored _ hfresh hr ih =>
    obtain ⟨rfl, root, memory, hi⟩ := ih
    obtain ⟨hdir, hi | hi⟩ := hi.stored hfresh (runs_store_iff.1 hr)
    · exact ⟨hdir, root, _, hi⟩
    · exact ⟨hdir, root, _, hi⟩
  | reopened _ ho ih =>
    obtain ⟨rfl, root, memory, hi⟩ := ih
    cases hi.run_openAt.symm.trans ho
    exact ⟨rfl, root, memory, hi.recount 0⟩

/-! ## Stopped calls -/

/-- **A call to store that is stopped stores its response or nothing.** Wherever it is stopped, the
directory can be opened. For any other URI a lookup finds then what it found before the call, and
for the URI of the call it finds that or the response of the call. -/
theorem stopped_store_consistent (hbuilt : Built dir disk t)
    (hfresh : Fresh disk.index [bodyName uri etag now disk.sequence])
    (h : Stops Tree.faulty Tree.Leftover (disk.store now uri etag body) t t') :
    ∃ opened, t'.run (openAt dir).run = (.ok opened, t') ∧
      (∀ v, v ≠ uri → (t'.run (opened.lookup v).run).1 = (t.run (disk.lookup v).run).1) ∧
      ((t'.run (opened.lookup uri).run).1 = (t.run (disk.lookup uri).run).1 ∨
        (t'.run (opened.lookup uri).run).1 = .ok (.hit ⟨etag, body⟩)) := by
  obtain ⟨rfl, root, memory, hi⟩ := hbuilt.intact
  -- the call that was stopped, as one whose operations failed from there on
  obtain ⟨y, hr⟩ := Tree.exists_runs_of_stops h
  obtain ⟨hdir, hi'⟩ := hi.stored hfresh (runs_store_iff.1 hr)
  rw [← hdir]
  refine ⟨{ y.1 with sequence := 0 }, ?_⟩
  rcases hi' with hi' | hi'
  · have hsame : ∀ v, (t'.run (lookup { y.1 with sequence := 0 } v).run).1 =
        (t.run (disk.lookup v).run).1 := by
      intro v
      rw [(hi'.recount 0).run_lookup, hi.run_lookup]
    exact ⟨hi'.run_openAt, fun v _ => hsame v, .inl (hsame uri)⟩
  · refine ⟨hi'.run_openAt, fun v hv => ?_, .inr ?_⟩
    · rw [(hi'.recount 0).run_lookup, hi.run_lookup, Memory.lookup_store, if_neg hv]
    · rw [(hi'.recount 0).run_lookup, Memory.lookup_store, if_pos rfl]

end

/-! ### Stopped before the index is renamed -/

namespace Interrupted

open Overwritten

def disk : DiskStore := ⟨"/cache", Table.empty, 0⟩

/-- The store and its directory once the first response is stored. -/
def stored : (DiskStore × Except StoreError (Option Notice)) × Tree :=
  (Tree.empty.run (openAt "/cache").run).2.run (disk.store (clock 0) "u" "\"v1\"" "[1]")

/-- The tree if the store is stopped after three operations of storing another response. -/
def tree : Tree := Tree.runFor 3 (stored.1.1.store (clock 1) "u" "\"v2\"" "[2]") stored.2

theorem opened_ok : (Tree.empty.run (openAt "/cache").run).1 = .ok disk := by
  have ho := runs_openAt_iff.1 (Tree.runs_exact_run (openAt "/cache").run Tree.empty)
  exact ((opened_of_vacant vacant ho).resolve_left fun h => h.2 accommodates).1

theorem built_disk : Built "/cache" disk (Tree.empty.run (openAt "/cache").run).2 := by
  refine .opened vacant ?_
  rw [← opened_ok]

theorem fresh_disk (name : String) : Fresh disk.index [name] := by
  intro v entry hf
  cases hf

theorem built_stored : Built "/cache" stored.1.1 stored.2 :=
  built_disk.stored (fresh_disk _) (Tree.runs_faulty_run _ _)

theorem name_ne : bodyName "u" "\"v1\"" (clock 0) 0 ≠ bodyName "u" "\"v2\"" (clock 1) 1 := by
  decide +kernel

theorem fresh_stored : Fresh stored.1.1.index
    [bodyName "u" "\"v2\"" (clock 1) stored.1.1.sequence] := by
  obtain ⟨-, root, memory, hi⟩ := built_disk.intact
  have hs := runs_store_iff.1 (Tree.runs_faulty_run (disk.store (clock 0) "u" "\"v1\"" "[1]")
    (Tree.empty.run (openAt "/cache").run).2)
  intro v entry hf hm
  obtain ⟨-, ⟨⟨e, he⟩, -⟩ | ⟨⟨notice, he⟩, -⟩⟩ := hi.mirrors.stored (fresh_disk _) hs
  all_goals rw [stored, he] at hf hm
  · cases hf
  · rw [find?_recorded] at hf
    split at hf
    · cases hf
      exact name_ne (List.mem_singleton.1 hm)
    · cases hf

theorem stopped_store_consistent_unrenamed :
    Built "/cache" stored.1.1 stored.2 ∧
      ∃ opened, tree.run (openAt "/cache").run = (.ok opened, tree) ∧
        (∀ v, v ≠ "u" → (tree.run (opened.lookup v).run).1 =
          (stored.2.run (stored.1.1.lookup v).run).1) ∧
        ((tree.run (opened.lookup "u").run).1 = (stored.2.run (stored.1.1.lookup "u").run).1 ∨
          (tree.run (opened.lookup "u").run).1 = .ok (.hit ⟨"\"v2\"", "[2]"⟩)) :=
  ⟨built_stored, stopped_store_consistent built_stored fresh_stored (Tree.stops_runFor _ _ _)⟩

end Interrupted

end ConditionalGet.DiskStore
