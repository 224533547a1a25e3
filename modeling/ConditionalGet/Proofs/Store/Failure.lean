import ConditionalGet.Proofs.Store.Refinement

/-!
# A failed call to store changes nothing

Wherever a call to store fails, what it leaves behind are files that no index names: what is read of
the index and of the body files on record is the same, so every lookup is, and so is the store that
is opened in the directory (`failed_store_unchanged`). That needs the body files to be such that the
store writes (`IndexEntry.Written`), and the one of the failed call to be none of them (`Fresh`).
-/

set_option autoImplicit false

namespace ConditionalGet

/-- The entry is one that the store makes for a response with this URI. -/
def IndexEntry.Written (uri : String) (entry : IndexEntry) : Prop :=
  ∃ sequence, entry.bodyFile = DiskStore.bodyName uri entry.etag entry.storedAt sequence

theorem IndexEntry.Written.bodyName {uri : String} {entry : IndexEntry} (h : entry.Written uri) :
    DiskStore.BodyName entry.bodyFile := by
  obtain ⟨sequence, he⟩ := h
  rw [he]
  exact DiskStore.bodyName_bodyName _ _ _ _

namespace DiskStore

open Program ConditionalGet.Path

section
variable {t t' t₁ : Tree} {disk disk' : DiskStore}

/-! ## The same files, the same answers -/

/-- What a lookup finds depends on the body file of the entry alone. -/
theorem LookedUp.of_read {uri : String} {x : Except StoreError Lookup}
    (h : LookedUp Tree.exact disk uri t x t₁)
    (hread : ∀ entry, disk.index.find? uri = some entry →
      t'.read (disk.bodyPath entry.bodyFile) = t.read (disk.bodyPath entry.bodyFile)) :
    LookedUp Tree.exact disk uri t' x t' := by
  cases h with
  | miss hf => exact .miss hf
  | hit hf hr => exact .hit hf (exact_of_read ((hread _ hf).trans (exact_read hr).1))
  | gone hf hr => exact .gone hf (exact_of_read ((hread _ hf).trans (exact_read hr).1))
  | unread hf hr hne => exact .unread hf (exact_of_read ((hread _ hf).trans (exact_read hr).1)) hne

theorem lookup_congr {uri : String}
    (hread : ∀ entry, disk.index.find? uri = some entry →
      t'.read (disk.bodyPath entry.bodyFile) = t.read (disk.bodyPath entry.bodyFile)) :
    t'.run (disk.lookup uri).run = ((t.run (disk.lookup uri).run).1, t') :=
  runs_answer_iff.1 (runs_lookup_iff.2
    ((runs_lookup_iff.1 (Tree.runs_exact_run (disk.lookup uri).run t)).of_read hread))

/-- Where the directory of the body files is there, making it does the same to any tree: nothing. -/
theorem exact_createAll_of_leads {dir : String} {r : Except IoFault Unit}
    (hl : t.Leads (bodiesPath dir)) (hl' : t'.Leads (bodiesPath dir))
    (h : Tree.exact t (.createAll (bodiesPath dir)) r t₁) :
    t₁ = t ∧ Tree.exact t' (.createAll (bodiesPath dir)) r t' := by
  have hmade := exact_createAll h
  have hmade' := Tree.Leads.createAll plain_bodies hl'
  rw [bodiesPath, Tree.Leads.createAll plain_bodies hl] at hmade
  obtain ⟨rfl, hr⟩ := Prod.mk.inj hmade
  rw [hr] at hmade'
  exact ⟨rfl, exact_of_createAll hmade'⟩

/-- What is opened in a directory that is there depends on the file of the index alone. -/
theorem Opened.of_read {dir : String} {x : Except StoreError DiskStore}
    (h : Opened Tree.exact dir t x t₁) (hl : t.Leads (bodiesPath dir))
    (hl' : t'.Leads (bodiesPath dir)) (hread : t'.read (indexPath dir) = t.read (indexPath dir)) :
    Opened Tree.exact dir t' x t' := by
  have hindex : ∀ {s s₁ : Tree} {r : Except IoFault String}, s = t →
      Tree.exact s (.read (indexPath dir)) r s₁ → Tree.exact t' (.read (indexPath dir)) r t' := by
    rintro s s₁ r rfl hr
    exact exact_of_read (hread.trans (exact_read hr).1)
  cases h with
  | unmade hm => exact .unmade (exact_createAll_of_leads hl hl' hm).2
  | fresh hm hr =>
    obtain ⟨ht, hm⟩ := exact_createAll_of_leads hl hl' hm
    exact .fresh hm (hindex ht hr)
  | unread hm hr hne =>
    obtain ⟨ht, hm⟩ := exact_createAll_of_leads hl hl' hm
    exact .unread hm (hindex ht hr) hne
  | corrupt hm hr hp =>
    obtain ⟨ht, hm⟩ := exact_createAll_of_leads hl hl' hm
    exact .corrupt hm (hindex ht hr) hp
  | loaded hm hr hp =>
    obtain ⟨ht, hm⟩ := exact_createAll_of_leads hl hl' hm
    exact .loaded hm (hindex ht hr) hp

theorem open_congr {dir : String} (hl : t.Leads (bodiesPath dir))
    (hl' : t'.Leads (bodiesPath dir)) (hread : t'.read (indexPath dir) = t.read (indexPath dir)) :
    t'.run (openAt dir).run = ((t.run (openAt dir).run).1, t') :=
  runs_answer_iff.1 (runs_openAt_iff.2
    ((runs_openAt_iff.1 (Tree.runs_exact_run (openAt dir).run t)).of_read hl hl' hread))

/-! ## Failed calls -/

/-- An index that the store works with, or that one would work with that is opened now. -/
inductive Known (disk : DiskStore) (t : Tree) : Index → Prop
  | held : Known disk t disk.index
  | listed {text : String} {index : Index} : t.read (indexPath disk.dir) = .ok text →
      Index.parse text = .ok index → Known disk t index

/-- Nothing that can be observed of a store or its directory is another. -/
structure Unchanged (disk : DiskStore) (t : Tree) (disk' : DiskStore) (t' : Tree) : Prop where
  lookup : ∀ uri, (t'.run (disk'.lookup uri).run).1 = (t.run (disk.lookup uri).run).1
  storedAt : ∀ uri, disk'.storedAt? uri = disk.storedAt? uri
  size : disk'.size = disk.size
  /-- The file of the index is as it was, or what else there is in its place. -/
  index : ∀ q, Path.place t.working (indexPath disk.dir) <+: q → t'.node? q = t.node? q
  opened : (t'.run (openAt disk.dir).run).1 = (t.run (openAt disk.dir).run).1
  /-- Lookups in the store that is opened anew. -/
  openedLookup : ∀ opened, (t.run (openAt disk.dir).run).1 = .ok opened → ∀ uri,
    ((t'.run (openAt disk.dir).run).2.run (opened.lookup uri).run).1 =
      ((t.run (openAt disk.dir).run).2.run (opened.lookup uri).run).1

variable {now : Instant} {uri etag body : String}

/-- A body file on record is read as before. -/
theorem Withdrawn.read_body {root : List String} {name : String}
    (h : Withdrawn root disk name t t') (hroot : Path.place t.working disk.dir = root)
    (hl : t.Leads (bodiesPath disk.dir)) (hname : BodyName name) {other : String}
    (hother : BodyName other) (hne : other ≠ name) :
    t'.read (disk.bodyPath other) = t.read (disk.bodyPath other) := by
  refine h.same.read hl hother.plain ?_
  have htemp : other ≠ temporaryName name := (hname.temporary_ne hother).symm
  rw [place_bodiesPath, hroot, List.append_assoc]
  simp [drafts, htemp, hne]

theorem Withdrawn.read_index {root : List String} {name : String}
    (h : Withdrawn root disk name t t') (hroot : Path.place t.working disk.dir = root)
    (hl : t.Leads (bodiesPath disk.dir)) :
    t'.read (indexPath disk.dir) = t.read (indexPath disk.dir) := by
  have hdir : t.Leads disk.dir := Tree.Leads.of_join plain_bodies hl
  refine h.same.read hdir plain_indexName ?_
  rw [hroot]
  simp [drafts]

/-- The place of the index has the node that it had, and so has what is below it. -/
theorem Withdrawn.node?_index {root : List String} {name : String}
    (h : Withdrawn root disk name t t') (hroot : Path.place t.working disk.dir = root)
    {q : List String} (hq : Path.place t.working (indexPath disk.dir) <+: q) :
    t'.node? q = t.node? q := by
  rw [place_indexPath, hroot] at hq
  refine h.same.node? fun hm => ?_
  simp only [drafts, List.mem_cons, List.not_mem_nil, or_false] at hm
  rcases hm with rfl | rfl | rfl
  all_goals simp [List.prefix_append_right_inj] at hq

theorem known_of_opened {opened : DiskStore} (hl : t.Leads (bodiesPath disk.dir))
    (h : Opened Tree.exact disk.dir t (.ok opened) t₁) :
    opened.dir = disk.dir ∧ (opened.index = Table.empty ∨ Known disk t opened.index) := by
  cases h with
  | fresh => exact ⟨rfl, .inl rfl⟩
  | loaded hm hr hp =>
    obtain ⟨rfl, -⟩ := exact_createAll_of_leads hl hl hm
    exact ⟨rfl, .inr (.listed (exact_read hr).1 hp)⟩

/-- Where the body files of all that is known are read as before, so they are by a store that is
opened anew. -/
theorem opened_lookup_congr {opened : DiskStore} (hl : t.Leads (bodiesPath disk.dir))
    (hbody : ∀ index, Known disk t index → ∀ v entry, index.find? v = some entry →
      t'.read (disk.bodyPath entry.bodyFile) = t.read (disk.bodyPath entry.bodyFile))
    (ho : (t.run (openAt disk.dir).run).1 = .ok opened) (v : String) :
    t'.run (opened.lookup v).run = ((t.run (opened.lookup v).run).1, t') := by
  have hrun := runs_openAt_iff.1 (Tree.runs_exact_run (openAt disk.dir).run t)
  rw [ho] at hrun
  obtain ⟨hdir, hempty | hk⟩ := known_of_opened hl hrun
  all_goals refine lookup_congr fun entry hf => ?_
  · rw [hempty] at hf
    cases hf
  · rw [bodyPath, hdir]
    exact hbody _ hk v entry hf

/-- **A failed call to store changes nothing.** If it returns an error, whatever file operation
brought that about and whatever that operation left behind, then every lookup in the store, when
each entry was stored, how many there are, the file of the index, the store that is opened in the
directory, and every lookup in that one are as they were before the call. -/
theorem failed_store_unchanged {e : StoreError}
    (hwritten : ∀ index, Known disk t index → ∀ v entry, index.find? v = some entry →
      entry.Written v)
    (hfresh : ∀ index, Known disk t index → Fresh index [bodyName uri etag now disk.sequence])
    (h : Runs Tree.faulty (disk.store now uri etag body) t (disk', .error e) t') :
    Unchanged disk t disk' t' := by
  have hname := bodyName_bodyName uri etag now disk.sequence
  obtain ⟨⟨e', he⟩, hw⟩ | ⟨⟨notice, he⟩, -⟩ := stored_cases rfl (runs_store_iff.1 h)
  rotate_left
  · cases he
  obtain ⟨rfl, -⟩ := Prod.mk.inj he
  -- where no way leads to the body files, nothing has been written
  rcases hw.leads with rfl | hl
  · exact ⟨fun _ => rfl, fun _ => rfl, rfl, fun _ _ => rfl, rfl, fun _ _ _ => rfl⟩
  have hl' : t'.Leads (bodiesPath disk.dir) := hw.same.directories.leads hl
  have hbody : ∀ index, Known disk t index → ∀ v entry, index.find? v = some entry →
      t'.read (disk.bodyPath entry.bodyFile) = t.read (disk.bodyPath entry.bodyFile) := by
    intro index hk v entry hf
    have hne : entry.bodyFile ≠ bodyName uri etag now disk.sequence :=
      fun he => hfresh index hk v entry hf (List.mem_singleton.2 he)
    exact hw.read_body rfl hl hname (hwritten index hk v entry hf).bodyName hne
  have hopen := open_congr hl hl' (hw.read_index rfl hl)
  constructor
  case lookup =>
    intro v
    show (t'.run (disk.lookup v).run).1 = _
    rw [lookup_congr (hbody disk.index .held v)]
  case storedAt => exact fun _ => rfl
  case size => rfl
  case index => exact fun q hq => hw.node?_index rfl hq
  case opened => rw [hopen]
  case openedLookup =>
    intro opened ho v
    rw [hopen, open_congr hl hl rfl, opened_lookup_congr hl hbody ho]

end

/-! ### An index that cannot be written -/

namespace Blocked

open Overwritten

/-- The entry of the one response on record. -/
def entry : IndexEntry := ⟨"\"v1\"", bodyName "u" "\"v1\"" (clock 0) 0, clock 0⟩

def disk : DiskStore := ⟨"/cache", Table.empty.insert "u" entry, 1⟩

/-- The directory of the store, with a directory where the index is written first. -/
def tree : Tree where
  nodes := Table.ofList [(["cache"], .directory), (["cache", "bodies"], .directory),
    (["cache", "index.tmp"], .directory),
    (["cache", "index.json"], .file (Text.encode disk.index.text)),
    (["cache", "bodies", entry.bodyFile], .file (Text.encode "[1]"))]
  working := []

/-- Another response for the same URI. -/
def attempt : (DiskStore × Except StoreError (Option Notice)) × Tree :=
  tree.run (disk.store (clock 1) "u" "\"v2\"" "[2]")

theorem attempt_failed : attempt.1.2.isOk = false := by decide +kernel

theorem known_eq {index : Index} (h : Known disk tree index) : index = disk.index := by
  have hlocate : tree.locate (indexPath disk.dir) = .ok (["cache", "index.json"], false) :=
    eq_ok_of_toOption (by decide +kernel)
  have hfile : tree.file? ["cache", "index.json"] = some (Text.encode disk.index.text) := rfl
  cases h with
  | held => rfl
  | listed hr hp =>
    -- what is read is the text that was written
    have htext := Except.ok.inj ((Tree.read_eq_ok hlocate hfile).symm.trans hr)
    rw [← htext, Index.parse_text] at hp
    exact (Except.ok.inj hp).symm

theorem find?_index {v : String} {e : IndexEntry} (h : disk.index.find? v = some e) :
    v = "u" ∧ e = entry := by
  have hf := (Table.find?_insert _ _ _ _).symm.trans h
  split at hf
  · rename_i hv
    exact ⟨hv, (Option.some.inj hf).symm⟩
  · cases hf

theorem written : ∀ index, Known disk tree index → ∀ v e, index.find? v = some e →
    e.Written v := by
  intro index hk v e hf
  rw [known_eq hk] at hf
  obtain ⟨rfl, rfl⟩ := find?_index hf
  exact ⟨0, rfl⟩

theorem fresh : ∀ index, Known disk tree index →
    Fresh index [bodyName "u" "\"v2\"" (clock 1) disk.sequence] := by
  intro index hk v e hf
  rw [known_eq hk] at hf
  obtain ⟨-, rfl⟩ := find?_index hf
  decide +kernel

theorem failed_store_unchanged_blocked :
    attempt.1.2.isOk = false ∧ Unchanged disk tree attempt.1.1 attempt.2 := by
  have hruns := Tree.runs_faulty_run (disk.store (clock 1) "u" "\"v2\"" "[2]") tree
  have hfailed := attempt_failed
  change Runs Tree.faulty _ tree attempt.1 attempt.2 at hruns
  generalize attempt = z at hruns hfailed ⊢
  obtain ⟨⟨disk', e | notice⟩, t'⟩ := z
  · exact ⟨rfl, failed_store_unchanged written fresh hruns⟩
  · cases hfailed

end Blocked

end DiskStore

end ConditionalGet
