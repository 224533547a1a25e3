import ConditionalGet.Proofs.Store.IndexText
import ConditionalGet.Proofs.Store.Success
import ConditionalGet.Store.Memory

/-!
# A store in memory on disk

`Mirrors` relates a store on disk to a store in memory: their keys are the same, for each of them
the index names a file of its own that holds the body on record in memory, and the index itself is
on disk. What is done on disk keeps to it, if no file operation fails: storing
(`Mirrors.stored`), looking up (`Mirrors.lookedUp`) and opening the directory (`Mirrors.opened`).
None fails where there is room for the files (`Roomy`).
-/

set_option autoImplicit false

namespace ConditionalGet.DiskStore

open Program ConditionalGet.Path

/-! ## The relation -/

/-- What is on disk is what is on record in memory (module doc). -/
structure Mirrors (root : List String) (disk : DiskStore) (t : Tree) (memory : Memory) : Prop where
  place : Path.place t.working disk.dir = root
  leads : t.Leads (bodiesPath disk.dir)
  clean : '\x00' ∉ (lead disk.dir).toList
  keys : disk.index.keys = memory.keys
  bodies : ∀ uri entry r, disk.index.find? uri = some entry → memory.find? uri = some r →
    entry.etag = r.etag ∧ BodyName entry.bodyFile ∧
      t.file? (root ++ ["bodies", entry.bodyFile]) = some (Text.encode r.body)
  /-- No two entries share a body file. -/
  apart : ∀ uri uri' entry entry', disk.index.find? uri = some entry →
    disk.index.find? uri' = some entry' → entry.bodyFile = entry'.bodyFile → uri = uri'
  index : t.file? (root ++ ["index.json"]) = some (Text.encode disk.index.text) ∨
    t.file? (root ++ ["index.json"]) = none ∧ disk.index = Table.empty

/-- The body files that are still to be written are not listed. -/
def Fresh (index : Index) (names : List String) : Prop :=
  ∀ uri entry, index.find? uri = some entry → entry.bodyFile ∉ names

/-- The index of a store in a directory can be read if it is there. -/
structure Openable (t : Tree) (root : List String) (dir : String) : Prop where
  free : t.node? (root ++ ["index.json"]) ≠ some .directory
  short : (indexPath dir).utf8ByteSize ≤ Tree.longestPath

/-- There is room for the files of a store in a directory. -/
structure Roomy (t : Tree) (root : List String) (dir : String) : Prop where
  made : t.isDirectory root = true
  /-- The directory of the body files is the only one below it. -/
  bare : ∀ q, root <+: q → t.node? q = some .directory → q = root ∨ q = root ++ ["bodies"]
  /-- The longest path is that of a body file. -/
  short : (bodiesPath dir).utf8ByteSize + 70 ≤ Tree.longestPath

section
variable {root : List String} {disk : DiskStore} {t t' : Tree} {memory : Memory} {uri : String}

theorem Mirrors.leads_dir (h : Mirrors root disk t memory) : t.Leads disk.dir := by
  have hl : t.Leads (join disk.dir "bodies") := h.leads
  exact hl.of_join plain_bodies

theorem Mirrors.place_bodies (h : Mirrors root disk t memory) :
    Path.place t.working (bodiesPath disk.dir) = root ++ ["bodies"] := by
  rw [place_bodiesPath, h.place]

theorem Mirrors.clean_bodies (h : Mirrors root disk t memory) :
    '\x00' ∉ (lead (bodiesPath disk.dir)).toList := by
  rw [bodiesPath, lead_join _ plain_bodies, join_eq_lead_append _ plain_bodies.isAbsolute]
  simp only [String.toList_append, List.mem_append, h.clean, false_or]
  decide

/-- The same URIs are on record. -/
theorem Mirrors.find?_isSome (h : Mirrors root disk t memory) (uri : String) :
    (disk.index.find? uri).isSome = (memory.find? uri).isSome := by
  rw [Bool.eq_iff_iff, ← Table.mem_keys_iff, ← Table.mem_keys_iff, h.keys]

theorem Mirrors.found (h : Mirrors root disk t memory) {entry : IndexEntry}
    (hf : disk.index.find? uri = some entry) : ∃ r, memory.find? uri = some r ∧
      entry.etag = r.etag ∧ BodyName entry.bodyFile ∧
      t.file? (root ++ ["bodies", entry.bodyFile]) = some (Text.encode r.body) := by
  have hsome := h.find?_isSome uri
  rw [hf] at hsome
  obtain ⟨r, hr⟩ := Option.isSome_iff_exists.1 hsome.symm
  exact ⟨r, hr, h.bodies uri entry r hf hr⟩

theorem Mirrors.lookup_of_none (h : Mirrors root disk t memory)
    (hf : disk.index.find? uri = none) : memory.lookup uri = .miss := by
  have hsome := h.find?_isSome uri
  rw [hf] at hsome
  have hr : memory.find? uri = none := by simpa using hsome.symm
  rw [Memory.lookup, hr]

theorem lookup_of_some {r : CachedResponse}
    (hf : memory.find? uri = some r) : memory.lookup uri = .hit r := by
  rw [Memory.lookup, hf]

/-- The path of a body file is located if it is not too long. -/
theorem Mirrors.locate_body (h : Mirrors root disk t memory)
    (hshort : (bodiesPath disk.dir).utf8ByteSize + 70 ≤ Tree.longestPath) {name : String}
    (hname : BodyName name) :
    t.locate (disk.bodyPath name) = .ok (root ++ ["bodies", name], false) := by
  have hsize := hname.size_bodyPath disk
  have hlong : ¬Tree.longestPath < (join (bodiesPath disk.dir) name).utf8ByteSize := by
    rw [bodyPath] at hsize
    omega
  rw [bodyPath, Tree.locate_join h.leads hname.plain, if_neg h.clean_bodies, if_neg hlong,
    h.place_bodies, List.append_assoc]
  rfl

/-! ## Looking up -/

theorem Mirrors.lookedUp {x : Except StoreError Lookup} (h : Mirrors root disk t memory)
    (hl : LookedUp Tree.exact disk uri t x t') :
    t' = t ∧ ((∃ path fault, x = .error (.io path fault)) ∨ x = .ok (memory.lookup uri)) := by
  cases hl with
  | miss hf => exact ⟨rfl, .inr (by rw [h.lookup_of_none hf])⟩
  | @hit entry body _ _ hf hr =>
    obtain ⟨r, hm, hetag, hname, hfile⟩ := h.found hf
    obtain ⟨hread, rfl⟩ := exact_read hr
    obtain ⟨bytes, hbytes, hd⟩ := Tree.file_of_read hread
    rw [place_bodyPath _ _ hname, h.place, hfile] at hbytes
    cases hbytes
    rw [Text.decode?_encode] at hd
    cases hd
    exact ⟨rfl, .inr (by rw [lookup_of_some hm, hetag])⟩
  | gone hf hr =>
    obtain ⟨r, -, -, hname, hfile⟩ := h.found hf
    obtain ⟨hread, rfl⟩ := exact_read hr
    have hnone := Tree.file?_of_notFound h.leads hname.plain hread
    rw [h.place_bodies, List.append_assoc] at hnone
    cases hfile.symm.trans hnone
  | unread _ hr _ => exact ⟨(exact_read hr).2, .inl ⟨_, _, rfl⟩⟩

theorem Mirrors.lookedUp_succeeds {x : Except StoreError Lookup} (h : Mirrors root disk t memory)
    (hshort : ∀ entry, disk.index.find? uri = some entry →
      (bodiesPath disk.dir).utf8ByteSize + 70 ≤ Tree.longestPath)
    (hl : LookedUp Tree.exact disk uri t x t') : ∃ found, x = .ok found := by
  cases hl with
  | miss => exact ⟨_, rfl⟩
  | hit => exact ⟨_, rfl⟩
  | gone => exact ⟨_, rfl⟩
  | unread hf hr _ =>
    obtain ⟨r, -, -, hname, hfile⟩ := h.found hf
    have hread := Tree.read_eq_ok (h.locate_body (hshort _ hf) hname) hfile
    cases hread.symm.trans (exact_read hr).1

/-! ## Opening anew -/

/-- What is found in a directory that is opened: the index that is written there, or none. -/
def Finds (t : Tree) (root : List String) (index : Index) : Prop :=
  (∃ bytes text, t.file? (root ++ ["index.json"]) = some bytes ∧ Text.decode? bytes = some text ∧
      Index.parse text = .ok index) ∨
    t.file? (root ++ ["index.json"]) = none ∧ index = Table.empty

theorem finds_text {index : Index}
    (h : t.file? (root ++ ["index.json"]) = some (Text.encode index.text)) :
    Finds t root index :=
  .inl ⟨_, _, h, Text.decode?_encode _, Index.parse_text _⟩

theorem Mirrors.finds (h : Mirrors root disk t memory) : Finds t root disk.index := by
  rcases h.index with hfile | hnone
  · exact finds_text hfile
  · exact .inr hnone

section
variable {dir : String} {index : Index} (hplace : Path.place t.working dir = root)
  (h : Finds t root index)
include hplace h

theorem Finds.parse {text : String} (hread : t.read (indexPath dir) = .ok text) :
    Index.parse text = .ok index := by
  obtain ⟨bytes, hbytes, hd⟩ := Tree.file_of_read hread
  rw [place_indexPath, hplace] at hbytes
  obtain ⟨bytes', text', hfile, hd', hp⟩ | ⟨hfile, -⟩ := h
  · obtain rfl := Option.some.inj (hfile.symm.trans hbytes)
    obtain rfl := Option.some.inj (hd'.symm.trans hd)
    exact hp
  · cases hfile.symm.trans hbytes

theorem Finds.empty (hl : t.Leads dir) (hread : t.read (indexPath dir) = .error .notFound) :
    index = Table.empty := by
  have hnone := Tree.file?_of_notFound hl plain_indexName hread
  rw [hplace] at hnone
  obtain ⟨bytes, text, hfile, -⟩ | ⟨-, hempty⟩ := h
  · cases hfile.symm.trans hnone
  · exact hempty

end

/-- The directories that are made when the store is opened are there. -/
theorem Mirrors.exact_createAll (h : Mirrors root disk t memory) {r : Except IoFault Unit}
    (hm : Tree.exact t (.createAll (bodiesPath disk.dir)) r t') : t' = t := by
  have hmade := DiskStore.exact_createAll hm
  rw [bodiesPath, Tree.Leads.createAll plain_bodies h.leads] at hmade
  cases hmade
  rfl

theorem Mirrors.opened {x : Except StoreError DiskStore} (h : Mirrors root disk t memory)
    (ho : Opened Tree.exact disk.dir t x t') :
    t' = t ∧
      ((∃ path fault, x = .error (.io path fault)) ∨ x = .ok { disk with sequence := 0 }) := by
  cases ho with
  | unmade hm => exact ⟨h.exact_createAll hm, .inl ⟨_, _, rfl⟩⟩
  | fresh hm hr =>
    obtain rfl := h.exact_createAll hm
    obtain ⟨hread, rfl⟩ := exact_read hr
    have hempty := h.finds.empty h.place h.leads_dir hread
    exact ⟨rfl, .inr (by rw [hempty])⟩
  | unread hm hr _ =>
    obtain rfl := h.exact_createAll hm
    exact ⟨(exact_read hr).2, .inl ⟨_, _, rfl⟩⟩
  | corrupt hm hr hp =>
    obtain rfl := h.exact_createAll hm
    cases (h.finds.parse h.place (exact_read hr).1).symm.trans hp
  | loaded hm hr hp =>
    obtain rfl := h.exact_createAll hm
    obtain ⟨hread, rfl⟩ := exact_read hr
    obtain rfl := Except.ok.inj ((h.finds.parse h.place hread).symm.trans hp)
    exact ⟨rfl, .inr rfl⟩

/-! ## Room for the files -/

/-- Of what stands below the directory only that of the body files is one. -/
theorem Roomy.free {dir : String} (hroom : Roomy t root dir) {names : List String}
    (hne : names ≠ []) (hb : names ≠ ["bodies"]) : t.node? (root ++ names) ≠ some .directory := by
  intro hd
  rcases hroom.bare _ (List.prefix_append _ _) hd with h | h
  · exact hne (by simpa using h)
  · exact hb (List.append_cancel_left h)

theorem Roomy.size_indexPath {dir : String} (hroom : Roomy t root dir) :
    (join dir "index.json").utf8ByteSize ≤ Tree.longestPath ∧
      (join dir "index.tmp").utf8ByteSize ≤ Tree.longestPath := by
  have hshort := hroom.short
  have hjson : ("index.json" : String).utf8ByteSize = 10 := by decide
  have htmp : ("index.tmp" : String).utf8ByteSize = 9 := by decide
  rw [bodiesPath, size_join _ plain_bodies] at hshort
  rw [size_join _ plain_indexName, size_join _ plain_indexTemporary]
  omega

theorem Mirrors.replaceable_index (h : Mirrors root disk t memory)
    (hroom : Roomy t root disk.dir) : Replaceable t disk.dir "index.json" "index.tmp" where
  leads := h.leads_dir
  plain := plain_indexName
  plain_temp := plain_indexTemporary
  temporary_eq := temporary_indexPath disk.dir
  clean := h.clean
  short := hroom.size_indexPath.1
  short_temp := hroom.size_indexPath.2
  directory := by rw [h.place, hroom.made]
  free := by
    rw [h.place]
    exact hroom.free (by simp) (by simp)
  free_temp := by
    rw [h.place]
    exact hroom.free (by simp) (by simp)

theorem Mirrors.replaceable_body (h : Mirrors root disk t memory) (hroom : Roomy t root disk.dir)
    {name : String} (hname : BodyName name) :
    Replaceable t (bodiesPath disk.dir) name (temporaryName name) where
  leads := h.leads
  plain := hname.plain
  plain_temp := hname.plain_temporary
  temporary_eq := temporary_join _ hname.plain hname.plain_temporary
  clean := h.clean_bodies
  short := by
    have hsize := hname.size_bodyPath disk
    rw [bodyPath] at hsize
    rw [hsize]
    exact hroom.short
  short_temp := by
    have hshort := hroom.short
    have htmp : ("tmp" : String).utf8ByteSize = 3 := by decide
    rw [size_join _ hname.plain_temporary, bodiesPath, lead_join _ plain_bodies,
      String.utf8ByteSize_append, hname.temporary.utf8ByteSize]
    rw [bodiesPath] at hshort
    have hslash : ("/" : String).utf8ByteSize = 1 := by decide
    omega
  directory := by
    have hl : t.Leads (join disk.dir "bodies") := h.leads
    have hd := hl.directory plain_bodies
    rw [h.place_bodies, ← h.place, Tree.isDirectory, hd]
    rfl
  free := by
    rw [h.place_bodies, List.append_assoc]
    exact hroom.free (by simp) (by simp)
  free_temp := by
    rw [h.place_bodies, List.append_assoc]
    exact hroom.free (by simp) (by simp)

/-- Directories stay as they are, and so does the room. -/
theorem Roomy.of_sameDirectories {dir : String} (hroom : Roomy t root dir)
    (hs : Tree.SameDirectories t t') : Roomy t' root dir where
  made := by rw [hs.isDirectory, hroom.made]
  bare := fun q hq hd => hroom.bare q hq ((hs.directory q).1 hd)
  short := hroom.short

theorem Roomy.openable {dir : String} (hroom : Roomy t root dir) : Openable t root dir :=
  ⟨hroom.free (by simp) (by simp), hroom.size_indexPath.1⟩

/-- An index that is not read is not there. -/
theorem Mirrors.notFound_of_read (h : Mirrors root disk t memory)
    (ho : Openable t root disk.dir) {e : IoFault}
    (hread : t.read (indexPath disk.dir) = .error e) : e = .notFound := by
  have hlocate : t.locate (indexPath disk.dir) = .ok (root ++ ["index.json"], false) := by
    have hshort : ¬Tree.longestPath < (join disk.dir "index.json").utf8ByteSize :=
      Nat.not_lt.2 ho.short
    rw [indexPath, Tree.locate_join h.leads_dir plain_indexName, if_neg h.clean, if_neg hshort,
      h.place]
  rcases h.index with hfile | ⟨hfile, -⟩
  · cases (Tree.read_eq_ok hlocate hfile).symm.trans hread
  · have hnone := Tree.node?_eq_none hfile ho.free
    exact Except.error.inj (hread.symm.trans (Tree.read_eq_notFound hlocate hnone))

theorem Mirrors.opened_succeeds {x : Except StoreError DiskStore} (h : Mirrors root disk t memory)
    (hopen : Openable t root disk.dir) (ho : Opened Tree.exact disk.dir t x t') :
    ∃ disk', x = .ok disk' := by
  rcases (h.opened ho).2 with ⟨path, fault, he⟩ | hx
  · cases ho with
    | fresh => exact ⟨_, rfl⟩
    | loaded => exact ⟨_, rfl⟩
    | corrupt => cases he
    | unmade hm =>
      have hmade := DiskStore.exact_createAll hm
      have hshort : ¬Tree.longestPath < (join disk.dir "bodies").utf8ByteSize := by
        -- the path of the index is longer by four bytes
        have hindex := hopen.short
        have hjson : ("index.json" : String).utf8ByteSize = 10 := by decide
        have hbodies : ("bodies" : String).utf8ByteSize = 6 := by decide
        rw [indexPath, size_join _ plain_indexName] at hindex
        rw [size_join _ plain_bodies]
        omega
      rw [bodiesPath, Tree.Leads.createAll plain_bodies h.leads, if_neg h.clean,
        if_neg hshort] at hmade
      cases hmade
    | unread hm hr hne =>
      obtain rfl := h.exact_createAll hm
      exact absurd (h.notFound_of_read hopen (exact_read hr).1) hne
  · exact ⟨_, hx⟩

/-! ## Storing -/

section
variable {now : Instant} {etag body : String}

/-- The entries keep apart if the new one has a body file of its own. -/
theorem Mirrors.apart_recorded (h : Mirrors root disk t memory)
    (hfresh : Fresh disk.index [bodyName uri etag now disk.sequence]) :
    ∀ u u' entry entry', (disk.recorded now uri etag).index.find? u = some entry →
      (disk.recorded now uri etag).index.find? u' = some entry' →
      entry.bodyFile = entry'.bodyFile → u = u' := by
  intro u u' entry entry' hf hf' he
  rw [find?_recorded] at hf hf'
  split at hf
  · rename_i hu
    split at hf'
    · rename_i hu'
      rw [hu, hu']
    · cases hf
      exact absurd (List.mem_singleton.2 he.symm) (hfresh _ _ hf')
  · split at hf'
    · cases hf'
      exact absurd (List.mem_singleton.2 he) (hfresh _ _ hf)
    · exact h.apart _ _ _ _ hf hf' he

/-- The body files on record are none that a call with a name of its own writes to. -/
theorem Mirrors.not_mem_drafts (h : Mirrors root disk t memory) {name : String}
    (hname : BodyName name) (hfresh : Fresh disk.index [name]) {u : String} {entry : IndexEntry}
    (hf : disk.index.find? u = some entry) :
    root ++ ["bodies", entry.bodyFile] ∉ drafts root name := by
  obtain ⟨-, -, -, hentry, -⟩ := h.found hf
  have htemp : entry.bodyFile ≠ temporaryName name := (hname.temporary_ne hentry).symm
  have hnew : entry.bodyFile ≠ name := fun he => hfresh _ _ hf (List.mem_singleton.2 he)
  simp [drafts, htemp, hnew]

/-- The files on record are all that counts. -/
theorem Mirrors.of_sameBut (h : Mirrors root disk t memory) {places : List (List String)}
    (hs : Tree.SameBut places t t') (hindex : root ++ ["index.json"] ∉ places)
    (hbodies : ∀ u entry, disk.index.find? u = some entry →
      root ++ ["bodies", entry.bodyFile] ∉ places) : Mirrors root disk t' memory where
  place := by rw [hs.directories.working, h.place]
  leads := hs.directories.leads h.leads
  clean := h.clean
  keys := h.keys
  bodies := by
    intro u entry r hu hr
    rw [hs.file _ (hbodies u entry hu)]
    exact h.bodies u entry r hu hr
  apart := h.apart
  index := by
    rw [hs.file _ hindex]
    exact h.index

/-- The same store, but that it counts anew. -/
theorem Mirrors.recount (h : Mirrors root disk t memory) (sequence : UInt64) :
    Mirrors root { disk with sequence := sequence } t memory :=
  ⟨h.place, h.leads, h.clean, h.keys, h.bodies, h.apart, h.index⟩

/-- A response that is published is on record. -/
theorem Mirrors.published (h : Mirrors root disk t memory)
    (hfresh : Fresh disk.index [bodyName uri etag now disk.sequence])
    (hp : Published root disk (bodyName uri etag now disk.sequence) body
      (disk.listing now uri etag).text t t') :
    Mirrors root (disk.recorded now uri etag) t' (memory.store uri etag body) where
  place := by rw [hp.same.directories.working]; exact h.place
  leads := hp.same.directories.leads h.leads
  clean := h.clean
  keys := by rw [recorded, listing, Memory.store, Table.keys_insert, Table.keys_insert, ← h.keys]
  bodies := by
    intro u entry r hu hr
    have hname := bodyName_bodyName uri etag now disk.sequence
    rw [find?_recorded] at hu
    rw [Memory.store, Table.find?_insert] at hr
    by_cases huri : u = uri
    · rw [if_pos huri] at hu hr
      cases hu
      cases hr
      exact ⟨rfl, hname, hp.body⟩
    · rw [if_neg huri] at hu hr
      obtain ⟨hetag, hentry, hfile⟩ := h.bodies u entry r hu hr
      have hkept := h.not_mem_drafts hname hfresh hu
      refine ⟨hetag, hentry, ?_⟩
      rw [hp.same.file _ (by simpa using hkept), hfile]
  apart := h.apart_recorded hfresh
  index := .inl hp.index

/-- What becomes of the record when a response is stored, whatever fails. -/
theorem Mirrors.stored {y : DiskStore × Except StoreError (Option Notice)}
    (h : Mirrors root disk t memory)
    (hfresh : Fresh disk.index [bodyName uri etag now disk.sequence])
    (hstored : Stored Tree.faulty disk now uri etag body t y t') :
    Tree.SameDirectories t t' ∧
      (((∃ e, y = (disk.counted, .error e)) ∧ Mirrors root disk.counted t' memory) ∨
        (∃ notice, y = (disk.recorded now uri etag, .ok notice)) ∧
          (bodiesPath disk.dir).utf8ByteSize + 70 ≤ Tree.longestPath ∧
          Mirrors root (disk.recorded now uri etag) t' (memory.store uri etag body)) := by
  have hname := bodyName_bodyName uri etag now disk.sequence
  obtain ⟨he, hw⟩ | ⟨hy, t₁, hp, hlast⟩ := stored_cases h.place hstored
  · refine ⟨hw.same.directories, .inl ⟨he, ?_⟩⟩
    have hsame := h.of_sameBut hw.same (by simp [drafts]) fun u entry hu =>
      h.not_mem_drafts hname hfresh hu
    exact hsame.recount _
  have hpublished := h.published hfresh hp
  have hsize := hp.size
  rw [hname.size_bodyPath] at hsize
  rcases hlast with rfl | ⟨previous, r, hprevious, hr⟩
  · exact ⟨hp.same.directories, .inr ⟨hy, hsize, hpublished⟩⟩
  -- the body file that is removed is none of those on record now
  obtain ⟨-, -, -, hentry, -⟩ := h.found hprevious
  have hremoved := Tree.sameBut_of_faulty_remove hr
  rw [place_bodyPath _ _ hentry, hp.same.directories.working, h.place] at hremoved
  refine ⟨hp.same.directories.trans hremoved.directories, .inr ⟨hy, hsize, ?_⟩⟩
  refine hpublished.of_sameBut hremoved (by simp) fun u entry hu hm => ?_
  have hsame : entry.bodyFile = previous.bodyFile := by simpa using hm
  rw [find?_recorded] at hu
  split at hu
  · cases hu
    exact hfresh _ _ hprevious (List.mem_singleton.2 hsame.symm)
  · rename_i huri
    exact huri (h.apart _ _ _ _ hu hprevious hsame)

theorem Mirrors.stored_succeeds {y : DiskStore × Except StoreError (Option Notice)}
    (h : Mirrors root disk t memory) (hroom : Roomy t root disk.dir)
    (hstored : Stored Tree.exact disk now uri etag body t y t') : ∃ notice, y.2 = .ok notice :=
  Stored.succeeds (h.replaceable_body hroom (bodyName_bodyName uri etag now disk.sequence))
    (h.replaceable_index hroom) hstored

end

end

end ConditionalGet.DiskStore
