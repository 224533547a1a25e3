import ConditionalGet.Proofs.Store.Cleaning
import ConditionalGet.Proofs.Store.Provenance
import ConditionalGet.Proofs.Store.Refinement
import ConditionalGet.Proofs.Store.Reopening
import Mathlib.Data.List.Nodup

/-!
# The body files of a directory

One store at a time works in a directory that was empty at first (`Tenancy.Step`). Writing may fail
for want of room, and whatever is not below `bodies` may be changed from outside, also the index;
only, the directory is opened anew while the file of the index is as the store has written it. The
index then lists, for each URI, the last call that succeeded, and the body files are those of these
calls (`Inventory`). So nothing is left over and nothing is missing (`Tenancy.inventory`).
-/

set_option autoImplicit false

namespace ConditionalGet

open DiskStore ConditionalGet.Path

/-! ## Body files -/

/-- The names of the files that stand in a directory. -/
def Tree.filesIn (t : Tree) (directory : List String) : List String :=
  t.nodes.keys.filterMap fun place =>
    if place.dropLast = directory ∧ (t.file? place).isSome then place.getLast? else none

/-- Whether a name has the extension of body files. -/
def isBodyFile (name : String) : Bool :=
  String.ofList (nameWithExtension name.toList "json".toList) = name

/-- The names of the body files below a directory. -/
def Tree.bodyFiles (t : Tree) (root : List String) : List String :=
  (t.filesIn (root ++ ["bodies"])).filter isBodyFile

theorem Tree.mem_filesIn {t : Tree} {directory : List String} {name : String} :
    name ∈ t.filesIn directory ↔ (t.file? (directory ++ [name])).isSome := by
  simp only [filesIn, List.mem_filterMap, Option.ite_none_right_eq_some]
  constructor
  · rintro ⟨place, -, ⟨rfl, hfile⟩, hlast⟩
    rw [List.dropLast_append_getLast? name hlast]
    exact hfile
  · intro hfile
    refine ⟨directory ++ [name], ?_, ⟨by simp, hfile⟩, by simp⟩
    obtain ⟨bytes, hb⟩ := Option.isSome_iff_exists.1 hfile
    have hnode := file?_eq_some_iff.1 hb
    rw [node?, if_neg (by simp)] at hnode
    rw [Table.mem_keys_iff, hnode]
    rfl

theorem Tree.nodup_filesIn (t : Tree) (directory : List String) :
    (t.filesIn directory).Nodup := by
  refine List.Nodup.filterMap (fun p q name hp hq => ?_) t.nodes.nodup
  simp only [Option.mem_def, Option.ite_none_right_eq_some] at hp hq
  rw [← List.dropLast_append_getLast? name hp.2, ← List.dropLast_append_getLast? name hq.2,
    hp.1.1, hq.1.1]

namespace DiskStore

theorem DigestName.isBodyFile_iff {name extension : String} (h : DigestName name extension)
    (hpoint : '.' ∉ extension.toList) : isBodyFile name = true ↔ extension = "json" := by
  obtain ⟨stem, rfl, hlen, -⟩ := h
  have hstem : stem ≠ [] := by
    rintro rfl
    cases hlen
  rw [isBodyFile, String.toList_ofList, nameWithExtension_append hstem hpoint, decide_eq_true_eq,
    String.ofList_inj, List.append_cancel_left_eq, List.cons.injEq, String.toList_inj]
  simp [eq_comm]

theorem BodyName.isBodyFile {name : String} (h : BodyName name) : isBodyFile name = true :=
  (DigestName.isBodyFile_iff h (by decide)).2 rfl

theorem BodyName.ne_temporary {name other : String} (h : BodyName name)
    (hother : ConditionalGet.isBodyFile other = true) : other ≠ temporaryName name := by
  rintro rfl
  exact absurd ((h.temporary.isBodyFile_iff (by decide)).1 hother) (by decide)

end DiskStore

/-! ## What is listed and what is there -/

/-- What an index says of a call. -/
def StoreCall.entry (c : StoreCall) : IndexEntry := ⟨c.etag, c.bodyFile, c.now⟩

/-- The last call for a URI that succeeded. -/
def lastStored? (calls : List StoreCall) (uri : String) : Option StoreCall :=
  calls.reverse.find? fun c => c.succeeded && c.uri = uri

theorem lastStored?_append (calls : List StoreCall) (c : StoreCall) (uri : String) :
    lastStored? (calls ++ [c]) uri =
      if c.succeeded && c.uri = uri then some c else lastStored? calls uri := by
  simp only [lastStored?, List.reverse_append, List.reverse_singleton, List.singleton_append,
    List.find?_cons]
  cases hc : c.succeeded && decide (c.uri = uri) <;> simp

theorem lastStored?_eq_some {calls : List StoreCall} {uri : String} {c : StoreCall}
    (h : lastStored? calls uri = some c) : c ∈ calls ∧ c.succeeded = true ∧ c.uri = uri := by
  have hm := List.mem_of_find?_eq_some h
  have hc := List.find?_some h
  rw [Bool.and_eq_true, decide_eq_true_eq] at hc
  exact ⟨List.mem_reverse.1 hm, hc⟩

/-- An index lists the last calls, and their files are the body files (module doc). -/
structure Inventory (root : List String) (calls : List StoreCall) (index : Index) (t : Tree) :
    Prop where
  listed : ∀ uri, index.find? uri = (lastStored? calls uri).map StoreCall.entry
  held : ∀ uri c, lastStored? calls uri = some c →
    t.file? (root ++ ["bodies", c.bodyFile]) = some (Text.encode c.body)
  used : ∀ name bytes, isBodyFile name = true → t.file? (root ++ ["bodies", name]) = some bytes →
    ∃ uri c, lastStored? calls uri = some c ∧ c.bodyFile = name

section
variable {root : List String} {calls : List StoreCall} {index : Index} {t t' : Tree}
  {disk : DiskStore} {now : Instant} {uri etag body : String}

theorem Inventory.congr (h : Inventory root calls index t)
    (hfile : ∀ name, t'.file? (root ++ ["bodies", name]) = t.file? (root ++ ["bodies", name])) :
    Inventory root calls index t' := by
  refine ⟨h.listed, fun uri c hc => ?_, fun name bytes hname hb => ?_⟩
  · rw [hfile]
    exact h.held uri c hc
  · rw [hfile] at hb
    exact h.used name bytes hname hb

theorem inventory_vacant (h : t.Vacant root) : Inventory root [] Table.empty t where
  listed := fun _ => rfl
  held := fun _ _ hc => nomatch hc
  used := by
    intro name bytes _ hb
    have hnone := h (root ++ ["bodies", name]) (List.prefix_append _ _) (by simp)
    rw [Tree.file?, hnone] at hb
    cases hb

/-- A call that fails and clears away its body file. -/
theorem Inventory.failed (h : Inventory root calls index t) {c : StoreCall}
    (hc : c.succeeded = false) (hfresh : ∀ c' ∈ calls, c'.bodyFile ≠ c.bodyFile)
    (hcleared : Cleared root c.bodyFile t t') : Inventory root (calls ++ [c]) index t' := by
  have hlatest : ∀ uri, lastStored? (calls ++ [c]) uri = lastStored? calls uri := by
    intro uri
    rw [lastStored?_append, hc]
    rfl
  refine ⟨fun uri => by rw [hlatest, h.listed], fun uri c' hc' => ?_, fun name bytes hname hb => ?_⟩
  · rw [hlatest] at hc'
    have hbody := c'.bodyName_bodyFile
    obtain hsame | ⟨hnew, -⟩ :=
      hcleared.bodies c'.bodyFile (c.bodyName_bodyFile.ne_temporary hbody.isBodyFile)
    · rw [hsame]
      exact h.held uri c' hc'
    · exact absurd hnew (hfresh c' (lastStored?_eq_some hc').1)
  · obtain hsame | ⟨-, hnone⟩ :=
      hcleared.bodies name (c.bodyName_bodyFile.ne_temporary hname)
    · rw [hsame] at hb
      obtain ⟨uri, c', hc', hn⟩ := h.used name bytes hname hb
      exact ⟨uri, c', (hlatest uri).trans hc', hn⟩
    · rw [hnone] at hb
      cases hb

/-- No two URIs have the same body file on record. -/
theorem uri_eq_of_bodyFile_eq (hnames : (calls.map StoreCall.bodyFile).Nodup) {uri uri' : String}
    {c c' : StoreCall} (hc : lastStored? calls uri = some c)
    (hc' : lastStored? calls uri' = some c')
    (h : c.bodyFile = c'.bodyFile) : uri = uri' := by
  obtain ⟨hm, -, rfl⟩ := lastStored?_eq_some hc
  obtain ⟨hm', -, rfl⟩ := lastStored?_eq_some hc'
  rw [List.inj_on_of_nodup_map hnames hm hm' h]

/-- A call that succeeds replaces the body file of the call before it. -/
theorem Inventory.stored (h : Inventory root calls disk.index t)
    (hnames : (calls.map StoreCall.bodyFile).Nodup)
    (hfresh : ∀ c ∈ calls, c.bodyFile ≠ bodyName uri etag now disk.sequence)
    (hsettled : Settled root disk now uri etag body t t') :
    Inventory root (calls ++ [⟨uri, etag, body, now, disk.sequence, true⟩])
      (disk.recorded now uri etag).index t' := by
  have hname := bodyName_bodyName uri etag now disk.sequence
  have hlatest : ∀ u, lastStored? (calls ++ [⟨uri, etag, body, now, disk.sequence, true⟩]) u =
      if uri = u then some ⟨uri, etag, body, now, disk.sequence, true⟩
      else lastStored? calls u := by
    intro u
    simp [lastStored?_append]
  have hreplaced : disk.replaced? uri = (lastStored? calls uri).map StoreCall.bodyFile := by
    rw [replaced?, h.listed, Option.map_map]
    rfl
  refine ⟨fun u => ?_, fun u c hc => ?_, fun name bytes hbody hb => ?_⟩
  · rw [find?_recorded, hlatest]
    by_cases hu : u = uri
    · rw [if_pos hu, if_pos hu.symm]
      rfl
    · rw [if_neg hu, if_neg (Ne.symm hu), h.listed]
  · rw [hlatest] at hc
    rw [hsettled.bodies _ (hname.ne_temporary c.bodyName_bodyFile.isBodyFile)]
    split at hc
    · cases hc
      rw [if_pos (by rfl)]
    · rename_i hu
      -- the file that is removed belongs to the call before for another URI
      have hkept : disk.replaced? uri ≠ some c.bodyFile := by
        intro hr
        rw [hreplaced, Option.map_eq_some_iff] at hr
        obtain ⟨c', hc', he⟩ := hr
        exact hu (uri_eq_of_bodyFile_eq hnames hc' hc he)
      rw [if_neg (hfresh c (lastStored?_eq_some hc).1), if_neg hkept]
      exact h.held u c hc
  · rw [hsettled.bodies _ (hname.ne_temporary hbody)] at hb
    split at hb
    · rename_i hnew
      exact ⟨uri, ⟨uri, etag, body, now, disk.sequence, true⟩, (hlatest uri).trans (if_pos rfl),
        hnew.symm⟩
    split at hb
    · cases hb
    · rename_i hold
      obtain ⟨u, c, hc, rfl⟩ := h.used name bytes hbody hb
      have hu : uri ≠ u := by
        rintro rfl
        rw [hreplaced, hc] at hold
        exact hold rfl
      exact ⟨u, c, by rw [hlatest, if_neg hu, hc], rfl⟩

theorem Inventory.entry_held (h : Inventory root calls index t) (uri : String)
    (entry : IndexEntry) (hf : index.find? uri = some entry) :
    ∃ c, lastStored? calls uri = some c ∧ entry = c.entry ∧
      t.file? (root ++ ["bodies", entry.bodyFile]) = some (Text.encode c.body) := by
  rw [h.listed, Option.map_eq_some_iff] at hf
  obtain ⟨c, hc, rfl⟩ := hf
  exact ⟨c, hc, rfl, h.held uri c hc⟩

theorem Inventory.apart (h : Inventory root calls index t)
    (hnames : (calls.map StoreCall.bodyFile).Nodup) (uri uri' : String)
    (entry entry' : IndexEntry) (hf : index.find? uri = some entry)
    (hf' : index.find? uri' = some entry') (he : entry.bodyFile = entry'.bodyFile) :
    uri = uri' := by
  obtain ⟨c, hc, rfl, -⟩ := h.entry_held uri entry hf
  obtain ⟨c', hc', rfl, -⟩ := h.entry_held uri' entry' hf'
  exact uri_eq_of_bodyFile_eq hnames hc hc' he

theorem Inventory.mem_bodyFiles (h : Inventory root calls index t) (name : String) :
    name ∈ t.bodyFiles root ↔
      ∃ uri entry, index.find? uri = some entry ∧ entry.bodyFile = name := by
  rw [Tree.bodyFiles, List.mem_filter, Tree.mem_filesIn, Option.isSome_iff_exists,
    List.append_assoc]
  constructor
  · rintro ⟨⟨bytes, hb⟩, hname⟩
    obtain ⟨uri, c, hc, rfl⟩ := h.used name bytes hname hb
    exact ⟨uri, c.entry, by rw [h.listed, hc]; rfl, rfl⟩
  · rintro ⟨uri, entry, hf, rfl⟩
    obtain ⟨c, -, rfl, hfile⟩ := h.entry_held uri entry hf
    exact ⟨⟨_, hfile⟩, c.bodyName_bodyFile.isBodyFile⟩

/-- The body files are those of the entries, each of one. -/
theorem Inventory.bodyFiles_perm (h : Inventory root calls index t)
    (hnames : (calls.map StoreCall.bodyFile).Nodup) :
    (t.bodyFiles root).Perm ((Table.entries index).map fun e => e.2.bodyFile) := by
  have hnodup : ((Table.entries index).map fun e => e.2.bodyFile).Nodup := by
    refine (List.Nodup.of_map _ index.nodup).map_on ?_
    rintro ⟨uri, entry⟩ hm ⟨uri', entry'⟩ hm' he
    have hf := (Table.mem_entries_iff index uri entry).1 hm
    have hf' := (Table.mem_entries_iff index uri' entry').1 hm'
    obtain rfl := h.apart hnames uri uri' entry entry' hf hf' he
    rw [Option.some.inj (hf.symm.trans hf')]
  refine (List.perm_ext_iff_of_nodup ((t.nodup_filesIn _).filter _) hnodup).2 fun name => ?_
  rw [← Tree.bodyFiles, h.mem_bodyFiles]
  simp [Table.mem_entries_iff]

end

/-! ## One store at a time -/

/-- Opening that succeeds is opening to which nothing has happened. -/
theorem DiskStore.Opened.exact_of_cramped {dir : String} {disk : DiskStore} {t t' : Tree}
    (h : Opened Tree.cramped dir t (.ok disk) t') : Opened Tree.exact dir t (.ok disk) t' := by
  have hmade : ∀ {t₁},
      Tree.cramped t (.createAll (bodiesPath dir)) (.ok () : Except IoFault Unit) t₁ →
        Tree.exact t (.createAll (bodiesPath dir)) (.ok () : Except IoFault Unit) t₁ :=
    fun hm => hm.resolve_right fun ⟨_, _, he, _⟩ => nomatch he
  cases h with
  | fresh hm hr => exact .fresh (hmade hm) (Tree.exact_of_cramped id hr)
  | loaded hm hr hi => exact .loaded (hmade hm) (Tree.exact_of_cramped id hr) hi

/-- A directory with the store that works in it, if one is open. -/
structure Tenancy where
  tree : Tree
  handle? : Option DiskStore
  /-- The file of the index as a store has last written it. -/
  written? : Option ByteArray
  calls : List StoreCall

namespace Tenancy

/-- Before any store is open. -/
def start (t : Tree) : Tenancy := ⟨t, none, none, []⟩

/-- What may happen in and around the directory at `root` (module doc). -/
inductive Step (root : List String) : Tenancy → Tenancy → Prop
  /-- A store that was open before is not used any more. -/
  | opened {d : Tenancy} {dir : String} {handle : DiskStore} {t' : Tree} :
      Path.place d.tree.working dir = root →
      d.tree.file? (root ++ ["index.json"]) = d.written? →
      Program.Runs Tree.cramped (openAt dir).run d.tree (.ok handle) t' →
      Step root d { d with tree := t', handle? := some handle }
  | unopened {d : Tenancy} {dir : String} {e : StoreError} {t' : Tree} :
      Path.place d.tree.working dir = root →
      Program.Runs Tree.cramped (openAt dir).run d.tree (.error e) t' →
      Step root d { d with tree := t' }
  | stored {d : Tenancy} {handle handle' : DiskStore} {now : Instant} {uri etag body : String}
      {result : Except StoreError (Option Notice)} {t' : Tree} : d.handle? = some handle →
      Program.Runs Tree.cramped (handle.store now uri etag body) d.tree (handle', result) t' →
      Step root d ⟨t', some handle',
        if result.isOk then t'.file? (root ++ ["index.json"]) else d.written?,
        d.calls ++ [⟨uri, etag, body, now, handle.sequence, result.isOk⟩]⟩
  | lookedUp {d : Tenancy} {handle : DiskStore} {uri : String}
      {result : Except StoreError Lookup} {t' : Tree} : d.handle? = some handle →
      Program.Runs Tree.cramped (handle.lookup uri).run d.tree result t' →
      Step root d { d with tree := t' }
  /-- Something is changed from outside, but nothing at or below `bodies`. -/
  | elsewhere {d : Tenancy} {t' : Tree} : t'.working = d.tree.working →
      (∀ q, root ++ ["bodies"] <+: q → t'.node? q = d.tree.node? q) →
      Step root d { d with tree := t' }

/-- What can come of a state. -/
inductive Reachable (root : List String) (d : Tenancy) : Tenancy → Prop
  | here : Reachable root d d
  | next {d' d'' : Tenancy} : Reachable root d d' → Step root d' d'' → Reachable root d d''

/-- Between two steps, the index of the store is the one that was written last, and an inventory of
the body files. -/
structure Sound (root : List String) (d : Tenancy) (index : Index) : Prop where
  inventory : Inventory root d.calls index d.tree
  handle : ∀ handle, d.handle? = some handle →
    Path.place d.tree.working handle.dir = root ∧ handle.index = index
  written : d.written? = some (Text.encode index.text) ∨ d.written? = none ∧ index = Table.empty

section
variable {root : List String} {d d' : Tenancy} {index : Index}

theorem sound_start {t : Tree} (h : t.Vacant root) : Sound root (start t) Table.empty where
  inventory := inventory_vacant h
  handle := fun _ hh => nomatch hh
  written := .inr ⟨rfl, rfl⟩

/-- What leaves the body files alone does no harm. -/
theorem Sound.of_files {t' : Tree} (h : Sound root d index) (hw : t'.working = d.tree.working)
    (hf : ∀ name, t'.file? (root ++ ["bodies", name]) = d.tree.file? (root ++ ["bodies", name])) :
    Sound root { d with tree := t' } index where
  inventory := h.inventory.congr hf
  handle := by
    intro handle hh
    show Path.place t'.working handle.dir = root ∧ _
    rw [hw]
    exact h.handle handle hh
  written := h.written

/-- A store that is opened has the index that was written last. -/
theorem Sound.opened {dir : String} {handle : DiskStore} {t' : Tree} (h : Sound root d index)
    (hplace : Path.place d.tree.working dir = root)
    (hindex : d.tree.file? (root ++ ["index.json"]) = d.written?)
    (hr : Program.Runs Tree.cramped (openAt dir).run d.tree (.ok handle) t') :
    Sound root { d with tree := t', handle? := some handle } index := by
  obtain ⟨hw, hf, -⟩ := opened_faulty
    (runs_openAt_iff.1 (hr.mono fun _ _ _ _ => Tree.faulty_of_cramped))
  obtain ⟨rfl, hfinds⟩ := finds_of_opened (Opened.exact_of_cramped (runs_openAt_iff.1 hr))
  rw [hw, hplace, Finds, hf, hindex] at hfinds
  have hsame : handle.index = index := by
    obtain ⟨bytes, text, hb, hd, hp⟩ | ⟨hnone, hempty⟩ := hfinds
    · obtain hwritten | ⟨hwritten, -⟩ := h.written
      · rw [← Option.some.inj (hwritten.symm.trans hb), Text.decode?_encode] at hd
        rw [← Option.some.inj hd, Index.parse_text] at hp
        exact (Except.ok.inj hp).symm
      · cases hwritten.symm.trans hb
    · obtain hwritten | ⟨-, hempty'⟩ := h.written
      · cases hwritten.symm.trans hnone
      · rw [hempty, hempty']
  refine ⟨h.inventory.congr fun name => hf _, fun handle' hh => ?_, h.written⟩
  cases hh
  exact ⟨by rw [hw, hplace], hsame⟩

/-- A call to store brings the index up to date. -/
theorem Sound.stored {handle handle' : DiskStore} {now : Instant} {uri etag body : String}
    {result : Except StoreError (Option Notice)} {t' : Tree} (h : Sound root d index)
    (hnames : (List.map StoreCall.bodyFile
      (d.calls ++ [⟨uri, etag, body, now, handle.sequence, result.isOk⟩])).Nodup)
    (hh : d.handle? = some handle)
    (hs : Stored Tree.cramped handle now uri etag body d.tree (handle', result) t') :
    Sound root ⟨t', some handle',
      if result.isOk then t'.file? (root ++ ["index.json"]) else d.written?,
      d.calls ++ [⟨uri, etag, body, now, handle.sequence, result.isOk⟩]⟩ handle'.index := by
  obtain ⟨hplace, rfl⟩ := h.handle handle hh
  rw [List.map_append, List.nodup_append] at hnames
  have hfresh : ∀ c ∈ d.calls, c.bodyFile ≠ bodyName uri etag now handle.sequence :=
    fun c hc he => hnames.2.2 _ (List.mem_map_of_mem hc) _ (List.mem_singleton.2 rfl) he
  have hprevious : ∀ previous, handle.index.find? uri = some previous →
      BodyName previous.bodyFile ∧ previous.bodyFile ≠ bodyName uri etag now handle.sequence := by
    intro previous hf
    rw [h.inventory.listed, Option.map_eq_some_iff] at hf
    obtain ⟨c, hc, rfl⟩ := hf
    exact ⟨c.bodyName_bodyFile, hfresh c (lastStored?_eq_some hc).1⟩
  obtain ⟨⟨e, he⟩, hcleared⟩ | ⟨⟨notice, he⟩, hsettled⟩ := stored_bodies hplace hprevious hs
  · obtain ⟨rfl, rfl⟩ := Prod.mk.inj he
    refine ⟨h.inventory.failed rfl hfresh hcleared, fun handle' hh' => ?_, h.written⟩
    cases hh'
    exact ⟨by rw [hcleared.directories.working]; exact hplace, rfl⟩
  · obtain ⟨rfl, rfl⟩ := Prod.mk.inj he
    refine ⟨h.inventory.stored hnames.1 hfresh hsettled, fun handle' hh' => ?_,
      .inl hsettled.index⟩
    cases hh'
    exact ⟨by rw [hsettled.directories.working]; exact hplace, rfl⟩

theorem Step.sound (hstep : Step root d d') (h : Sound root d index)
    (hnames : (d'.calls.map StoreCall.bodyFile).Nodup) : ∃ index', Sound root d' index' := by
  cases hstep with
  | opened hplace hindex hr => exact ⟨index, h.opened hplace hindex hr⟩
  | unopened _ hr =>
    obtain ⟨hw, hf, -⟩ := opened_faulty
      (runs_openAt_iff.1 (hr.mono fun _ _ _ _ => Tree.faulty_of_cramped))
    exact ⟨index, h.of_files hw fun name => hf _⟩
  | stored hh hr => exact ⟨_, h.stored hnames hh (runs_store_iff.1 hr)⟩
  | lookedUp _ hr =>
    obtain ⟨rfl, -⟩ := lookedUp_faulty
      (runs_lookup_iff.1 (hr.mono fun _ _ _ _ => Tree.faulty_of_cramped))
    exact ⟨index, h⟩
  | elsewhere hw hn =>
    exact ⟨index, h.of_files hw fun name => Tree.file?_congr (hn _ (by simp))⟩

/-- Calls are only added. -/
theorem Step.calls (hstep : Step root d d') : d.calls <+: d'.calls := by
  cases hstep with
  | stored => exact List.prefix_append _ _
  | _ => exact List.prefix_rfl

theorem Reachable.sound {t : Tree} (hvacant : t.Vacant root) (h : Reachable root (start t) d)
    (hnames : (d.calls.map StoreCall.bodyFile).Nodup) : ∃ index, Sound root d index := by
  induction h with
  | here => exact ⟨_, sound_start hvacant⟩
  | next _ hstep ih =>
    obtain ⟨index, hsound⟩ := ih ((hstep.calls.sublist.map _).nodup hnames)
    exact hstep.sound hsound hnames

/-- **No body file is left over, shared or missing.** Whatever calls were made through one store at
a time in a directory that was empty at first, wherever room was short and whatever was changed
outside of `bodies`: the body files are those that the index names, different ones for different
URIs, each holds the body of the call that made its entry, and there are as many as entries. -/
theorem inventory {t : Tree} (hvacant : t.Vacant root) (hreach : Reachable root (start t) d)
    (hnames : (d.calls.map StoreCall.bodyFile).Nodup) {handle : DiskStore}
    (hh : d.handle? = some handle) :
    (∀ name, name ∈ d.tree.bodyFiles root ↔
      ∃ uri entry, handle.index.find? uri = some entry ∧ entry.bodyFile = name) ∧
    (∀ uri uri' entry entry', handle.index.find? uri = some entry →
      handle.index.find? uri' = some entry' → entry.bodyFile = entry'.bodyFile → uri = uri') ∧
    (∀ uri entry, handle.index.find? uri = some entry →
      ∃ c, lastStored? d.calls uri = some c ∧ entry = c.entry ∧
        d.tree.file? (root ++ ["bodies", entry.bodyFile]) = some (Text.encode c.body)) ∧
    (d.tree.bodyFiles root).length = handle.size := by
  obtain ⟨index, hsound⟩ := hreach.sound hvacant hnames
  obtain ⟨-, rfl⟩ := hsound.handle handle hh
  have hinventory := hsound.inventory
  exact ⟨hinventory.mem_bodyFiles, hinventory.apart hnames, hinventory.entry_held,
    (hinventory.bodyFiles_perm hnames).length_eq.trans (List.length_map _)⟩

end

/-! ### A call that fails after one that did not -/

namespace Obstructed

open SharedDirectory.TwoStores (handle opening_ok vacant)
open DiskStore.Overwritten (clock)

/-- The store once it was given a response. -/
def given (d : Tenancy) (handle : DiskStore) (now : Instant) (uri etag body : String) : DiskStore :=
  (d.tree.run (handle.store now uri etag body)).1.1

/-- The directory then, if nothing fails but what its tree does not allow. -/
def stored (d : Tenancy) (handle : DiskStore) (now : Instant) (uri etag body : String) : Tenancy :=
  let y := d.tree.run (handle.store now uri etag body)
  ⟨y.2, some (given d handle now uri etag body),
    if y.1.2.isOk then y.2.file? ["cache", "index.json"] else d.written?,
    d.calls ++ [⟨uri, etag, body, now, handle.sequence, y.1.2.isOk⟩]⟩

theorem handle?_stored (d : Tenancy) (handle : DiskStore) (now : Instant)
    (uri etag body : String) : (stored d handle now uri etag body).handle? =
      some (given d handle now uri etag body) := rfl

theorem step_stored {d : Tenancy} {handle : DiskStore} (hh : d.handle? = some handle)
    (now : Instant) (uri etag body : String) :
    Step ["cache"] d (stored d handle now uri etag body) := by
  have hruns := Tree.runs_cramped_run (handle.store now uri etag body) d.tree
  unfold stored given
  generalize d.tree.run (handle.store now uri etag body) = y at hruns ⊢
  obtain ⟨⟨handle', result⟩, t'⟩ := y
  exact .stored hh hruns

/-- A directory put where the index is written first. -/
def block (d : Tenancy) : Tenancy :=
  { d with tree := d.tree.set ["cache", "index.tmp"] .directory }

theorem step_block (d : Tenancy) : Step ["cache"] d (block d) := by
  refine .elsewhere rfl fun q hq => ?_
  have hne : q ≠ ["cache", "index.tmp"] := by
    rintro rfl
    exact absurd hq (by decide)
  exact (Tree.node?_set (by simp) _ q).trans (if_neg hne)

theorem handle?_block (d : Tenancy) : (block d).handle? = d.handle? := rfl

def opened : Tenancy := ⟨(Tree.empty.run (openAt "/cache").run).2, some handle, none, []⟩

def first : Tenancy := stored opened handle (clock 0) "u" "\"v1\"" "[1]"

/-- The store that was given the first response. -/
def keeper : DiskStore := given opened handle (clock 0) "u" "\"v1\"" "[1]"

/-- Another response, for which there is no room. -/
def second : Tenancy := stored (block first) keeper (clock 1) "u" "\"v2\"" "[2]"

theorem reachable : Reachable ["cache"] (start Tree.empty) second := by
  have hopened : Step ["cache"] (start Tree.empty) opened := by
    have hruns := Tree.runs_cramped_run (openAt "/cache").run Tree.empty
    rw [opening_ok] at hruns
    exact .opened (by decide +kernel) rfl hruns
  have hfirst : Step ["cache"] opened first :=
    step_stored rfl (clock 0) "u" "\"v1\"" "[1]"
  have hkept : (block first).handle? = some keeper :=
    (handle?_block first).trans (handle?_stored opened handle (clock 0) "u" "\"v1\"" "[1]")
  have hsecond : Step ["cache"] (block first) second :=
    step_stored hkept (clock 1) "u" "\"v2\"" "[2]"
  exact (((Reachable.here.next hopened).next hfirst).next (step_block first)).next hsecond

theorem outcome : (second.calls.map StoreCall.bodyFile).Nodup ∧
    second.calls.map StoreCall.succeeded = [true, false] := by
  decide +kernel

/-- The body file of the call that failed is gone, and that of the other is kept. -/
theorem inventory_obstructed :
    Tree.empty.Vacant ["cache"] ∧ Reachable ["cache"] (start Tree.empty) second ∧
      (second.calls.map StoreCall.bodyFile).Nodup ∧
      second.calls.map StoreCall.succeeded = [true, false] ∧
      ∃ handle, second.handle? = some handle ∧
        (∀ name, name ∈ second.tree.bodyFiles ["cache"] ↔
          ∃ uri entry, handle.index.find? uri = some entry ∧ entry.bodyFile = name) ∧
        (second.tree.bodyFiles ["cache"]).length = handle.size := by
  have hh := handle?_stored (block first) keeper (clock 1) "u" "\"v2\"" "[2]"
  obtain ⟨hnodup, hsucceeded⟩ := outcome
  obtain ⟨hnames, -, -, hsize⟩ := inventory vacant reachable hnodup hh
  exact ⟨vacant, reachable, hnodup, hsucceeded, _, hh, hnames, hsize⟩

end Obstructed

end Tenancy

end ConditionalGet
