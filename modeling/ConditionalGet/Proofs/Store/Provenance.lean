import ConditionalGet.Proofs.Store.Footprint
import ConditionalGet.Proofs.Store.IndexText

/-!
# Where a looked-up response comes from

Any number of stores are open in one directory, any file operation may fail at any time, and files
of the directory may be removed from outside (`SharedDirectory.Step`). Each body file is written
under a name of its own, so that a body file holds what its name was made for or is gone, and every
entry of every index, in memory or on disk, is an entry that some call listed before it succeeded:
that is the invariant `SharedDirectory.Sound`. What a lookup finds is then what one call stored
(`SharedDirectory.lookup_provenance`).
-/

set_option autoImplicit false

namespace ConditionalGet

open Program DiskStore

/-! ## The system -/

/-- A call to store a response, and whether it succeeded. -/
structure StoreCall where
  uri : String
  etag : String
  body : String
  now : Instant
  sequence : UInt64
  succeeded : Bool
  deriving DecidableEq

def StoreCall.bodyFile (c : StoreCall) : String := bodyName c.uri c.etag c.now c.sequence

theorem StoreCall.bodyName_bodyFile (c : StoreCall) : BodyName c.bodyFile :=
  bodyName_bodyName c.uri c.etag c.now c.sequence

/-- A directory with the stores that are open in it, and the calls made so far. -/
structure SharedDirectory where
  tree : Tree
  handles : List DiskStore
  calls : List StoreCall

namespace SharedDirectory

/-- Before any store is open. -/
def start (t : Tree) : SharedDirectory := ⟨t, [], []⟩

/-- What may happen in and around the directory at `root` (module doc). -/
inductive Step (root : List String) : SharedDirectory → SharedDirectory → Prop
  | opened {d : SharedDirectory} {dir : String} {handle : DiskStore} {t' : Tree} :
      Path.place d.tree.working dir = root →
      Runs Tree.faulty (openAt dir).run d.tree (.ok handle) t' →
      Step root d ⟨t', d.handles ++ [handle], d.calls⟩
  | unopened {d : SharedDirectory} {dir : String} {e : StoreError} {t' : Tree} :
      Path.place d.tree.working dir = root →
      Runs Tree.faulty (openAt dir).run d.tree (.error e) t' →
      Step root d { d with tree := t' }
  | stored {d : SharedDirectory} {before after : List DiskStore} {handle handle' : DiskStore}
      {now : Instant} {uri etag body : String} {result : Except StoreError (Option Notice)}
      {t' : Tree} : d.handles = before ++ handle :: after →
      Runs Tree.faulty (handle.store now uri etag body) d.tree (handle', result) t' →
      Step root d ⟨t', before ++ handle' :: after,
        d.calls ++ [⟨uri, etag, body, now, handle.sequence, result.isOk⟩]⟩
  | lookedUp {d : SharedDirectory} {handle : DiskStore} {uri : String}
      {result : Except StoreError Lookup} {t' : Tree} : handle ∈ d.handles →
      Runs Tree.faulty (handle.lookup uri).run d.tree result t' → Step root d { d with tree := t' }
  /-- Files below the directory are removed from outside. -/
  | removed {d : SharedDirectory} {t' : Tree} : t'.working = d.tree.working →
      (∀ q, t'.node? q = d.tree.node? q ∨ (root <+: q ∧ q ≠ root ∧ t'.node? q = none)) →
      Step root d { d with tree := t' }

/-- What can come of a state. -/
inductive Reachable (root : List String) (d : SharedDirectory) : SharedDirectory → Prop
  | here : Reachable root d d
  | next {d' d'' : SharedDirectory} : Reachable root d d' → Step root d' d'' → Reachable root d d''

/-! ## The invariant -/

/-- An entry was listed by a call that succeeded. -/
def Listed (calls : List StoreCall) (uri : String) (entry : IndexEntry) : Prop :=
  ∃ c ∈ calls, c.succeeded = true ∧ c.uri = uri ∧ c.etag = entry.etag ∧
    c.bodyFile = entry.bodyFile

/-- All entries of an index were listed by calls that succeeded. -/
def AllListed (calls : List StoreCall) (index : Index) : Prop :=
  ∀ uri entry, index.find? uri = some entry → Listed calls uri entry

/-- The invariant (module doc). -/
structure Sound (root : List String) (d : SharedDirectory) : Prop where
  handles : ∀ handle ∈ d.handles, Path.place d.tree.working handle.dir = root ∧
    AllListed d.calls handle.index
  index : ∀ bytes, d.tree.file? (root ++ ["index.json"]) = some bytes →
    ∃ index : Index, bytes = Text.encode index.text ∧ AllListed d.calls index
  bodies : ∀ c ∈ d.calls, c.succeeded = true → ∀ bytes,
    d.tree.file? (root ++ ["bodies", c.bodyFile]) = some bytes → bytes = Text.encode c.body

/-- The part of the invariant that does not need new names for body files. -/
structure Traced (root : List String) (d : SharedDirectory) : Prop where
  handles : ∀ handle ∈ d.handles, Path.place d.tree.working handle.dir = root ∧
    AllListed d.calls handle.index
  index : ∀ bytes, d.tree.file? (root ++ ["index.json"]) = some bytes →
    ∃ index : Index, bytes = Text.encode index.text ∧ AllListed d.calls index

theorem Listed.append {calls : List StoreCall} {uri : String} {entry : IndexEntry}
    (h : Listed calls uri entry) (new : List StoreCall) : Listed (calls ++ new) uri entry := by
  obtain ⟨c, hc, h⟩ := h
  exact ⟨c, List.mem_append_left _ hc, h⟩

theorem AllListed.append {calls : List StoreCall} {index : Index} (h : AllListed calls index)
    (new : List StoreCall) : AllListed (calls ++ new) index :=
  fun uri entry he => (h uri entry he).append new

theorem allListed_empty (calls : List StoreCall) : AllListed calls Table.empty := by
  intro uri entry h
  cases h

/-- What a call that succeeds puts into an index. -/
theorem AllListed.listing {calls : List StoreCall} {handle : DiskStore} {now : Instant}
    {uri etag : String} (body : String) (h : AllListed calls handle.index) :
    AllListed (calls ++ [⟨uri, etag, body, now, handle.sequence, true⟩])
      (handle.listing now uri etag) := by
  intro u entry hu
  rw [DiskStore.listing, Table.find?_insert] at hu
  split at hu
  · rename_i heq
    cases hu
    exact ⟨_, List.mem_append_right _ (List.mem_singleton.2 rfl), rfl, heq.symm, rfl, rfl⟩
  · exact (h u entry hu).append _

/-! ## Every step keeps the invariant -/

section
variable {root : List String} {d d' : SharedDirectory}

theorem Sound.traced (h : Sound root d) : Traced root d := ⟨h.handles, h.index⟩

theorem Traced.sound (h : Traced root d)
    (hbodies : ∀ c ∈ d.calls, c.succeeded = true → ∀ bytes,
      d.tree.file? (root ++ ["bodies", c.bodyFile]) = some bytes → bytes = Text.encode c.body) :
    Sound root d := ⟨h.handles, h.index, hbodies⟩

/-- A file that is there was there if files are only removed. -/
theorem file?_of_kept {t t' : Tree} (hf : ∀ q, t'.file? q = none ∨ t'.file? q = t.file? q)
    {q : List String} {bytes : ByteArray} (hq : t'.file? q = some bytes) :
    t.file? q = some bytes := by
  rcases hf q with h | h
  · rw [h] at hq
    cases hq
  · rw [← h, hq]

theorem Traced.of_files {t' : Tree} (h : Traced root d) (hw : t'.working = d.tree.working)
    (hf : ∀ q, t'.file? q = none ∨ t'.file? q = d.tree.file? q) :
    Traced root { d with tree := t' } := by
  refine ⟨fun handle hh => ?_, fun bytes hb => h.index bytes (file?_of_kept hf hb)⟩
  show Path.place t'.working handle.dir = root ∧ _
  rw [hw]
  exact h.handles handle hh

/-- Files that are left alone or removed do not harm. -/
theorem Sound.of_files {t' : Tree} (h : Sound root d) (hw : t'.working = d.tree.working)
    (hf : ∀ q, t'.file? q = none ∨ t'.file? q = d.tree.file? q) :
    Sound root { d with tree := t' } :=
  (h.traced.of_files hw hf).sound
    fun c hc hs bytes hb => h.bodies c hc hs bytes (file?_of_kept hf hb)

/-- A new store finds the entries that are listed on disk. -/
theorem Traced.open {dir : String} {handle : DiskStore} {t' : Tree} (h : Traced root d)
    (hplace : Path.place d.tree.working dir = root)
    (ho : Opened Tree.faulty dir d.tree (.ok handle) t') :
    Traced root ⟨t', d.handles ++ [handle], d.calls⟩ := by
  obtain ⟨hw, hf, hnew⟩ := opened_faulty ho
  have hkept := h.of_files hw fun q => .inr (hf q)
  refine ⟨fun handle' hh => ?_, hkept.index⟩
  rcases List.mem_append.1 hh with hh | hh
  · exact hkept.handles handle' hh
  obtain rfl := List.mem_singleton.1 hh
  obtain ⟨rfl, hindex | ⟨bytes, text, hfile, hd, hi⟩⟩ := hnew handle' rfl
  · rw [hindex]
    exact ⟨by rw [hw, hplace], allListed_empty _⟩
  · rw [place_indexPath, hplace] at hfile
    obtain ⟨index, rfl, hl⟩ := h.index bytes hfile
    rw [Text.decode?_encode] at hd
    obtain rfl := Option.some.inj hd
    rw [Index.parse_text] at hi
    obtain rfl := Except.ok.inj hi
    exact ⟨by rw [hw, hplace], hl⟩

theorem Sound.open {dir : String} {handle : DiskStore} {t' : Tree} (h : Sound root d)
    (hplace : Path.place d.tree.working dir = root)
    (ho : Opened Tree.faulty dir d.tree (.ok handle) t') :
    Sound root ⟨t', d.handles ++ [handle], d.calls⟩ := by
  obtain ⟨hw, hf, -⟩ := opened_faulty ho
  exact (h.traced.open hplace ho).sound (h.of_files hw fun q => .inr (hf q)).bodies

/-- The stores after one of them has been given a response. -/
theorem Traced.handles_store {before after : List DiskStore} {handle handle' : DiskStore}
    {t' : Tree} {new : List StoreCall} (h : Traced root d)
    (hh : d.handles = before ++ handle :: after) (hw : t'.working = d.tree.working)
    (hdir : handle'.dir = handle.dir) (hlisted : AllListed (d.calls ++ new) handle'.index) :
    ∀ other ∈ before ++ handle' :: after, Path.place t'.working other.dir = root ∧
      AllListed (d.calls ++ new) other.index := by
  have hother : ∀ other ∈ d.handles, Path.place t'.working other.dir = root ∧
      AllListed (d.calls ++ new) other.index :=
    fun other hm => ⟨by rw [hw]; exact (h.handles other hm).1, (h.handles other hm).2.append _⟩
  have hmem : handle ∈ d.handles := hh ▸ List.mem_append_right _ List.mem_cons_self
  intro other hm
  rcases List.mem_append.1 hm with hm | hm
  · exact hother other (hh ▸ List.mem_append_left _ hm)
  rcases List.mem_cons.1 hm with rfl | hm
  · exact ⟨by rw [hdir]; exact (hother handle hmem).1, hlisted⟩
  · exact hother other (hh ▸ List.mem_append_right _ (List.mem_cons_of_mem _ hm))

/-- A body file is apart from all that a call touches which writes another one. -/
theorem body_apart (root : List String) {name other : String} (hname : BodyName name)
    (hother : BodyName other) (hne : other ≠ name) :
    root ++ ["bodies", other] ≠ root ++ ["bodies", temporaryName name] ∧
      root ++ ["bodies", other] ≠ root ++ ["index.tmp"] ∧
      root ++ ["bodies", other] ≠ root ++ ["index.json"] ∧
      root ++ ["bodies", other] ≠ root ++ ["bodies", name] := by
  have htemp := hname.temporary_ne hother
  simp [hne, Ne.symm htemp]

variable {before after : List DiskStore} {handle handle' : DiskStore} {now : Instant}
  {uri etag body : String} {result : Except StoreError (Option Notice)} {t' : Tree}

/-- A call to store that fails leaves the index as it is. -/
theorem Traced.store_error (h : Traced root d) (hh : d.handles = before ++ handle :: after)
    (hw : t'.working = d.tree.working)
    (hf : t'.file? (root ++ ["index.json"]) = none ∨
      t'.file? (root ++ ["index.json"]) = d.tree.file? (root ++ ["index.json"])) :
    Traced root ⟨t', before ++ handle.counted :: after,
      d.calls ++ [⟨uri, etag, body, now, handle.sequence, false⟩]⟩ := by
  have hmem : handle ∈ d.handles := hh ▸ List.mem_append_right _ List.mem_cons_self
  refine ⟨h.handles_store hh hw rfl ((h.handles handle hmem).2.append _), fun bytes hb => ?_⟩
  rcases hf with hn | hn
  · rw [hn] at hb
    cases hb
  · obtain ⟨index, hi, hl⟩ := h.index bytes (hn ▸ hb)
    exact ⟨index, hi, hl.append _⟩

/-- A call to store that succeeds lists its entry. -/
theorem Traced.store_ok (h : Traced root d) (hh : d.handles = before ++ handle :: after)
    (hw : t'.working = d.tree.working)
    (hf : t'.file? (root ++ ["index.json"]) = none ∨ t'.file? (root ++ ["index.json"]) =
      some (Text.encode (handle.listing now uri etag).text)) :
    Traced root ⟨t', before ++ handle.recorded now uri etag :: after,
      d.calls ++ [⟨uri, etag, body, now, handle.sequence, true⟩]⟩ := by
  have hmem : handle ∈ d.handles := hh ▸ List.mem_append_right _ List.mem_cons_self
  have hlisted : AllListed (d.calls ++ [⟨uri, etag, body, now, handle.sequence, true⟩])
      (handle.listing now uri etag) := (h.handles handle hmem).2.listing body
  refine ⟨h.handles_store hh hw rfl hlisted, fun bytes hb => ?_⟩
  rcases hf with hn | hn
  · rw [hn] at hb
    cases hb
  · rw [hb] at hn
    exact ⟨_, Option.some.inj hn, hlisted⟩

theorem Traced.store (h : Traced root d) (hh : d.handles = before ++ handle :: after)
    (hs : Stored Tree.faulty handle now uri etag body d.tree (handle', result) t') :
    Traced root ⟨t', before ++ handle' :: after,
      d.calls ++ [⟨uri, etag, body, now, handle.sequence, result.isOk⟩]⟩ := by
  have hmem : handle ∈ d.handles := hh ▸ List.mem_append_right _ List.mem_cons_self
  obtain ⟨hw, ⟨notice, he, hf⟩ | ⟨e, he, hf⟩⟩ := stored_faulty (h.handles handle hmem).1 hs
  · cases he
    have hindex := hf (root ++ ["index.json"]) (by simp) (by simp)
    rw [if_pos rfl] at hindex
    exact h.store_ok hh hw hindex
  · cases he
    exact h.store_error hh hw (hf (root ++ ["index.json"]) (by simp) (by simp) (by simp))

/-- A call to store that fails leaves body files as they are, or removes some. -/
theorem Sound.store_error (h : Sound root d)
    (hfresh : ∀ c ∈ d.calls, c.bodyFile ≠ bodyName uri etag now handle.sequence)
    (htraced : Traced root ⟨t', before ++ handle.counted :: after,
      d.calls ++ [⟨uri, etag, body, now, handle.sequence, false⟩]⟩)
    (hf : ∀ q, q ≠ root ++ ["bodies", temporaryName (bodyName uri etag now handle.sequence)] →
      q ≠ root ++ ["index.tmp"] → q ≠ root ++ ["bodies", bodyName uri etag now handle.sequence] →
      t'.file? q = none ∨ t'.file? q = d.tree.file? q) :
    Sound root ⟨t', before ++ handle.counted :: after,
      d.calls ++ [⟨uri, etag, body, now, handle.sequence, false⟩]⟩ := by
  have hname := bodyName_bodyName uri etag now handle.sequence
  refine htraced.sound fun c hc hs bytes hb => ?_
  rcases List.mem_append.1 hc with hc | hc
  · obtain ⟨htemp, hindex, -, hbody⟩ := body_apart root hname
      c.bodyName_bodyFile (hfresh c hc)
    rcases hf _ htemp hindex hbody with hn | hn
    · rw [hn] at hb
      cases hb
    · exact h.bodies c hc hs bytes (hn ▸ hb)
  · obtain rfl := List.mem_singleton.1 hc
    cases hs

/-- A call to store that succeeds writes its body file. -/
theorem Sound.store_ok (h : Sound root d)
    (hfresh : ∀ c ∈ d.calls, c.bodyFile ≠ bodyName uri etag now handle.sequence)
    (htraced : Traced root ⟨t', before ++ handle.recorded now uri etag :: after,
      d.calls ++ [⟨uri, etag, body, now, handle.sequence, true⟩]⟩)
    (hf : ∀ q, q ≠ root ++ ["bodies", temporaryName (bodyName uri etag now handle.sequence)] →
      q ≠ root ++ ["index.tmp"] → t'.file? q = none ∨ t'.file? q =
        if q = root ++ ["index.json"] then some (Text.encode (handle.listing now uri etag).text)
        else if q = root ++ ["bodies", bodyName uri etag now handle.sequence] then
          some (Text.encode body)
        else d.tree.file? q) :
    Sound root ⟨t', before ++ handle.recorded now uri etag :: after,
      d.calls ++ [⟨uri, etag, body, now, handle.sequence, true⟩]⟩ := by
  have hname := bodyName_bodyName uri etag now handle.sequence
  refine htraced.sound fun c hc hs bytes hb => ?_
  rcases List.mem_append.1 hc with hc | hc
  · obtain ⟨htemp, hindex, hjson, hbody⟩ := body_apart root hname
      c.bodyName_bodyFile (hfresh c hc)
    rcases hf _ htemp hindex with hn | hn
    · rw [hn] at hb
      cases hb
    · rw [if_neg hjson, if_neg hbody] at hn
      exact h.bodies c hc hs bytes (hn ▸ hb)
  · obtain rfl := List.mem_singleton.1 hc
    have htemp := hname.temporary_ne hname
    rcases hf (root ++ ["bodies", bodyName uri etag now handle.sequence])
      (by simpa using htemp.symm) (by simp) with hn | hn
    · rw [StoreCall.bodyFile, hn] at hb
      cases hb
    · rw [if_neg (by simp), if_pos rfl] at hn
      rw [StoreCall.bodyFile, hn] at hb
      exact (Option.some.inj hb).symm

theorem Sound.store (h : Sound root d) (hh : d.handles = before ++ handle :: after)
    (hs : Stored Tree.faulty handle now uri etag body d.tree (handle', result) t')
    (hfresh : ∀ c ∈ d.calls, c.bodyFile ≠ bodyName uri etag now handle.sequence) :
    Sound root ⟨t', before ++ handle' :: after,
      d.calls ++ [⟨uri, etag, body, now, handle.sequence, result.isOk⟩]⟩ := by
  have hmem : handle ∈ d.handles := hh ▸ List.mem_append_right _ List.mem_cons_self
  have htraced := h.traced.store hh hs
  obtain ⟨-, ⟨notice, he, hf⟩ | ⟨e, he, hf⟩⟩ := stored_faulty (h.handles handle hmem).1 hs
  · cases he
    exact h.store_ok hfresh htraced hf
  · cases he
    exact h.store_error hfresh htraced hf

/-- Files that are removed from outside are left alone or removed. -/
theorem file?_of_removed {t' : Tree}
    (hn : ∀ q, t'.node? q = d.tree.node? q ∨ (root <+: q ∧ q ≠ root ∧ t'.node? q = none)) :
    ∀ q, t'.file? q = none ∨ t'.file? q = d.tree.file? q := by
  intro q
  rcases hn q with hq | ⟨-, -, hq⟩
  · exact .inr (Tree.file?_congr hq)
  · exact .inl (by rw [Tree.file?, hq])

/-! ## Every reachable state -/

theorem Step.sound (h : Sound root d) (hstep : Step root d d')
    (hnames : (d'.calls.map StoreCall.bodyFile).Nodup) : Sound root d' := by
  cases hstep with
  | opened hplace hr => exact h.open hplace (runs_openAt_iff.1 hr)
  | unopened _ hr =>
    obtain ⟨hw, hf, -⟩ := opened_faulty (runs_openAt_iff.1 hr)
    exact h.of_files hw fun q => .inr (hf q)
  | stored hh hr =>
    refine h.store hh (runs_store_iff.1 hr) fun c hc he => ?_
    rw [List.map_append, List.nodup_append] at hnames
    exact hnames.2.2 _ (List.mem_map_of_mem hc) _ (List.mem_singleton.2 rfl) he
  | lookedUp _ hr =>
    obtain ⟨rfl, -⟩ := lookedUp_faulty (runs_lookup_iff.1 hr)
    exact h
  | removed hw hn => exact h.of_files hw (file?_of_removed hn)

theorem Step.traced (h : Traced root d) (hstep : Step root d d') : Traced root d' := by
  cases hstep with
  | opened hplace hr => exact h.open hplace (runs_openAt_iff.1 hr)
  | unopened _ hr =>
    obtain ⟨hw, hf, -⟩ := opened_faulty (runs_openAt_iff.1 hr)
    exact h.of_files hw fun q => .inr (hf q)
  | stored hh hr => exact h.store hh (runs_store_iff.1 hr)
  | lookedUp _ hr =>
    obtain ⟨rfl, -⟩ := lookedUp_faulty (runs_lookup_iff.1 hr)
    exact h
  | removed hw hn => exact h.of_files hw (file?_of_removed hn)

/-- Calls are only added. -/
theorem Step.calls (hstep : Step root d d') : d.calls <+: d'.calls := by
  cases hstep with
  | stored => exact List.prefix_append _ _
  | _ => exact List.prefix_rfl

theorem sound_start {t : Tree} (h : t.Vacant root) : Sound root (start t) := by
  refine ⟨fun handle hh => (nomatch hh), fun bytes hb => ?_, fun c hc => (nomatch hc)⟩
  have hnone := h (root ++ ["index.json"]) (List.prefix_append _ _) (by simp)
  rw [start, Tree.file?, hnone] at hb
  cases hb

theorem Reachable.traced {t : Tree} (hvacant : t.Vacant root) (h : Reachable root (start t) d) :
    Traced root d := by
  induction h with
  | here => exact (sound_start hvacant).traced
  | next _ hstep ih => exact hstep.traced ih

theorem Reachable.sound {t : Tree} (hvacant : t.Vacant root) (h : Reachable root (start t) d)
    (hnames : (d.calls.map StoreCall.bodyFile).Nodup) : Sound root d := by
  induction h with
  | here => exact sound_start hvacant
  | next _ hstep ih =>
    exact hstep.sound (ih ((hstep.calls.sublist.map _).nodup hnames)) hnames

/-- **What a lookup finds was stored by one call.** Whatever calls were made through whatever stores
in a directory that was empty at first, whatever operations failed and whatever files were removed
in between: a validator and a body that a lookup finds for a URI are those of one earlier call that
succeeded, and so is a validator that it finds without a body. -/
theorem lookup_provenance {t : Tree} (hvacant : t.Vacant root)
    (hreach : Reachable root (start t) d) (hnames : (d.calls.map StoreCall.bodyFile).Nodup)
    {handle : DiskStore} (hh : handle ∈ d.handles) {uri : String} {found : Lookup} {t' : Tree}
    (hlookup : Runs Tree.faulty (handle.lookup uri).run d.tree (.ok found) t') :
    (∀ etag body, found = .hit ⟨etag, body⟩ → ∃ c ∈ d.calls, c.succeeded = true ∧ c.uri = uri ∧
        c.etag = etag ∧ c.body = body) ∧
      ∀ etag, found = .etagOnly etag → ∃ c ∈ d.calls, c.succeeded = true ∧ c.uri = uri ∧
        c.etag = etag := by
  have hsound := hreach.sound hvacant hnames
  obtain ⟨hplace, hlisted⟩ := hsound.handles handle hh
  obtain ⟨-, hhit, hgone⟩ := lookedUp_faulty (runs_lookup_iff.1 hlookup)
  constructor
  · rintro etag body rfl
    obtain ⟨entry, bytes, hf, he, hfile, hd⟩ := hhit ⟨etag, body⟩ rfl
    obtain ⟨c, hc, hs, hu, hce, hcb⟩ := hlisted uri entry hf
    rw [← hcb, place_bodyPath _ _ c.bodyName_bodyFile, hplace] at hfile
    -- the file holds what the call wrote, and nothing else can be read from it
    rw [hsound.bodies c hc hs bytes hfile, Text.decode?_encode] at hd
    exact ⟨c, hc, hs, hu, hce.trans he.symm, Option.some.inj hd⟩
  · rintro etag rfl
    obtain ⟨entry, hf, rfl⟩ := hgone etag rfl
    obtain ⟨c, hc, hs, hu, hce, -⟩ := hlisted uri entry hf
    exact ⟨c, hc, hs, hu, hce⟩

end

/-! ### Two stores with a response each -/

namespace TwoStores

/-- What is open is known by its parts. -/
theorem eq_of_parts {x : Except StoreError DiskStore} {disk : DiskStore}
    (h : (x.toOption.map fun d => (d.dir, Table.entries d.index, d.sequence)) =
      some (disk.dir, Table.entries disk.index, disk.sequence)) : x = .ok disk := by
  cases x with
  | error e => cases h
  | ok d =>
    obtain ⟨dir, index, sequence⟩ := d
    obtain ⟨dir', index', sequence'⟩ := disk
    simp only [Except.toOption, Option.map_some, Option.some.injEq, Prod.mk.injEq] at h
    obtain ⟨rfl, hi, rfl⟩ := h
    rw [Table.ext_entries hi]

theorem isDate_moment : isDate 2020 1 1 = true := by decide

theorem isTime_moment : isTime 0 0 0 0 = true := by decide

/-- When the responses are stored. -/
def moment : Instant :=
  { date := ⟨2020, 1, 1, isDate_moment⟩, hour := 0, minute := 0, second := 0, nanos := 0,
    valid := isTime_moment }

/-- A store that is opened with nothing on record. -/
def handle : DiskStore := ⟨"/cache", Table.empty, 0⟩

/-- The tree of files once a store is opened. -/
def opened (t : Tree) : Tree := (t.run (openAt "/cache").run).2

/-- A store of the directory once it was given a response. -/
def changed (d : SharedDirectory) (handle : DiskStore) (uri etag body : String) : DiskStore :=
  (d.tree.run (handle.store moment uri etag body)).1.1

/-- The directory then, if nothing fails but what its tree does not allow. -/
def given (d : SharedDirectory) (before after : List DiskStore) (handle : DiskStore)
    (uri etag body : String) : SharedDirectory :=
  let y := d.tree.run (handle.store moment uri etag body)
  ⟨y.2, before ++ changed d handle uri etag body :: after,
    d.calls ++ [⟨uri, etag, body, moment, handle.sequence, y.1.2.isOk⟩]⟩

section
variable {root : List String} {d : SharedDirectory} {handle : DiskStore}

theorem handles_given (d : SharedDirectory) (before after : List DiskStore) (handle : DiskStore)
    (uri etag body : String) : (given d before after handle uri etag body).handles =
      before ++ changed d handle uri etag body :: after := rfl

theorem step_given {before after : List DiskStore} (hh : d.handles = before ++ handle :: after)
    (uri etag body : String) : Step root d (given d before after handle uri etag body) := by
  have hruns := Tree.runs_faulty_run (handle.store moment uri etag body) d.tree
  unfold given changed
  generalize d.tree.run (handle.store moment uri etag body) = y at hruns ⊢
  obtain ⟨⟨handle', result⟩, t'⟩ := y
  exact .stored hh hruns

theorem step_opened {t : Tree} {handles : List DiskStore} {calls : List StoreCall}
    (hplace : Path.place t.working "/cache" = root)
    (hopen : (t.run (openAt "/cache").run).1 = .ok handle) :
    Step root ⟨t, handles, calls⟩ ⟨opened t, handles ++ [handle], calls⟩ := by
  have hruns := Tree.runs_faulty_run (openAt "/cache").run t
  rw [hopen] at hruns
  exact Step.opened (d := ⟨t, handles, calls⟩) hplace hruns

end

/-- Both stores are open. -/
def ready : SharedDirectory := ⟨opened (opened Tree.empty), [handle, handle], []⟩

/-- One of them is given a response for `u`. -/
def first : SharedDirectory := given ready [] [handle] handle "u" "\"v1\"" "[1]"

/-- The store that has it on record. -/
def holder : DiskStore := changed ready handle "u" "\"v1\"" "[1]"

/-- And then the other one for `w`, so that the index on disk has nothing for `u`. -/
def second : SharedDirectory := given first [holder] [] handle "w" "\"v2\"" "[2]"

theorem handles_first : first.handles = [holder] ++ handle :: [] := by
  rw [first, handles_given, List.nil_append, List.singleton_append, holder]

theorem handles_second :
    second.handles = [holder] ++ changed first handle "w" "\"v2\"" "[2]" :: [] := by
  rw [second, handles_given]

theorem vacant : Tree.empty.Vacant ["cache"] := by
  intro q hp hne
  have hq : q ≠ [] := by
    rintro rfl
    simp at hp
  rw [Tree.node?, if_neg hq]
  rfl

theorem opening_ok : (Tree.empty.run (openAt "/cache").run).1 = .ok handle :=
  eq_of_parts (by decide +kernel)

theorem opening_again : ((opened Tree.empty).run (openAt "/cache").run).1 = .ok handle :=
  eq_of_parts (by decide +kernel)

theorem place_opened : Path.place (opened Tree.empty).working "/cache" = ["cache"] := by
  decide +kernel

theorem reachable_ready : Reachable ["cache"] (start Tree.empty) ready := by
  have hplace : Path.place Tree.empty.working "/cache" = ["cache"] := by decide +kernel
  have hopened : Step ["cache"] (start Tree.empty) ⟨opened Tree.empty, [handle], []⟩ :=
    step_opened hplace opening_ok
  have hready : Step ["cache"] ⟨opened Tree.empty, [handle], []⟩ ready :=
    step_opened place_opened opening_again
  exact (Reachable.here.next hopened).next hready

theorem reachable : Reachable ["cache"] (start Tree.empty) second := by
  have hhandles : ready.handles = [] ++ handle :: [handle] := rfl
  have hfirst : Step ["cache"] ready first := step_given hhandles "u" "\"v1\"" "[1]"
  have hsecond : Step ["cache"] first second := step_given handles_first "w" "\"v2\"" "[2]"
  exact (reachable_ready.next hfirst).next hsecond

/-- Looking the first response up in the store that was given it. -/
def lookup : Except StoreError Lookup × Tree := second.tree.run (holder.lookup "u").run

theorem outcome : lookup.1.toOption = some (.hit ⟨"\"v1\"", "[1]"⟩) ∧
    second.calls.map StoreCall.succeeded = [true, true] ∧
      (second.calls.map StoreCall.bodyFile).Nodup := by
  decide +kernel

theorem lookup_provenance_second :
    Tree.empty.Vacant ["cache"] ∧ Reachable ["cache"] (start Tree.empty) second ∧
      (second.calls.map StoreCall.bodyFile).Nodup ∧ second.handles.length = 2 ∧
      second.calls.map StoreCall.succeeded = [true, true] ∧
      lookup.1 = .ok (.hit ⟨"\"v1\"", "[1]"⟩) ∧
      ∃ c ∈ second.calls, c.succeeded = true ∧ c.uri = "u" ∧ c.etag = "\"v1\"" ∧
        c.body = "[1]" := by
  obtain ⟨hfound, hsucceeded, hnames⟩ := outcome
  have hmem : holder ∈ second.handles := by simp [handles_second]
  have hruns : Runs Tree.faulty (holder.lookup "u").run second.tree lookup.1 lookup.2 :=
    Tree.runs_faulty_run _ _
  rw [eq_ok_of_toOption hfound] at hruns
  exact ⟨vacant, reachable, hnames, by simp [handles_second], hsucceeded,
    eq_ok_of_toOption hfound,
    (lookup_provenance vacant reachable hnames hmem hruns).1 _ _ rfl⟩

end TwoStores

end SharedDirectory

end ConditionalGet
