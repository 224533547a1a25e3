import ConditionalGet.Proofs.Store.Cleaning
import ConditionalGet.Proofs.Store.Failure

/-!
# Which paths a store uses

The names of body files are read from the index, joined to the directory of the body files and
looked at no further. So a store writes and renames inside its directory alone, and whether it reads
and removes files elsewhere is up to its index: `works_where_index_leads` says that it stays inside
through all calls if and only if all entries that it opened with lead inside.
-/

set_option autoImplicit false

namespace ConditionalGet.DiskStore

open Program

/-! ## Inside and outside -/

/-- The path leads to the index, to what is written before it is renamed to the index, or to a place
directly in the directory of the body files. -/
def Inside (working : List String) (dir path : String) : Prop :=
  Path.place working path = Path.place working dir ++ ["index.json"] ∨
    Path.place working path = Path.place working dir ++ ["index.tmp"] ∨
      ∃ name, Path.place working path = Path.place working dir ++ ["bodies", name]

/-- An operation whose paths all lead inside. -/
def StaysInside (working : List String) (dir : String) (op : Files.Operation) : Prop :=
  ∀ path ∈ op.paths, Inside working dir path

/-- An operation on the body file of an entry that a store has on record. -/
def OnRecord (disk : DiskStore) (op : Files.Operation) : Prop :=
  ∃ uri entry, disk.index.find? uri = some entry ∧
    (op = .read (disk.bodyPath entry.bodyFile) ∨ op = .remove (disk.bodyPath entry.bodyFile))

section
variable {working : List String} {dir path : String}

theorem inside_indexPath : Inside working dir (indexPath dir) :=
  .inl (place_indexPath working dir)

theorem inside_temporary_indexPath : Inside working dir (temporary (indexPath dir)) :=
  .inr (.inl (place_temporary_indexPath working dir))

/-- A body file with a plain name is inside. -/
theorem inside_bodyPath (working : List String) (disk : DiskStore) {name : String}
    (h : Path.Plain name) : Inside working disk.dir (disk.bodyPath name) := by
  refine .inr (.inr ⟨name, ?_⟩)
  rw [bodyPath, Path.place_join working _ h, place_bodiesPath, List.append_assoc]
  rfl

theorem inside_temporary_bodyPath (working : List String) (disk : DiskStore) {name : String}
    (h : BodyName name) : Inside working disk.dir (temporary (disk.bodyPath name)) :=
  .inr (.inr ⟨temporaryName name, place_temporary_bodyPath working disk h⟩)

/-- An operation with one path stays inside if that leads inside. -/
theorem staysInside_of_paths {op : Files.Operation} (hop : op.paths = [path])
    (h : Inside working dir path) : StaysInside working dir op := by
  intro p hp
  rw [hop] at hp
  exact List.mem_singleton.1 hp ▸ h

theorem staysInside_rename {source : String} (hs : Inside working dir source)
    (ht : Inside working dir path) : StaysInside working dir (.rename source path) := by
  intro p hp
  rcases List.mem_cons.1 hp with rfl | hp
  · exact hs
  · exact List.mem_singleton.1 hp ▸ ht

end

/-! ## One call -/

section
variable {P : Files.Operation → Prop} {disk : DiskStore} {now : Instant} {uri etag body : String}

theorem asksOnly_orFail {α : Type} {path : String} {p : FileProgram (Except IoFault α)}
    (h : p.AsksOnly P) : (orFail path p).run.AsksOnly P := h.map _

theorem asksOnly_writeAtomic {path text : String} (hw : P (.write (temporary path) text))
    (hr : P (.rename (temporary path) path)) : (writeAtomic path text).run.AsksOnly P :=
  AsksOnly.except_bind (asksOnly_orFail (asksOnly_ask_pure hw)) fun _ =>
    asksOnly_orFail (asksOnly_ask_pure hr)

/-- A lookup reads the body file of the entry, if there is one. -/
theorem asksOnly_lookup_iff : (disk.lookup uri).run.AsksOnly P ↔
    ∀ entry, disk.index.find? uri = some entry → P (.read (disk.bodyPath entry.bodyFile)) := by
  unfold lookup
  cases hf : disk.index.find? uri with
  | none => exact ⟨fun _ _ he => (nomatch he), fun _ => trivial⟩
  | some entry =>
    constructor
    · intro h entry' he
      cases he
      exact h.of_bind.1
    · intro h
      refine AsksOnly.except_bind (AsksOnly.map (asksOnly_ask_pure (h entry rfl)) _) fun r => ?_
      rcases r with e | text
      · cases e <;> trivial
      · trivial

theorem asksOnly_discard {path : String} (h : P (.remove path)) : (discard path).AsksOnly P := by
  refine AsksOnly.bind (asksOnly_ask_pure h) fun r => ?_
  rcases r with e | u
  · cases e <;> trivial
  · trivial

/-- A call to store writes inside, and removes the body file that it wrote or the one that it
replaces. -/
theorem asksOnly_store {working : List String}
    (hinside : ∀ op, StaysInside working disk.dir op → P op)
    (hprevious : ∀ previous, disk.index.find? uri = some previous →
      P (.remove (disk.bodyPath previous.bodyFile))) :
    (disk.store now uri etag body).AsksOnly P := by
  have hname := bodyName_bodyName uri etag now disk.sequence
  have hbody : Inside working disk.dir (disk.bodyPath (bodyName uri etag now disk.sequence)) :=
    inside_bodyPath working disk hname.plain
  have htemp := inside_temporary_bodyPath working disk hname
  refine AsksOnly.bind (asksOnly_writeAtomic (hinside _ (staysInside_of_paths rfl htemp))
    (hinside _ (staysInside_rename htemp hbody))) fun x => ?_
  rcases x with e | u
  · trivial
  refine AsksOnly.bind (asksOnly_writeAtomic
    (hinside _ (staysInside_of_paths rfl inside_temporary_indexPath))
    (hinside _ (staysInside_rename inside_temporary_indexPath inside_indexPath))) fun y => ?_
  rcases y with e | u
  · have hremove := hinside (.remove _) (staysInside_of_paths rfl hbody)
    exact AsksOnly.bind (asksOnly_ask_pure hremove) fun _ => trivial
  · cases hf : disk.index.find? uri with
    | none => trivial
    | some previous =>
      exact AsksOnly.bind (asksOnly_discard (hprevious previous hf)) fun _ => trivial

end

/-! ## Any number of calls -/

/-- A call to a store that is open, and the time that a call to store is told. -/
inductive Access where
  | lookup (uri : String)
  | store (now : Instant) (uri etag body : String)

/-- One call, and what the store is after it. -/
def access (disk : DiskStore) : Access → FileProgram DiskStore
  | .lookup uri => (fun _ => disk) <$> (disk.lookup uri).run
  | .store now uri etag body => Prod.fst <$> disk.store now uri etag body

/-- One call after another. -/
def accessAll (disk : DiskStore) : List Access → FileProgram DiskStore
  | [] => return disk
  | a :: rest => do (← disk.access a).accessAll rest

/-- The body files of all entries may be read and removed. -/
def Admits (P : Files.Operation → Prop) (disk : DiskStore) : Prop :=
  ∀ uri entry, disk.index.find? uri = some entry →
    P (.read (disk.bodyPath entry.bodyFile)) ∧ P (.remove (disk.bodyPath entry.bodyFile))

section
variable {P : Files.Operation → Prop} {disk disk' : DiskStore} {working : List String}
  {dir : String}

theorem Admits.recorded (hinside : ∀ op, StaysInside working disk.dir op → P op)
    (h : Admits P disk) (now : Instant) (uri etag : String) :
    Admits P (disk.recorded now uri etag) := by
  intro v entry hf
  rw [find?_recorded] at hf
  split at hf
  · cases hf
    have hbody := inside_bodyPath working disk
      (bodyName_bodyName uri etag now disk.sequence).plain
    exact ⟨hinside _ (staysInside_of_paths rfl hbody), hinside _ (staysInside_of_paths rfl hbody)⟩
  · exact h v entry hf

/-- What a call asks. -/
theorem asksOnly_access (hinside : ∀ op, StaysInside working disk.dir op → P op)
    (h : Admits P disk) (a : Access) : (disk.access a).AsksOnly P := by
  cases a with
  | lookup uri => exact (asksOnly_lookup_iff.2 fun entry hf => (h uri entry hf).1).map _
  | store now uri etag body =>
    exact (asksOnly_store hinside fun previous hf => (h uri previous hf).2).map _

/-- What a call keeps. -/
theorem Admits.access (hinside : ∀ op, StaysInside working disk.dir op → P op) (h : Admits P disk)
    {a : Access} (hy : (disk.access a).Yields disk') : disk'.dir = disk.dir ∧ Admits P disk' := by
  cases a with
  | lookup uri =>
    obtain ⟨x, -, rfl⟩ := runs_map_iff.1 hy
    exact ⟨rfl, h⟩
  | store now uri etag body =>
    obtain ⟨x, hx, rfl⟩ := runs_map_iff.1 hy
    rcases (runs_store_iff.1 hx).store_eq with he | he <;> rw [he]
    · exact ⟨rfl, h⟩
    · exact ⟨rfl, h.recorded hinside now uri etag⟩

theorem asksOnly_accessAll (calls : List Access)
    (hinside : ∀ op, StaysInside working disk.dir op → P op) (h : Admits P disk) :
    (disk.accessAll calls).AsksOnly P := by
  induction calls generalizing disk with
  | nil => trivial
  | cons a rest ih =>
    refine (asksOnly_access hinside h a).bind_yields fun disk' hy => ?_
    obtain ⟨hdir, h'⟩ := h.access hinside hy
    exact ih (hdir ▸ hinside) h'

/-- Opening makes the directory of the body files and reads the index. -/
theorem asksOnly_openAt (hread : P (.read (indexPath dir)))
    (hmake : P (.createAll (bodiesPath dir))) : (openAt dir).run.AsksOnly P := by
  refine AsksOnly.except_bind (asksOnly_orFail (asksOnly_ask_pure hmake)) fun _ => ?_
  refine AsksOnly.except_bind (AsksOnly.map (asksOnly_ask_pure hread) _) fun r => ?_
  rcases r with e | text
  · cases e <;> trivial
  · dsimp only
    split <;> trivial

/-- What is on record is looked up. -/
theorem inside_of_asksOnly (h : ∀ calls, (disk.accessAll calls).AsksOnly (StaysInside working dir))
    {uri : String} {entry : IndexEntry} (hf : disk.index.find? uri = some entry) :
    Inside working dir (disk.bodyPath entry.bodyFile) := by
  have hlookup : (disk.lookup uri).run.AsksOnly (StaysInside working dir) :=
    (h [.lookup uri]).of_bind.of_bind
  exact asksOnly_lookup_iff.1 hlookup entry hf _ (List.mem_singleton.2 rfl)

/-- **A store works where its index leads.** Whatever index a store was opened with, and whatever
calls are made to it then and however they are answered, all paths that it writes or renames lead to
the index, to what is written before it, or directly into the directory of the body files, and so do
all that it reads and removes, other than those of the body files that the index named when it was
opened. It stays inside through all calls if and only if those lead inside too, and a plain name, as
the store itself gives to a body file, does. -/
theorem works_where_index_leads {σ : Type} {step : Answering Files.interface σ} {s s' : σ}
    (hopen : Runs step (openAt dir).run s (.ok disk) s') (working : List String) :
    (openAt dir).run.AsksOnly
        (fun op => StaysInside working dir op ∨ op = Files.Operation.createAll (bodiesPath dir)) ∧
      (∀ calls, (disk.accessAll calls).AsksOnly
        fun op => StaysInside working dir op ∨ disk.OnRecord op) ∧
      ((∀ calls, (disk.accessAll calls).AsksOnly (StaysInside working dir)) ↔
        ∀ uri entry, disk.index.find? uri = some entry →
          Inside working dir (disk.bodyPath entry.bodyFile)) ∧
      (∀ name, Path.Plain name → Inside working dir (disk.bodyPath name)) ∧
      ∀ uri etag now sequence, Path.Plain (bodyName uri etag now sequence) := by
  obtain rfl : disk.dir = dir := congrArg DiskStore.dir (runs_openAt_iff.1 hopen).store_eq
  refine ⟨asksOnly_openAt (.inl (staysInside_of_paths rfl inside_indexPath)) (.inr rfl),
    fun calls => ?_, ⟨fun h uri entry hf => inside_of_asksOnly h hf, fun h calls => ?_⟩,
    fun name hname => inside_bodyPath working disk hname,
    fun uri etag now sequence => (bodyName_bodyName uri etag now sequence).plain⟩
  · refine asksOnly_accessAll calls (fun op hop => .inl hop) fun uri entry hf => ?_
    exact ⟨.inr ⟨uri, entry, hf, .inl rfl⟩, .inr ⟨uri, entry, hf, .inr rfl⟩⟩
  · refine asksOnly_accessAll calls (fun op hop => hop) fun uri entry hf => ?_
    exact ⟨staysInside_of_paths rfl (h uri entry hf), staysInside_of_paths rfl (h uri entry hf)⟩

end

/-! ### Names that lead inside, and one that does not -/

namespace Escaping

open Overwritten

/-- A store is opened with the index that is in its directory. -/
theorem runs_opening {t : Tree} {index : Index} {found : List String × Bool}
    (hworking : t.working = [])
    (hlocate : t.locate (Path.join (bodiesPath "/cache") "index.json") = .ok found)
    (hindex : t.file? ["cache", "index.json"] = some (Text.encode index.text)) :
    Runs Tree.exact (openAt "/cache").run t (.ok ⟨"/cache", index, 0⟩) t := by
  have hleads := Tree.leads_of_locate plain_indexName hlocate
  have hclean : '\x00' ∉ (Path.lead (bodiesPath "/cache")).toList := by decide +kernel
  have hshort : (bodiesPath "/cache").utf8ByteSize + 70 ≤ Tree.longestPath := by decide +kernel
  have ha : Accessible ⟨"/cache", index, 0⟩ t := ⟨hleads, hclean, hshort⟩
  have hplace : Path.place [] "/cache" = ["cache"] := by decide +kernel
  have hfile : t.file? (Path.place t.working "/cache" ++ ["index.json"]) =
      some (Text.encode index.text) := by
    rw [hworking, hplace]
    exact hindex
  exact runs_answer_iff.2 (openAt_of_accessible ha hfile)

/-- A store whose index names a file beside it. -/
def disk : DiskStore := ⟨"/cache", Table.empty.insert "u" ⟨"\"v1\"", "../keep.json", clock 0⟩, 0⟩

/-- Its directory, with that file. -/
def tree : Tree where
  nodes := Table.ofList [(["cache"], .directory), (["cache", "bodies"], .directory),
    (["cache", "index.json"], .file (Text.encode disk.index.text)),
    (["cache", "keep.json"], .file (Text.encode "[0]"))]
  working := []

theorem runs_opening_tree : Runs Tree.exact (openAt "/cache").run tree (.ok disk) tree := by
  have hlocate : tree.locate (Path.join (bodiesPath "/cache") "index.json") =
      .ok (["cache", "bodies", "index.json"], false) := eq_ok_of_toOption (by decide +kernel)
  exact runs_opening rfl hlocate rfl

theorem not_inside : ¬Inside [] "/cache" (disk.bodyPath "../keep.json") := by
  have hroot : Path.place [] "/cache" = ["cache"] := by decide +kernel
  have hplace : Path.place [] (disk.bodyPath "../keep.json") = ["cache", "keep.json"] := by
    decide +kernel
  unfold Inside
  rw [hroot, hplace]
  simp

theorem keep_removed :
    (tree.run (disk.store (clock 1) "u" "\"v2\"" "[1]")).2.file? ["cache", "keep.json"] = none := by
  decide +kernel

/-- A lookup reads a file that is no file of the store, and a call to store removes it. -/
theorem outside_reached :
    Runs Tree.exact (openAt "/cache").run tree (.ok disk) tree ∧
      ¬(∀ calls, (disk.accessAll calls).AsksOnly (StaysInside [] "/cache")) ∧
      (tree.run (disk.lookup "u").run).1 = .ok (.hit ⟨"\"v1\"", "[0]"⟩) ∧
      tree.file? ["cache", "keep.json"] = some (Text.encode "[0]") ∧
      (tree.run (disk.store (clock 1) "u" "\"v2\"" "[1]")).2.file? ["cache", "keep.json"] =
        none := by
  have hfound : disk.index.find? "u" = some ⟨"\"v1\"", "../keep.json", clock 0⟩ :=
    (Table.find?_insert _ _ _ _).trans (if_pos rfl)
  have hlocate : tree.locate (disk.bodyPath "../keep.json") = .ok (["cache", "keep.json"], false) :=
    eq_ok_of_toOption (by decide +kernel)
  have hfile : tree.file? ["cache", "keep.json"] = some (Text.encode "[0]") := rfl
  have hread := Tree.read_eq_ok hlocate hfile
  refine ⟨runs_opening_tree, fun h => ?_, ?_, hfile, keep_removed⟩
  · have hinside := inside_of_asksOnly h hfound
    exact not_inside hinside
  · rw [run_lookup_of_lookedUp (.hit hfound (exact_of_read hread))]

/-- A store whose entry it made itself. -/
def own : DiskStore := { Blocked.disk with sequence := 0 }

theorem works_where_index_leads_own :
    Runs Tree.exact (openAt "/cache").run Blocked.tree (.ok own) Blocked.tree ∧
      ∀ calls, (own.accessAll calls).AsksOnly (StaysInside [] "/cache") := by
  have hlocate : Blocked.tree.locate (Path.join (bodiesPath "/cache") "index.json") =
      .ok (["cache", "bodies", "index.json"], false) := eq_ok_of_toOption (by decide +kernel)
  have hopen : Runs Tree.exact (openAt "/cache").run Blocked.tree (.ok own) Blocked.tree :=
    runs_opening rfl hlocate rfl
  obtain ⟨-, -, hinside, hplain, hname⟩ := works_where_index_leads hopen []
  refine ⟨hopen, hinside.2 fun uri entry hf => ?_⟩
  obtain ⟨-, rfl⟩ := Blocked.find?_index hf
  exact hplain _ (hname _ _ _ _)

end Escaping

end ConditionalGet.DiskStore
