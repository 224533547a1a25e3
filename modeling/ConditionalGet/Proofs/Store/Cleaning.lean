import ConditionalGet.Proofs.Store.IndexText
import ConditionalGet.Proofs.Store.Success

/-!
# What a call to store clears away

`Tree.cramped` is the environment of a file system in which there may be no room: what puts
something somewhere may fail, what reads or removes does as it is told. There, a call to store that
fails leaves no body file of its own behind, and one that succeeds leaves none of the response
before (`stored_bodies`). What it writes before it is renamed is no body file, so this is all that
happens to body files.
-/

set_option autoImplicit false

namespace ConditionalGet

open Program (Answering Runs)

/-! ## Where room may be short -/

/-- Whether an operation puts something somewhere. -/
def Files.Operation.Puts : Files.Operation → Prop
  | .read _ | .remove _ => False
  | .write .. | .rename .. | .createAll _ => True

namespace Tree

variable {t t' : Tree} {path : String} {place : List String}

/-- File operations that fail if the tree does not allow them, or for want of room (module doc). -/
def cramped : Answering Files.interface Tree := fun t op r t' =>
  t.perform op = (r, t') ∨ op.Puts ∧ ∃ e, r = .error e ∧ Leftover t op t'

theorem faulty_of_cramped {op : Files.Operation} {r : Except IoFault op.Result}
    (h : cramped t op r t') : faulty t op r t' := h.imp_right And.right

theorem cramped_of_exact {op : Files.Operation} {r : Except IoFault op.Result}
    (h : exact t op r t') : cramped t op r t' := .inl h

theorem runs_cramped_run {α : Type} (p : FileProgram α) (t : Tree) :
    Runs cramped p t (t.run p).1 (t.run p).2 :=
  (runs_exact_run p t).mono fun _ _ _ _ => cramped_of_exact

theorem exact_of_cramped {op : Files.Operation} (hop : ¬op.Puts) {r : Except IoFault op.Result}
    (h : cramped t op r t') : exact t op r t' := h.resolve_right fun h => hop h.1

/-- No file is where one was to be removed, whether there was one or not. -/
theorem file?_of_cramped_remove (hlocate : t.locate path = .ok (place, false))
    {r : Except IoFault Unit} (h : cramped t (.remove path) r t') : t'.file? place = none := by
  have hplace := locate_place hlocate
  have hexact : exact t (.remove path) r t' := exact_of_cramped id h
  obtain ⟨hr, -⟩ | ⟨e, hr, -, rfl⟩ := settle_eq_iff.1 hexact
  · obtain ⟨-, -, hn⟩ := node?_of_remove hr
    rw [file?, hn, if_pos hplace]
  · -- what cannot be removed is no file
    rw [remove, hlocate] at hr
    simp only [bind, Except.bind] at hr
    cases hn : t'.node? place with
    | none => rw [file?, hn]
    | some node =>
      rw [file?, hn]
      cases node with
      | directory => rfl
      | file bytes => simp [hn] at hr

end Tree

namespace DiskStore

open ConditionalGet.Path

variable {t t' : Tree} {root : List String} {disk : DiskStore} {now : Instant}
  {uri etag body : String}

theorem Replaced.faulty_of_cramped {path text : String} {x : Except StoreError Unit}
    (h : Replaced Tree.cramped path text t x t') : Replaced Tree.faulty path text t x t' :=
  runs_writeAtomic_iff.1 ((runs_writeAtomic_iff.2 h).mono fun _ _ _ _ => Tree.faulty_of_cramped)

/-! ## The way to the body files -/

/-- Paths to body files are located. -/
structure Accessible (disk : DiskStore) (t : Tree) : Prop where
  leads : t.Leads (bodiesPath disk.dir)
  clean : '\x00' ∉ (lead (bodiesPath disk.dir)).toList
  short : (bodiesPath disk.dir).utf8ByteSize + 70 ≤ Tree.longestPath

theorem Accessible.of_sameDirectories (h : Accessible disk t) (hs : Tree.SameDirectories t t') :
    Accessible disk t' := ⟨hs.leads h.leads, h.clean, h.short⟩

theorem Accessible.locate (h : Accessible disk t) {name : String} (hname : BodyName name) :
    t.locate (disk.bodyPath name) =
      .ok (Path.place t.working disk.dir ++ ["bodies", name], false) := by
  have hsize := hname.size_bodyPath disk
  have hshort := h.short
  rw [bodyPath] at hsize
  rw [bodyPath, Tree.locate_join h.leads hname.plain, if_neg h.clean, if_neg (by omega),
    place_bodiesPath, List.append_assoc]
  rfl

/-- Where a body file was written, any is located. -/
theorem Accessible.of_replaced {name : String} (hname : BodyName name)
    (h : Replaced Tree.faulty (disk.bodyPath name) body t (.ok ()) t') : Accessible disk t := by
  obtain ⟨-, hsame, -, hsize⟩ := Tree.of_ok (replaced_cases h)
  have hleads := Tree.of_ok ((replaced_leads hname h).imp_right fun h => ⟨h.1, trivial⟩)
  refine ⟨hleads, ?_, ?_⟩
  · cases h with
    | done hw hr =>
      obtain ⟨hr, -⟩ := Tree.of_ok (Tree.faulty_rename_cases hr)
      obtain ⟨bytes, hw, -⟩ := Tree.of_ok (Tree.faulty_write_cases hw)
      obtain ⟨found, hlocate⟩ := Tree.locate_of_writeBytes hw
      rw [bodyPath, temporary_join _ hname.plain hname.plain_temporary,
        Tree.locate_join hleads hname.plain_temporary] at hlocate
      intro hnul
      rw [if_pos hnul] at hlocate
      cases hlocate
  · rw [hname.size_bodyPath] at hsize
    exact hsize

/-! ## Opening and looking up -/

/-- Where body files are located, the index that was written is opened. -/
theorem openAt_of_accessible (ha : Accessible disk t) {index : Index}
    (hindex : t.file? (Path.place t.working disk.dir ++ ["index.json"]) =
      some (Text.encode index.text)) :
    t.run (openAt disk.dir).run = (.ok ⟨disk.dir, index, 0⟩, t) := by
  have hleads : t.Leads disk.dir := Tree.Leads.of_join plain_bodies ha.leads
  have hclean : '\x00' ∉ (lead disk.dir).toList := by
    intro hnul
    refine ha.clean ?_
    rw [bodiesPath, lead_join _ plain_bodies, join_eq_lead_append _ plain_bodies.isAbsolute]
    simp [hnul]
  have hshort := ha.short
  have hbodies : ("bodies" : String).utf8ByteSize = 6 := by decide
  have hjson : ("index.json" : String).utf8ByteSize = 10 := by decide
  rw [bodiesPath, size_join _ plain_bodies] at hshort
  have hmade : t.createAll (bodiesPath disk.dir) = (t, .ok ()) := by
    have hlong : ¬Tree.longestPath < (join disk.dir "bodies").utf8ByteSize := by
      rw [size_join _ plain_bodies]
      omega
    rw [bodiesPath, Tree.Leads.createAll plain_bodies ha.leads, if_neg hclean, if_neg hlong]
  have hlocate : t.locate (indexPath disk.dir) =
      .ok (Path.place t.working disk.dir ++ ["index.json"], false) := by
    have hlong : ¬Tree.longestPath < (join disk.dir "index.json").utf8ByteSize := by
      rw [size_join _ plain_indexName]
      omega
    rw [indexPath, Tree.locate_join hleads plain_indexName, if_neg hclean, if_neg hlong]
  exact Program.runs_answer_iff.1 (runs_openAt_iff.2 (.loaded (exact_of_createAll hmade)
    (exact_of_read (Tree.read_eq_ok hlocate hindex)) (Index.parse_text index)))

theorem run_lookup_of_lookedUp {x : Except StoreError Lookup}
    (h : LookedUp Tree.exact disk uri t x t) : t.run (disk.lookup uri).run = (x, t) :=
  Program.runs_answer_iff.1 (runs_lookup_iff.2 h)

/-- What is not on record is not found. -/
theorem lookup_of_none {dir : String} {index : Index} (sequence : UInt64)
    (hf : index.find? uri = none) :
    (t.run (DiskStore.lookup ⟨dir, index, sequence⟩ uri).run).1 = .ok .miss := by
  rw [run_lookup_of_lookedUp (.miss hf)]

section
variable {entry : IndexEntry} (ha : Accessible disk t) (hf : disk.index.find? uri = some entry)
  (hname : BodyName entry.bodyFile)
include ha hf hname

/-- What is on record and there is found. -/
theorem lookup_of_held
    (hfile : t.file? (Path.place t.working disk.dir ++ ["bodies", entry.bodyFile]) =
      some (Text.encode body)) :
    (t.run (disk.lookup uri).run).1 = .ok (.hit ⟨entry.etag, body⟩) := by
  have hread := Tree.read_eq_ok (ha.locate hname) hfile
  rw [run_lookup_of_lookedUp (.hit hf (exact_of_read hread))]

/-- What is on record where nothing is is found without a body. -/
theorem lookup_of_missing
    (hnode : t.node? (Path.place t.working disk.dir ++ ["bodies", entry.bodyFile]) = none) :
    (t.run (disk.lookup uri).run).1 = .ok (.etagOnly entry.etag) := by
  have hread := Tree.read_eq_notFound (ha.locate hname) hnode
  rw [run_lookup_of_lookedUp (.gone hf (exact_of_read hread))]

end

/-! ## Storing -/

/-- The path of the body file that a call to store replaces. -/
def replaced? (disk : DiskStore) (uri : String) : Option String :=
  (disk.index.find? uri).map IndexEntry.bodyFile

/-- A response is on record, and the body file of the one before is gone. -/
structure Settled (root : List String) (disk : DiskStore) (now : Instant) (uri etag body : String)
    (t t' : Tree) : Prop where
  directories : Tree.SameDirectories t t'
  accessible : Accessible disk t'
  index : t'.file? (root ++ ["index.json"]) =
    some (Text.encode (disk.recorded now uri etag).index.text)
  bodies : ∀ name, name ≠ temporaryName (bodyName uri etag now disk.sequence) →
    t'.file? (root ++ ["bodies", name]) =
      if name = bodyName uri etag now disk.sequence then some (Text.encode body)
      else if disk.replaced? uri = some name then none
      else t.file? (root ++ ["bodies", name])

/-- No body file is another, except that one by the name of a call that failed is gone. -/
structure Cleared (root : List String) (new : String) (t t' : Tree) : Prop where
  directories : Tree.SameDirectories t t'
  bodies : ∀ name, name ≠ temporaryName new →
    t'.file? (root ++ ["bodies", name]) = t.file? (root ++ ["bodies", name]) ∨
      name = new ∧ t'.file? (root ++ ["bodies", name]) = none

/-- No file is where a body file was to be removed. -/
theorem file?_of_removed_body (hroot : Path.place t.working disk.dir = root)
    (ha : Accessible disk t) {name : String} (hname : BodyName name) {r : Except IoFault Unit}
    (h : Tree.cramped t (.remove (disk.bodyPath name)) r t') :
    t'.file? (root ++ ["bodies", name]) = none ∧
      Tree.SameBut [root ++ ["bodies", name]] t t' := by
  have hsame := Tree.sameBut_of_faulty_remove (Tree.faulty_of_cramped h)
  rw [place_bodyPath _ _ hname, hroot] at hsame
  refine ⟨?_, hsame⟩
  rw [← hroot]
  exact Tree.file?_of_cramped_remove (ha.locate hname) h

/-- What is there once both files are replaced, and before anything is removed. -/
theorem settled_of_published (ha : Accessible disk t)
    (h : Published root disk (bodyName uri etag now disk.sequence) body
      (disk.listing now uri etag).text t t')
    (hfirst : disk.index.find? uri = none) : Settled root disk now uri etag body t t' where
  directories := h.same.directories
  accessible := ha.of_sameDirectories h.same.directories
  index := h.index
  bodies := by
    intro name hne
    split
    · rename_i hnew
      rw [hnew, h.body]
    rename_i hnew
    rw [replaced?, hfirst, Option.map_none, if_neg (by simp)]
    exact h.same.file _ (by simp [drafts, hne, hnew])

/-- What is there once the body file of the response before is removed. -/
theorem settled_of_removed (hroot : Path.place t.working disk.dir = root) (ha : Accessible disk t)
    {t₁ : Tree} (h : Published root disk (bodyName uri etag now disk.sequence) body
      (disk.listing now uri etag).text t t₁) {previous : IndexEntry} {r : Except IoFault Unit}
    (hf : disk.index.find? uri = some previous) (hprevious : BodyName previous.bodyFile)
    (hother : previous.bodyFile ≠ bodyName uri etag now disk.sequence)
    (hr : Tree.cramped t₁ (.remove (disk.bodyPath previous.bodyFile)) r t') :
    Settled root disk now uri etag body t t' := by
  have hroot₁ : Path.place t₁.working disk.dir = root := by
    rw [h.same.directories.working, hroot]
  have ha₁ := ha.of_sameDirectories h.same.directories
  obtain ⟨hgone, hsame⟩ := file?_of_removed_body hroot₁ ha₁ hprevious hr
  refine ⟨h.same.directories.trans hsame.directories, ha₁.of_sameDirectories hsame.directories,
    ?_, fun name hne => ?_⟩
  · rw [hsame.file _ (by simp), h.index]
    rfl
  rw [replaced?, hf, Option.map_some]
  split
  · rename_i hnew
    rw [hnew, hsame.file _ (by simp [hother.symm]), h.body]
  rename_i hnew
  split
  · rename_i hold
    rw [← Option.some.inj hold, hgone]
  · rename_i hold
    have hold' : name ≠ previous.bodyFile := fun he => hold (by rw [he])
    rw [hsame.file _ (by simp [hold']), h.same.file _ (by simp [drafts, hne, hnew])]

/-- What a call to store does where there may be no room. -/
theorem stored_bodies (hroot : Path.place t.working disk.dir = root)
    (hprevious : ∀ previous, disk.index.find? uri = some previous →
      BodyName previous.bodyFile ∧ previous.bodyFile ≠ bodyName uri etag now disk.sequence)
    {y : DiskStore × Except StoreError (Option Notice)}
    (h : Stored Tree.cramped disk now uri etag body t y t') :
    ((∃ e, y = (disk.counted, .error e)) ∧
        Cleared root (bodyName uri etag now disk.sequence) t t') ∨
      (∃ notice, y = (disk.recorded now uri etag, .ok notice)) ∧
        Settled root disk now uri etag body t t' := by
  have hname := bodyName_bodyName uri etag now disk.sequence
  cases h with
  | unwritten hb =>
    obtain ⟨-, hsame⟩ := (replaced_body hroot hname hb.faulty_of_cramped).resolve_left
      fun h => nomatch h.1
    exact .inl ⟨⟨_, rfl⟩, hsame.directories, fun name hne => .inl (hsame.file _ (by simp [hne]))⟩
  | @unlisted _ _ _ t₁ t₂ _ hb hi hr =>
    obtain ⟨-, hsame, -⟩ := Tree.of_ok (replaced_body hroot hname hb.faulty_of_cramped)
    have hroot₁ : Path.place t₁.working disk.dir = root := by rw [hsame.directories.working, hroot]
    obtain ⟨-, hsame'⟩ := (replaced_index hroot₁ hi.faulty_of_cramped).resolve_left
      fun h => nomatch h.1
    have hroot₂ : Path.place t₂.working disk.dir = root := by
      rw [hsame'.directories.working, hroot₁]
    have ha := (Accessible.of_replaced hname hb.faulty_of_cramped).of_sameDirectories
      (hsame.directories.trans hsame'.directories)
    obtain ⟨hgone, hremoved⟩ := file?_of_removed_body hroot₂ ha hname hr
    refine .inl ⟨⟨_, rfl⟩,
      (hsame.directories.trans hsame'.directories).trans hremoved.directories, fun name hne => ?_⟩
    by_cases hnew : name = bodyName uri etag now disk.sequence
    · exact .inr ⟨hnew, by rw [hnew, hgone]⟩
    · refine .inl ?_
      rw [hremoved.file _ (by simp [hnew]), hsame'.file _ (by simp),
        hsame.file _ (by simp [hne, hnew])]
  | added hb hi hf =>
    have ha := Accessible.of_replaced hname hb.faulty_of_cramped
    have hp := published_of_replaced hroot hname hb.faulty_of_cramped hi.faulty_of_cramped
    exact .inr ⟨⟨_, rfl⟩, settled_of_published ha hp hf⟩
  | superseded hb hi hf hr =>
    have ha := Accessible.of_replaced hname hb.faulty_of_cramped
    have hp := published_of_replaced hroot hname hb.faulty_of_cramped hi.faulty_of_cramped
    obtain ⟨hbody, hother⟩ := hprevious _ hf
    exact .inr ⟨⟨_, rfl⟩, settled_of_removed hroot ha hp hf hbody hother hr⟩

end DiskStore

end ConditionalGet
