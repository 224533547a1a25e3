import ConditionalGet.Proofs.Files.Frame
import ConditionalGet.Proofs.Store.Layout

/-!
# Which files a call changes

What opening a store, storing and looking up do to the files of a directory in which any operation
may fail (`opened_faulty`, `stored_faulty`, `lookedUp_faulty`). A call that stores a response leaves
behind what no index names if it fails (`Withdrawn`), and otherwise its body file and the index that
names it (`Published`): `stored_cases` says so, and the rest is read off it.
-/

set_option autoImplicit false

namespace ConditionalGet.DiskStore

open Program

variable {t t' : Tree}

/-- Writing a file and renaming it puts the text there, or it fails and nothing is another but the
file that is written first. -/
theorem replaced_cases {path text : String} {x : Except StoreError Unit}
    (h : Replaced Tree.faulty path text t x t') :
    (x = .ok () ∧
        Tree.SameBut [Path.place t.working (temporary path), Path.place t.working path] t t' ∧
        t'.file? (Path.place t.working path) = some (Text.encode text) ∧
        path.utf8ByteSize ≤ Tree.longestPath) ∨
      ((∃ e, x = .error e) ∧ Tree.SameBut [Path.place t.working (temporary path)] t t') := by
  have hwritten : ∀ {t₁ r}, Tree.faulty t (.write (temporary path) text) r t₁ →
      Tree.SameBut [Path.place t.working (temporary path)] t t₁ := by
    intro t₁ r hw
    obtain ⟨bytes, hw, -⟩ | ⟨-, rfl⟩ := Tree.faulty_write_cases hw
    · exact Tree.sameBut_of_writeBytes hw
    · exact .refl _ _
  cases h with
  | unwritten hw => exact .inr ⟨⟨_, rfl⟩, hwritten hw⟩
  | @unrenamed _ _ t₁ _ hw hr =>
    obtain ⟨-, hok⟩ | ⟨-, rfl⟩ := Tree.faulty_rename_cases hr
    · cases hok
    · exact .inr ⟨⟨_, rfl⟩, hwritten hw⟩
  | @done _ t₁ _ hw hr =>
    have hsame := hwritten hw
    obtain ⟨bytes, hw, hbytes⟩ := Tree.of_ok (Tree.faulty_write_cases hw)
    obtain ⟨hr, -⟩ := Tree.of_ok (Tree.faulty_rename_cases hr)
    have hfile := (Tree.node?_of_writeBytes hw).2.2 (Path.place t.working (temporary path))
    rw [if_pos rfl, hbytes rfl, ← hsame.directories.working] at hfile
    have hrenamed := Tree.sameBut_of_rename hfile hr
    have hthere := (Tree.node?_of_rename hfile hr).2.2 (Path.place t₁.working path)
    obtain ⟨found, hlocate⟩ := Tree.locate_of_rename hr
    rw [hsame.directories.working] at hrenamed hthere
    rw [if_pos rfl] at hthere
    exact .inl ⟨rfl, (hsame.mono (by simp)).trans hrenamed, Tree.file?_eq_some_iff.2 hthere,
      Tree.size_of_locate hlocate⟩

section
variable {root : List String} {disk : DiskStore} {x : Except StoreError Unit}
  (hroot : Path.place t.working disk.dir = root)
include hroot

theorem replaced_body {name body : String} (hname : BodyName name)
    (h : Replaced Tree.faulty (disk.bodyPath name) body t x t') :
    (x = .ok () ∧ Tree.SameBut
        [root ++ ["bodies", temporaryName name], root ++ ["bodies", name]] t t' ∧
        t'.file? (root ++ ["bodies", name]) = some (Text.encode body) ∧
        (disk.bodyPath name).utf8ByteSize ≤ Tree.longestPath) ∨
      ((∃ e, x = .error e) ∧ Tree.SameBut [root ++ ["bodies", temporaryName name]] t t') := by
  have hr := replaced_cases h
  rwa [place_bodyPath _ _ hname, place_temporary_bodyPath _ _ hname, hroot] at hr

theorem replaced_index {text : String} (h : Replaced Tree.faulty (indexPath disk.dir) text t x t') :
    (x = .ok () ∧ Tree.SameBut [root ++ ["index.tmp"], root ++ ["index.json"]] t t' ∧
        t'.file? (root ++ ["index.json"]) = some (Text.encode text) ∧
        (indexPath disk.dir).utf8ByteSize ≤ Tree.longestPath) ∨
      ((∃ e, x = .error e) ∧ Tree.SameBut [root ++ ["index.tmp"]] t t') := by
  have hr := replaced_cases h
  rwa [place_indexPath, place_temporary_indexPath, hroot] at hr

end

/-- Nothing is written to a directory that no way leads to. -/
theorem replaced_leads {disk : DiskStore} {name body : String} {x : Except StoreError Unit}
    (hname : BodyName name) (h : Replaced Tree.faulty (disk.bodyPath name) body t x t') :
    t.Leads (bodiesPath disk.dir) ∨ ((∃ e, x = .error e) ∧ t' = t) := by
  have hleads : ∀ {t₁ bytes}, t.writeBytes (temporary (disk.bodyPath name)) bytes = .ok t₁ →
      t.Leads (bodiesPath disk.dir) := by
    intro t₁ bytes hw
    obtain ⟨found, hlocate⟩ := Tree.locate_of_writeBytes hw
    rw [bodyPath, temporary_join _ hname.plain hname.plain_temporary] at hlocate
    exact Tree.leads_of_locate hname.plain_temporary hlocate
  have hwritten : ∀ {t₁}, Tree.faulty t (.write (temporary (disk.bodyPath name)) body)
      (.ok () : Except IoFault Unit) t₁ → t.Leads (bodiesPath disk.dir) := by
    intro t₁ hw
    obtain ⟨bytes, hw, -⟩ := Tree.of_ok (Tree.faulty_write_cases hw)
    exact hleads hw
  cases h with
  | unwritten hw =>
    obtain ⟨bytes, hw, -⟩ | ⟨-, rfl⟩ := Tree.faulty_write_cases hw
    · exact .inl (hleads hw)
    · exact .inr ⟨⟨_, rfl⟩, rfl⟩
  | unrenamed hw _ => exact .inl (hwritten hw)
  | done hw _ => exact .inl (hwritten hw)

/-! ## Storing -/

/-- The places that a call to store writes to before the index names its body file. -/
def drafts (root : List String) (name : String) : List (List String) :=
  [root ++ ["bodies", temporaryName name], root ++ ["bodies", name], root ++ ["index.tmp"]]

/-- Nothing is another that an index may name. -/
structure Withdrawn (root : List String) (disk : DiskStore) (name : String) (t t' : Tree) :
    Prop where
  same : Tree.SameBut (drafts root name) t t'
  leads : t' = t ∨ t.Leads (bodiesPath disk.dir)

/-- A body file is there, and the index that names it. -/
structure Published (root : List String) (disk : DiskStore) (name body text : String)
    (t t' : Tree) : Prop where
  same : Tree.SameBut (drafts root name ++ [root ++ ["index.json"]]) t t'
  body : t'.file? (root ++ ["bodies", name]) = some (Text.encode body)
  index : t'.file? (root ++ ["index.json"]) = some (Text.encode text)
  size : (disk.bodyPath name).utf8ByteSize ≤ Tree.longestPath

section
variable {root : List String} {disk : DiskStore} {now : Instant} {uri etag body : String}

/-- What is there once both files are replaced. -/
theorem published_of_replaced {name text : String} {t₁ : Tree}
    (hroot : Path.place t.working disk.dir = root) (hname : BodyName name)
    (hb : Replaced Tree.faulty (disk.bodyPath name) body t (.ok ()) t₁)
    (hi : Replaced Tree.faulty (indexPath disk.dir) text t₁ (.ok ()) t') :
    Published root disk name body text t t' := by
  obtain ⟨-, hsame, hbody, hsize⟩ := Tree.of_ok (replaced_body hroot hname hb)
  have hroot₁ : Path.place t₁.working disk.dir = root := by rw [hsame.directories.working, hroot]
  obtain ⟨-, hsame', hindex, -⟩ := Tree.of_ok (replaced_index hroot₁ hi)
  refine ⟨(hsame.mono ?_).trans (hsame'.mono ?_), ?_, hindex, hsize⟩
  · simp [drafts]
  · simp [drafts]
  · rw [hsame'.file _ (by simp), hbody]

/-- A call to store fails and lists nothing, or its response is published; then the body file of the
response on record before may be removed. -/
theorem stored_cases (hroot : Path.place t.working disk.dir = root)
    {y : DiskStore × Except StoreError (Option Notice)}
    (h : Stored Tree.faulty disk now uri etag body t y t') :
    let name := bodyName uri etag now disk.sequence
    ((∃ e, y = (disk.counted, .error e)) ∧ Withdrawn root disk name t t') ∨
      (∃ notice, y = (disk.recorded now uri etag, .ok notice)) ∧
        ∃ t₁, Published root disk name body (disk.listing now uri etag).text t t₁ ∧
          (t' = t₁ ∨ ∃ previous r, disk.index.find? uri = some previous ∧
            Tree.faulty t₁ (.remove (disk.bodyPath previous.bodyFile)) r t') := by
  intro name
  have hname : BodyName name := bodyName_bodyName uri etag now disk.sequence
  cases h with
  | unwritten hb =>
    obtain ⟨-, hsame⟩ := (replaced_body hroot hname hb).resolve_left fun h => nomatch h.1
    exact .inl ⟨⟨_, rfl⟩, hsame.mono (by simp [drafts]),
      (replaced_leads hname hb).symm.imp_left (·.2)⟩
  | @unlisted _ _ _ t₁ t₂ _ hb hi hr =>
    obtain ⟨-, hsame, -⟩ := Tree.of_ok (replaced_body hroot hname hb)
    have hroot₁ : Path.place t₁.working disk.dir = root := by rw [hsame.directories.working, hroot]
    obtain ⟨-, hsame'⟩ := (replaced_index hroot₁ hi).resolve_left fun h => nomatch h.1
    have hremoved := Tree.sameBut_of_faulty_remove hr
    rw [place_bodyPath _ _ hname, hsame'.directories.working, hroot₁] at hremoved
    refine .inl ⟨⟨_, rfl⟩, ((hsame.mono ?_).trans (hsame'.mono ?_)).trans (hremoved.mono ?_),
      .inr (Tree.of_ok (replaced_leads hname hb))⟩
    · simp [drafts]
    · simp [drafts]
    · simp [drafts, name]
  | added hb hi _ =>
    exact .inr ⟨⟨_, rfl⟩, _, published_of_replaced hroot hname hb hi, .inl rfl⟩
  | superseded hb hi hf hr =>
    exact .inr ⟨⟨_, rfl⟩, _, published_of_replaced hroot hname hb hi, .inr ⟨_, _, hf, hr⟩⟩

/-- The files after a call to store. -/
theorem stored_faulty (hroot : Path.place t.working disk.dir = root)
    {y : DiskStore × Except StoreError (Option Notice)}
    (h : Stored Tree.faulty disk now uri etag body t y t') :
    let name := bodyName uri etag now disk.sequence
    t'.working = t.working ∧
      ((∃ notice, y = (disk.recorded now uri etag, .ok notice) ∧
          ∀ q, q ≠ root ++ ["bodies", temporaryName name] → q ≠ root ++ ["index.tmp"] →
            t'.file? q = none ∨ t'.file? q =
              if q = root ++ ["index.json"] then some (Text.encode (disk.listing now uri etag).text)
              else if q = root ++ ["bodies", name] then some (Text.encode body)
              else t.file? q) ∨
        (∃ e, y = (disk.counted, .error e) ∧
          ∀ q, q ≠ root ++ ["bodies", temporaryName name] → q ≠ root ++ ["index.tmp"] →
            q ≠ root ++ ["bodies", name] → t'.file? q = none ∨ t'.file? q = t.file? q)) := by
  intro name
  obtain ⟨⟨e, rfl⟩, hwithdrawn⟩ | ⟨⟨notice, rfl⟩, t₁, hpublished, hlast⟩ := stored_cases hroot h
  · refine ⟨hwithdrawn.same.directories.working, .inr ⟨e, rfl, fun q htemp hindex hbody => .inr ?_⟩⟩
    exact hwithdrawn.same.file q (by simp [drafts, htemp, hindex, hbody, name])
  have hfile : ∀ q, q ≠ root ++ ["bodies", temporaryName name] → q ≠ root ++ ["index.tmp"] →
      t₁.file? q =
        if q = root ++ ["index.json"] then some (Text.encode (disk.listing now uri etag).text)
        else if q = root ++ ["bodies", name] then some (Text.encode body) else t.file? q := by
    intro q htemp htemp'
    split
    · rename_i hq
      rw [hq, hpublished.index]
    split
    · rename_i hq
      rw [hq, hpublished.body]
    · rename_i hindex hbody
      exact hpublished.same.file q (by simp [drafts, htemp, htemp', hindex, hbody, name])
  have hworking := hpublished.same.directories.working
  rcases hlast with rfl | ⟨previous, r, -, hr⟩
  · exact ⟨hworking, .inl ⟨notice, rfl, fun q hq hq' => .inr (hfile q hq hq')⟩⟩
  · obtain ⟨hworking', hremoved⟩ := Tree.faulty_remove hr
    refine ⟨hworking'.trans hworking, .inl ⟨notice, rfl, fun q hq hq' => ?_⟩⟩
    rw [← hfile q hq hq']
    exact (hremoved q).symm

end

theorem opened_faulty {dir : String} {x : Except StoreError DiskStore}
    (h : Opened Tree.faulty dir t x t') :
    t'.working = t.working ∧ (∀ q, t'.file? q = t.file? q) ∧
      ∀ handle, x = .ok handle → handle.dir = dir ∧ (handle.index = Table.empty ∨
        ∃ bytes text, t.file? (Path.place t.working (indexPath dir)) = some bytes ∧
          Text.decode? bytes = some text ∧ Index.parse text = .ok handle.index) := by
  cases h with
  | unmade hm =>
    obtain ⟨hw, hf⟩ := Tree.faulty_createAll hm
    exact ⟨hw, hf, fun _ he => (nomatch he)⟩
  | fresh hm hr =>
    obtain ⟨hw, hf⟩ := Tree.faulty_createAll hm
    obtain ⟨rfl, -⟩ := Tree.faulty_read hr
    refine ⟨hw, hf, fun _ he => ?_⟩
    cases he
    exact ⟨rfl, .inl rfl⟩
  | unread hm hr _ =>
    obtain ⟨hw, hf⟩ := Tree.faulty_createAll hm
    obtain ⟨rfl, -⟩ := Tree.faulty_read hr
    exact ⟨hw, hf, fun _ he => (nomatch he)⟩
  | corrupt hm hr _ =>
    obtain ⟨hw, hf⟩ := Tree.faulty_createAll hm
    obtain ⟨rfl, -⟩ := Tree.faulty_read hr
    exact ⟨hw, hf, fun _ he => (nomatch he)⟩
  | loaded hm hr hi =>
    obtain ⟨hw, hf⟩ := Tree.faulty_createAll hm
    obtain ⟨rfl, hb⟩ := Tree.faulty_read hr
    refine ⟨hw, hf, fun _ he => ?_⟩
    cases he
    obtain ⟨bytes, hfile, hd⟩ := hb _ rfl
    rw [hw, hf] at hfile
    exact ⟨rfl, .inr ⟨bytes, _, hfile, hd, hi⟩⟩

theorem lookedUp_faulty {disk : DiskStore} {uri : String} {x : Except StoreError Lookup}
    (h : LookedUp Tree.faulty disk uri t x t') :
    t' = t ∧
      (∀ r, x = .ok (.hit r) → ∃ entry bytes, disk.index.find? uri = some entry ∧
        r.etag = entry.etag ∧
        t.file? (Path.place t.working (disk.bodyPath entry.bodyFile)) = some bytes ∧
        Text.decode? bytes = some r.body) ∧
      ∀ etag, x = .ok (.etagOnly etag) → ∃ entry, disk.index.find? uri = some entry ∧
        etag = entry.etag := by
  cases h with
  | miss _ => exact ⟨rfl, fun _ he => (nomatch he), fun _ he => (nomatch he)⟩
  | hit hf hr =>
    obtain ⟨rfl, hb⟩ := Tree.faulty_read hr
    refine ⟨rfl, fun r he => ?_, fun _ he => (nomatch he)⟩
    cases he
    obtain ⟨bytes, hfile, hd⟩ := hb _ rfl
    exact ⟨_, bytes, hf, rfl, hfile, hd⟩
  | gone hf hr =>
    refine ⟨(Tree.faulty_read hr).1, fun _ he => (nomatch he), fun _ he => ?_⟩
    cases he
    exact ⟨_, hf, rfl⟩
  | unread _ hr _ =>
    exact ⟨(Tree.faulty_read hr).1, fun _ he => (nomatch he), fun _ he => (nomatch he)⟩

/-! ## Results on fixed inputs -/

theorem eq_ok_of_toOption {ε α : Type} {x : Except ε α} {a : α} (h : x.toOption = some a) :
    x = .ok a := by
  cases x with
  | error e => cases h
  | ok b =>
    cases h
    rfl

end ConditionalGet.DiskStore
