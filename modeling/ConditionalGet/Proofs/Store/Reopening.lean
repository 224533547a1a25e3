import ConditionalGet.Proofs.Store.Mirror

/-!
# What a store that is opened anew knows

A store works with an index that it keeps in memory and writes out whenever that changes.
`Indexed dir disk t` says that the two have the same entries and that these name body files. A call
to store keeps it so, whatever operations fail and whatever body files there are
(`Indexed.stored`): no body file is the index. A store that is opened there again has the same
entries (`Indexed.reopened`).
-/

set_option autoImplicit false

namespace ConditionalGet.DiskStore

open Program ConditionalGet.Path

/-- The index of a store is the one in its directory (module doc). -/
structure Indexed (dir : String) (disk : DiskStore) (t : Tree) : Prop where
  dir_eq : disk.dir = dir
  names : ∀ uri entry, disk.index.find? uri = some entry → BodyName entry.bodyFile
  finds : Finds t (place t.working dir) disk.index

variable {dir : String} {disk disk' : DiskStore} {t t' : Tree} {root : List String} {index : Index}

theorem Finds.congr (h : Finds t root index)
    (hfile : t'.file? (root ++ ["index.json"]) = t.file? (root ++ ["index.json"])) :
    Finds t' root index := by
  unfold Finds
  rw [hfile]
  exact h

/-- A store that is opened has the index that is there. -/
theorem finds_of_opened (h : Opened Tree.exact dir t (.ok disk) t') :
    disk.dir = dir ∧ Finds t' (place t'.working dir) disk.index := by
  cases h with
  | fresh hm hr =>
    obtain ⟨hread, rfl⟩ := exact_read hr
    obtain ⟨hleads, -⟩ := Tree.leads_of_createAll plain_bodies (exact_createAll hm)
    exact ⟨rfl, .inr ⟨Tree.file?_of_notFound (.of_join plain_bodies hleads) plain_indexName hread,
      rfl⟩⟩
  | loaded hm hr hp =>
    obtain ⟨hread, rfl⟩ := exact_read hr
    obtain ⟨bytes, hfile, hd⟩ := Tree.file_of_read hread
    rw [place_indexPath] at hfile
    exact ⟨rfl, .inl ⟨bytes, _, hfile, hd, hp⟩⟩

/-! ## Storing -/

/-- What is done elsewhere than to the index leaves it alone. -/
theorem Indexed.of_sameBut (h : Indexed dir disk t) {places : List (List String)}
    (hsame : Tree.SameBut places t t') (hapart : place t.working dir ++ ["index.json"] ∉ places) :
    Indexed dir disk t' := by
  refine ⟨h.dir_eq, h.names, ?_⟩
  rw [hsame.directories.working]
  exact h.finds.congr (hsame.file _ hapart)

theorem Indexed.counted (h : Indexed dir disk t) : Indexed dir disk.counted t :=
  ⟨h.dir_eq, h.names, h.finds⟩

theorem Indexed.names_recorded (h : Indexed dir disk t) (now : Instant) (uri etag : String) :
    ∀ u entry, (disk.recorded now uri etag).index.find? u = some entry →
      BodyName entry.bodyFile := by
  intro u entry hf
  rw [find?_recorded] at hf
  split at hf
  · cases hf
    exact bodyName_bodyName uri etag now disk.sequence
  · exact h.names u entry hf

/-- Every call to store keeps the two the same. -/
theorem Indexed.stored (h : Indexed dir disk t) {now : Instant} {uri etag body : String}
    {y : DiskStore × Except StoreError (Option Notice)}
    (hs : Stored Tree.faulty disk now uri etag body t y t') : Indexed dir y.1 t' := by
  obtain ⟨⟨e, rfl⟩, hwithdrawn⟩ | ⟨⟨notice, rfl⟩, t₁, hpublished, hlast⟩ :=
    stored_cases rfl hs
  · refine (h.of_sameBut hwithdrawn.same ?_).counted
    rw [h.dir_eq]
    simp [drafts]
  have hlisted : Indexed dir (disk.recorded now uri etag) t₁ := by
    refine ⟨h.dir_eq, h.names_recorded now uri etag, finds_text ?_⟩
    rw [hpublished.same.directories.working, ← h.dir_eq]
    exact hpublished.index
  rcases hlast with rfl | ⟨previous, r, hf, hr⟩
  · exact hlisted
  · -- the file of the entry before is a body file, so the index stays
    refine hlisted.of_sameBut (Tree.sameBut_of_faulty_remove hr) ?_
    rw [place_bodyPath _ _ (h.names uri previous hf), h.dir_eq]
    simp

/-! ## Opening anew -/

/-- A store that is opened anew has the entries of the one before. -/
theorem Indexed.reopened (h : Indexed dir disk t) (ho : Opened Tree.exact dir t (.ok disk') t') :
    Indexed dir disk' t' ∧ disk'.index = disk.index := by
  have hmade : ∀ {t₁},
      Tree.exact t (.createAll (bodiesPath dir)) (.ok () : Except IoFault Unit) t₁ →
      Finds t₁ (place t₁.working dir) disk.index ∧ t₁.Leads dir := by
    intro t₁ hm
    obtain ⟨hworking, hfile⟩ := Tree.faulty_createAll (.inl hm)
    obtain ⟨hleads, -⟩ := Tree.leads_of_createAll plain_bodies (exact_createAll hm)
    rw [hworking]
    exact ⟨h.finds.congr (hfile _), .of_join plain_bodies hleads⟩
  have hindex : disk'.index = disk.index := by
    cases ho with
    | fresh hm hr =>
      obtain ⟨hread, rfl⟩ := exact_read hr
      obtain ⟨hfinds, hleads⟩ := hmade hm
      exact (hfinds.empty rfl hleads hread).symm
    | loaded hm hr hp =>
      obtain ⟨hread, rfl⟩ := exact_read hr
      exact Except.ok.inj (hp.symm.trans ((hmade hm).1.parse rfl hread))
  obtain ⟨hdir, hfinds⟩ := finds_of_opened ho
  exact ⟨⟨hdir, by rw [hindex]; exact h.names, hfinds⟩, hindex⟩

end ConditionalGet.DiskStore
