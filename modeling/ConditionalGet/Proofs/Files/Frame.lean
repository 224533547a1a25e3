import ConditionalGet.Proofs.Files.Faults
import ConditionalGet.Proofs.Files.Reaching

/-!
# What operations leave alone

`Tree.SameBut places t t'` says that only at some places a file came, went or changed, and that no
directory did. Writing, renaming and removing files do no more than that at the places they are
about, whether they fail or not (`sameBut_of_writeBytes` and the lemmas after it). On a way that
leads to it, a file at any other place is read as before (`SameBut.read`).
-/

set_option autoImplicit false

namespace ConditionalGet.Tree

open ConditionalGet.Path

variable {t t' t'' : Tree} {base name path : String} {place : List String}
  {places places' : List (List String)}

namespace SameDirectories

/-- Where the directories are the same and a file is, the node is. -/
theorem node? (h : SameDirectories t t') {q : List String} (hf : t'.file? q = t.file? q) :
    t'.node? q = t.node? q := by
  by_cases hd : t.node? q = some .directory
  · rw [hd, (h.directory q).2 hd]
  have hd' : t'.node? q ≠ some .directory := fun he => hd ((h.directory q).1 he)
  cases hb : t.file? q with
  | some bytes => rw [file?_eq_some_iff.1 hb, file?_eq_some_iff.1 (hf.trans hb)]
  | none => rw [node?_eq_none hb hd, node?_eq_none (hf.trans hb) hd']

/-- What is read on a way that leads there is the file at its end. -/
theorem read (h : SameDirectories t t') (hl : t.Leads base) (hname : Plain name)
    (hf : t'.file? (Path.place t.working base ++ [name]) =
      t.file? (Path.place t.working base ++ [name])) :
    t'.read (join base name) = t.read (join base name) := by
  have hlocate : t'.locate (join base name) = t.locate (join base name) := by
    rw [locate_join hl hname, locate_join (h.leads hl) hname, h.working]
  rw [Tree.read, Tree.read, readBytes, readBytes, hlocate, locate_join hl hname]
  split
  · rfl
  split
  · rfl
  · simp only [bind, Except.bind, h.node? hf]

end SameDirectories

/-- Nothing but files at some places is another (module doc). -/
structure SameBut (places : List (List String)) (t t' : Tree) : Prop where
  directories : SameDirectories t t'
  file : ∀ q, q ∉ places → t'.file? q = t.file? q

namespace SameBut

theorem refl (places : List (List String)) (t : Tree) : SameBut places t t :=
  ⟨.refl t, fun _ _ => rfl⟩

theorem trans (h : SameBut places t t') (h' : SameBut places t' t'') : SameBut places t t'' :=
  ⟨h.directories.trans h'.directories, fun q hq => (h'.file q hq).trans (h.file q hq)⟩

theorem mono (h : SameBut places t t') (hle : places ⊆ places') : SameBut places' t t' :=
  ⟨h.directories, fun q hq => h.file q fun hm => hq (hle hm)⟩

theorem node? (h : SameBut places t t') {q : List String} (hq : q ∉ places) :
    t'.node? q = t.node? q := h.directories.node? (h.file q hq)

theorem read (h : SameBut places t t') (hl : t.Leads base) (hname : Plain name)
    (hp : Path.place t.working base ++ [name] ∉ places) :
    t'.read (join base name) = t.read (join base name) :=
  h.directories.read hl hname (h.file _ hp)

end SameBut

/-! ## Single operations -/

theorem sameBut_of_writeBytes {bytes : ByteArray} (h : t.writeBytes path bytes = .ok t') :
    SameBut [Path.place t.working path] t t' := by
  obtain ⟨-, -, hn⟩ := node?_of_writeBytes h
  refine ⟨sameDirectories_of_writeBytes h, fun q hq => file?_congr ?_⟩
  rw [hn q, if_neg (by simpa using hq)]

theorem sameBut_of_rename {source target : String} {bytes : ByteArray}
    (hfile : t.node? (Path.place t.working source) = some (.file bytes))
    (h : t.rename source target = .ok t') :
    SameBut [Path.place t.working source, Path.place t.working target] t t' := by
  obtain ⟨-, -, hn⟩ := node?_of_rename hfile h
  refine ⟨sameDirectories_of_rename hfile h, fun q hq => file?_congr ?_⟩
  rw [List.mem_cons, List.mem_singleton, not_or] at hq
  rw [hn q, if_neg hq.2, if_neg hq.1]

theorem sameBut_of_remove (h : t.remove path = .ok t') :
    SameBut [Path.place t.working path] t t' := by
  obtain ⟨-, -, hn⟩ := node?_of_remove h
  refine ⟨sameDirectories_of_remove h, fun q hq => file?_congr ?_⟩
  rw [hn q, if_neg (by simpa using hq)]

/-- A file that may be removed, as may happen to no other. -/
theorem sameBut_of_faulty_remove {r : Except IoFault Unit} (h : faulty t (.remove path) r t') :
    SameBut [Path.place t.working path] t t' := by
  obtain ⟨hr, -⟩ | ⟨-, rfl⟩ := faulty_remove_cases h
  · exact sameBut_of_remove hr
  · exact .refl _ _

/-! ## What it takes to write -/

/-- What is found behind a plain name is on a way that leads there. -/
theorem passes_of_walk {here names : List String} {found : List String × Bool} (hn : Plain name)
    (h : t.walk here (names ++ [name]) = .ok found) : t.Passes here names := by
  induction names generalizing here with
  | nil => trivial
  | cons first rest ih =>
    simp only [List.cons_append, walk, Passes] at h ⊢
    split
    · rename_i hs
      rw [if_pos hs] at h
      exact ih h
    rename_i hs
    rw [if_neg hs] at h
    split
    · rename_i hp
      rw [if_pos hp] at h
      exact ih h
    rename_i hp
    rw [if_neg hp] at h
    split at h
    · cases h
    rename_i hlong
    rw [if_neg (by simp)] at h
    split at h
    · rw [if_neg (by simpa using fun _ => hn.ne_empty)] at h
      cases h
    · cases h
    · rename_i hd
      exact ⟨Nat.not_lt.1 hlong, hd, ih h⟩

/-- What is located in a base is on a way along it. -/
theorem leads_of_locate {found : List String × Bool} (hname : Plain name)
    (h : t.locate (join base name) = .ok found) : t.Leads base := by
  rw [locate, contains_nul_join base hname, isEmpty_join base hname] at h
  split at h
  · cases h
  split at h
  · cases h
  split at h
  · cases h
  rw [← origin, origin_join t.working hname, names_join base hname.isAbsolute, hname.names] at h
  exact ⟨passes_of_walk hname h⟩

theorem size_of_locate {found : List String × Bool} (h : t.locate path = .ok found) :
    path.utf8ByteSize ≤ longestPath := by
  rw [locate] at h
  split at h
  · cases h
  split at h
  · cases h
  split at h
  · cases h
  · rename_i hlong
    exact Nat.not_lt.1 hlong

theorem locate_of_read {text : String} (h : t.read path = .ok text) :
    ∃ found, t.locate path = .ok found := by
  obtain ⟨bytes, hb, -⟩ := readBytes_of_read h
  obtain ⟨directory, hl, -⟩ := bind_locate_eq_ok hb
  exact ⟨_, hl⟩

theorem locate_of_writeBytes {bytes : ByteArray} (h : t.writeBytes path bytes = .ok t') :
    ∃ found, t.locate path = .ok found := by
  obtain ⟨directory, hl, -⟩ := bind_locate_eq_ok h
  exact ⟨_, hl⟩

theorem locate_of_rename {source target : String} (h : t.rename source target = .ok t') :
    ∃ found, t.locate target = .ok found := by
  obtain ⟨sourceDirectory, -, h⟩ := bind_locate_eq_ok h
  obtain ⟨directory, hl, -⟩ := bind_locate_eq_ok h
  exact ⟨_, hl⟩

end ConditionalGet.Tree
