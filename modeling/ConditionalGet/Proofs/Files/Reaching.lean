import ConditionalGet.Proofs.Files.Effects

/-!
# Operations that do not fail

`Tree.Leads t base` says that all names along a base are names of directories. A path that goes on
from the base with a plain name then leads to its place unless it is too long or no path at all
(`locate_join`), so reading says of no file that is there that it is not (`file?_of_notFound`), and
with a located path each operation succeeds that what stands at its place allows. None of them makes
or removes a directory (`Tree.SameDirectories`).
-/

set_option autoImplicit false

namespace ConditionalGet.Tree

open ConditionalGet.Path

variable {t t' t'' : Tree} {base name path : String} {place : List String}

/-! ## The way -/

/-- The names along a base lead to directories. -/
structure Leads (t : Tree) (base : String) : Prop where
  passes : t.Passes (origin t.working base) (along base)

theorem passes_append {here as bs : List String} :
    t.Passes here (as ++ bs) ↔ t.Passes here as ∧ t.Passes (resolve here as) bs := by
  induction as generalizing here with
  | nil => simp [Passes, resolve]
  | cons a as ih =>
    simp only [List.cons_append, Passes, resolve]
    split
    · exact ih
    split
    · exact ih
    · rw [ih, and_assoc, and_assoc]

theorem names_join_along (base : String) (h : Plain name) :
    names (join base name) = along (join base name) := by
  rw [names_join base h.isAbsolute, h.names, along_join base h]

theorem origin_join (working : List String) (h : Plain name) :
    origin working (join base name) = origin working base := by
  rw [origin, isAbsolute_join base h.isAbsolute, origin]

/-- The way to what is in a directory is the way to the directory and that it is one. -/
theorem leads_join_iff (h : Plain name) :
    t.Leads (join base name) ↔
      t.Leads base ∧ t.Passes (resolve (origin t.working base) (along base)) [name] := by
  constructor
  · intro hl
    have hp := hl.passes
    rw [origin_join t.working h, along_join base h, passes_append] at hp
    exact ⟨⟨hp.1⟩, hp.2⟩
  · rintro ⟨hl, hname⟩
    constructor
    rw [origin_join t.working h, along_join base h, passes_append]
    exact ⟨hl.passes, hname⟩

theorem Leads.of_join (h : Plain name) (hl : t.Leads (join base name)) : t.Leads base :=
  ((leads_join_iff h).1 hl).1

/-- What stands at the end of the way is a directory. -/
theorem Leads.directory (h : Plain name) (hl : t.Leads (join base name)) :
    t.node? (Path.place t.working base ++ [name]) = some .directory := by
  have hlast := ((leads_join_iff h).1 hl).2
  rw [resolve_along] at hlast
  simp only [Passes, h.ne_empty, h.ne_point, h.ne_points, decide_false, Bool.or_self,
    Bool.false_eq_true, if_false] at hlast
  exact hlast.2.1

theorem contains_nul_join (base : String) (h : Plain name) :
    (join base name).toList.contains '\x00' = decide ('\x00' ∈ (lead base).toList) := by
  rw [join_eq_lead_append base h.isAbsolute, String.toList_append, Bool.eq_iff_iff]
  simp [h.no_nul]

theorem isEmpty_join (base : String) (h : Plain name) : (join base name).isEmpty = false := by
  cases he : (join base name).isEmpty with
  | false => rfl
  | true =>
    have hchars : (join base name).toList = [] := by simpa using he
    rw [join_eq_lead_append base h.isAbsolute, String.toList_append,
      List.append_eq_nil_iff] at hchars
    exact absurd hchars.2 (by simpa using h.ne_empty)

/-- A path that goes on with a plain name is located unless it is no path. -/
theorem locate_join (hl : t.Leads base) (h : Plain name) :
    t.locate (join base name) =
      if '\x00' ∈ (lead base).toList then .error .nulInName
      else if longestPath < (join base name).utf8ByteSize then .error .nameTooLong
      else .ok (Path.place t.working base ++ [name], false) := by
  have hwalk : t.walk (origin t.working (join base name)) (names (join base name)) =
      .ok (Path.place t.working base ++ [name], false) := by
    rw [origin_join, names_join base h.isAbsolute, h.names, walk_of_passes hl.passes h,
      resolve_along]
    · rfl
    · exact h
  rw [origin] at hwalk
  rw [locate, contains_nul_join base h, isEmpty_join base h, hwalk]
  simp only [decide_eq_true_eq, Bool.false_eq_true, if_false]

/-! ## Directories -/

/-- The same places are directories. -/
structure SameDirectories (t t' : Tree) : Prop where
  working : t'.working = t.working
  directory : ∀ q, t'.node? q = some .directory ↔ t.node? q = some .directory

namespace SameDirectories

theorem refl (t : Tree) : SameDirectories t t := ⟨rfl, fun _ => Iff.rfl⟩

theorem trans (h : SameDirectories t t') (h' : SameDirectories t' t'') : SameDirectories t t'' :=
  ⟨h'.working.trans h.working, fun q => (h'.directory q).trans (h.directory q)⟩

theorem symm (h : SameDirectories t t') : SameDirectories t' t :=
  ⟨h.working.symm, fun q => (h.directory q).symm⟩

theorem leads (h : SameDirectories t t') (hl : t.Leads base) : t'.Leads base := by
  constructor
  rw [h.working]
  exact Passes.mono (fun q hq => (h.directory q).2 hq) hl.passes

theorem isDirectory (h : SameDirectories t t') (q : List String) :
    t'.isDirectory q = t.isDirectory q := by
  have hiff : ∀ u : Tree, u.isDirectory q = true ↔ u.node? q = some .directory := by
    intro u
    rw [Tree.isDirectory]
    cases u.node? q with
    | none => simp
    | some node => cases node <;> simp [Node.isDirectory]
  rw [Bool.eq_iff_iff, hiff, hiff]
  exact h.directory q

end SameDirectories

theorem sameDirectories_of_writeBytes {bytes : ByteArray} (h : t.writeBytes path bytes = .ok t') :
    SameDirectories t t' := by
  obtain ⟨hw, hno, hn⟩ := node?_of_writeBytes h
  refine ⟨hw, fun q => ?_⟩
  rw [hn q]
  split
  · rename_i hq
    simp [hq, hno]
  · rfl

theorem sameDirectories_of_remove (h : t.remove path = .ok t') : SameDirectories t t' := by
  obtain ⟨hw, hno, hn⟩ := node?_of_remove h
  refine ⟨hw, fun q => ?_⟩
  rw [hn q]
  split
  · rename_i hq
    simp [hq, hno]
  · rfl

theorem sameDirectories_of_rename {source target : String} {bytes : ByteArray}
    (hfile : t.node? (Path.place t.working source) = some (.file bytes))
    (h : t.rename source target = .ok t') : SameDirectories t t' := by
  obtain ⟨hw, hno, hn⟩ := node?_of_rename hfile h
  refine ⟨hw, fun q => ?_⟩
  rw [hn q]
  split
  · rename_i hq
    simp [hq, hno]
  split
  · rename_i hq
    simp [hq, hfile]
  · rfl

/-! ## Reading -/

/-- On a way that leads to it, what is not found is not there. -/
theorem read_join_eq_notFound_iff (hl : t.Leads base) (h : Plain name) :
    t.read (join base name) = .error .notFound ↔ '\x00' ∉ (lead base).toList ∧
      (join base name).utf8ByteSize ≤ longestPath ∧
      t.node? (Path.place t.working base ++ [name]) = none := by
  rw [read, readBytes, locate_join hl h]
  split
  · rename_i hnul
    simp [bind, Except.bind, hnul]
  rename_i hnul
  split
  · rename_i hlong
    simp [bind, Except.bind, Nat.not_le.2 hlong]
  rename_i hlong
  simp only [bind, Except.bind, hnul, not_false_eq_true, Nat.not_lt.1 hlong, true_and]
  cases hn : t.node? (Path.place t.working base ++ [name]) with
  | none => simp
  | some node =>
    cases node with
    | directory => simp
    | file bytes =>
      -- what is there is read, and if it is no text the error says so
      simp only [Bool.false_eq_true, if_false]
      split <;> simp

/-- Reading does not miss a file on a way that leads to it. -/
theorem file?_of_notFound (hl : t.Leads base) (h : Plain name)
    (hr : t.read (join base name) = .error .notFound) :
    t.file? (Path.place t.working base ++ [name]) = none := by
  rw [file?, ((read_join_eq_notFound_iff hl h).1 hr).2.2]

variable (hlocate : t.locate path = .ok (place, false))
include hlocate

theorem read_eq_ok {text : String} (h : t.file? place = some (Text.encode text)) :
    t.read path = .ok text := by
  rw [read, readBytes, hlocate]
  simp only [bind, Except.bind, file?_eq_some_iff.1 h, Bool.false_eq_true, if_false,
    Text.decode?_encode]

theorem read_eq_notFound (h : t.node? place = none) : t.read path = .error .notFound := by
  rw [read, readBytes, hlocate]
  simp only [bind, Except.bind, h]

theorem writeBytes_ok (hdirectory : t.isDirectory place.dropLast = true)
    (hno : t.node? place ≠ some .directory) (bytes : ByteArray) :
    ∃ t', t.writeBytes path bytes = .ok t' := by
  rw [writeBytes, hlocate]
  simp only [bind, Except.bind]
  cases hn : t.node? place with
  | none => simp [hdirectory]
  | some node =>
    cases node with
    | file there => simp
    | directory => exact absurd hn hno

theorem rename_ok {target : String} {place' : List String} {bytes : ByteArray}
    (hlocate' : t.locate target = .ok (place', false)) (hfile : t.file? place = some bytes)
    (hdirectory : t.isDirectory place'.dropLast = true) (hno : t.node? place' ≠ some .directory) :
    ∃ t', t.rename path target = .ok t' := by
  rw [rename, hlocate, hlocate']
  simp only [bind, Except.bind, file?_eq_some_iff.1 hfile]
  cases hn : t.node? place' with
  | none => simp [hdirectory]
  | some node =>
    cases node with
    | file there => simp [hdirectory]
    | directory => exact absurd hn hno

omit hlocate

/-! ## Making directories -/

/-- Making directories that are there does nothing. -/
theorem descend_of_passes {here names : List String} (h : t.Passes here names) :
    t.descend here names = (t, .ok ()) := by
  induction names generalizing here with
  | nil => rfl
  | cons name rest ih =>
    rw [Passes] at h
    rw [descend]
    split
    · rename_i hs
      rw [if_pos hs] at h
      exact ih h
    rename_i hs
    rw [if_neg hs] at h
    split
    · rename_i hp
      rw [if_pos hp] at h
      exact ih h
    rename_i hp
    rw [if_neg hp] at h
    rw [if_neg (Nat.not_lt.2 h.1)]
    simp only [h.2.1]
    exact ih h.2.2

/-- Making a directory by a path that ends with a plain name. -/
theorem createAll_join (t : Tree) (base : String) (h : Plain name) :
    t.createAll (join base name) =
      if '\x00' ∈ (lead base).toList then (t, .error .nulInName)
      else if longestPath < (join base name).utf8ByteSize then (t, .error .nameTooLong)
      else t.descend (origin t.working (join base name)) (along (join base name)) := by
  rw [createAll, isEmpty_join base h, contains_nul_join base h, names_join_along base h, origin]
  simp only [decide_eq_true_eq, Bool.false_eq_true, if_false]

/-- Making a directory that is there does nothing, and succeeds where the path is one. -/
theorem Leads.createAll (h : Plain name) (hl : t.Leads (join base name)) :
    t.createAll (join base name) =
      (t, if '\x00' ∈ (lead base).toList then .error .nulInName
        else if longestPath < (join base name).utf8ByteSize then .error .nameTooLong
        else .ok ()) := by
  rw [createAll_join t base h, descend_of_passes hl.passes]
  split
  · rfl
  split <;> rfl

/-- What it takes to make a directory, and what is achieved by it. -/
theorem leads_of_createAll (h : Plain name) (hm : t.createAll (join base name) = (t', .ok ())) :
    t'.Leads (join base name) ∧ '\x00' ∉ (lead base).toList := by
  have hworking := (node?_createAll t (join base name)).1
  rw [hm] at hworking
  rw [createAll_join t base h] at hm
  split at hm
  · cases hm
  rename_i hnul
  split at hm
  · cases hm
  · rw [← hworking] at hm
    exact ⟨⟨passes_of_descend hm⟩, hnul⟩

end ConditionalGet.Tree
