import ConditionalGet.Files.Tree
import ConditionalGet.Proofs.Path

/-!
# Where a path leads

Where a path leads does not depend on what is in a tree: `Tree.locate` either fails or gives
`Path.place` (`locate_place`). It does not fail if all names on the way belong to directories
(`Tree.Passes`), which is what making them achieves (`passes_of_descend`) and what only the removal
of a directory undoes (`Passes.mono`).
-/

set_option autoImplicit false

namespace ConditionalGet

/-! ## Places -/

namespace Path

/-- Where the names of a path lead from a directory. -/
def resolve : List String → List String → List String
  | here, [] => here
  | here, name :: rest =>
    if name = "" || name = "." then resolve here rest
    else if name = ".." then resolve here.dropLast rest
    else resolve (here ++ [name]) rest

/-- Where a path starts. -/
def origin (working : List String) (path : String) : List String :=
  if isAbsolute path then [] else working

/-- Where a path leads. -/
def place (working : List String) (path : String) : List String :=
  resolve (origin working path) (names path)

theorem resolve_append (here as bs : List String) :
    resolve here (as ++ bs) = resolve (resolve here as) bs := by
  induction as generalizing here with
  | nil => rfl
  | cons a as ih =>
    simp only [List.cons_append, resolve, ih]
    split
    · rfl
    · split <;> rfl

theorem resolve_empty (here : List String) : resolve here [""] = here := rfl

theorem resolve_plain (here : List String) {name : String} (h : Plain name) :
    resolve here [name] = here ++ [name] := by
  simp [resolve, h.ne_empty, h.ne_point, h.ne_points]

theorem resolve_all_empty (here : List String) {names : List String}
    (h : names.all (· = "") = true) : resolve here names = here := by
  induction names generalizing here with
  | nil => rfl
  | cons name rest ih =>
    simp only [List.all_cons, Bool.and_eq_true, decide_eq_true_eq] at h
    obtain ⟨rfl, hrest⟩ := h
    exact ih here hrest

/-- The way on from a path leads along where the path leads. -/
theorem resolve_along (here : List String) (base : String) :
    resolve here (along base) = resolve here (names base) := by
  unfold along lead
  by_cases he : base.isEmpty = true
  · have hb : base = "" := by simpa using he
    rw [if_pos he, hb]
    rfl
  rw [if_neg he]
  have hslash : (decide ('/' = '/')) = true := rfl
  split
  · rename_i hlast
    obtain ⟨cs, hcs⟩ := List.getLast?_eq_some_iff.1 hlast
    have hnames : names base = (Text.pieces (· = '/') cs).map String.ofList ++ [""] := by
      rw [names, hcs, Text.pieces_append_cons hslash]
      simp [Text.pieces]
    rw [hnames, List.dropLast_concat, resolve_append _ _ [""], resolve_empty]
  · have hnames : names (base ++ "/") = names base ++ [""] := by
      rw [names, names, String.toList_append]
      show List.map _ (Text.pieces _ (base.toList ++ '/' :: [])) = _
      rw [Text.pieces_append_cons hslash]
      simp [Text.pieces]
    rw [hnames, List.dropLast_concat]

theorem place_join (working : List String) (base : String) {name : String} (h : Plain name) :
    place working (join base name) = place working base ++ [name] := by
  rw [place, origin, isAbsolute_join base h.isAbsolute, names_join base h.isAbsolute, h.names,
    resolve_append, resolve_plain _ h, resolve_along]
  rfl

end Path

namespace Tree

open ConditionalGet.Path

variable {t t' : Tree}

theorem walk_place {here names place : List String} {directory : Bool}
    (h : t.walk here names = .ok (place, directory)) : place = resolve here names := by
  induction names generalizing here with
  | nil =>
    cases h
    rfl
  | cons name rest ih =>
    simp only [walk, resolve] at h ⊢
    split at h
    · rename_i hs
      rw [if_pos hs]
      exact ih h
    rename_i hs
    rw [if_neg hs]
    split at h
    · rename_i hp
      rw [if_pos hp]
      exact ih h
    rename_i hp
    rw [if_neg hp]
    split at h
    · cases h
    split at h
    · rename_i hr
      cases h
      rw [hr]
      rfl
    split at h
    · split at h
      · rename_i hall
        cases h
        rw [resolve_all_empty _ hall]
      · cases h
    · cases h
    · exact ih h

/-- A path leads where its names lead, whatever is in the tree. -/
theorem locate_place {path : String} {place : List String} {directory : Bool}
    (h : t.locate path = .ok (place, directory)) : place = Path.place t.working path := by
  unfold locate at h
  split at h
  · cases h
  split at h
  · cases h
  split at h
  · cases h
  · exact walk_place h

/-! ## The way to a place -/

/-- All names lead to directories. -/
def Passes (t : Tree) : List String → List String → Prop
  | _, [] => True
  | here, name :: rest =>
    if name = "" || name = "." then Passes t here rest
    else if name = ".." then Passes t here.dropLast rest
    else name.utf8ByteSize ≤ longestName ∧ t.node? (here ++ [name]) = some .directory ∧
      Passes t (here ++ [name]) rest

theorem Passes.mono (hle : ∀ p, t.node? p = some .directory → t'.node? p = some .directory)
    {here names : List String} (h : t.Passes here names) : t'.Passes here names := by
  induction names generalizing here with
  | nil => trivial
  | cons name rest ih =>
    simp only [Passes] at h ⊢
    split
    · rename_i hs
      rw [if_pos hs] at h
      exact ih h
    rename_i hs
    rw [if_neg hs] at h
    split
    · rename_i hp
      rw [if_pos hp] at h
      exact ih h
    rename_i hp
    rw [if_neg hp] at h
    exact ⟨h.1, hle _ h.2.1, ih h.2.2⟩

/-- A plain name behind names that lead to directories is found. -/
theorem walk_of_passes {here names : List String} {name : String} (h : t.Passes here names)
    (hn : Plain name) :
    t.walk here (names ++ [name]) = .ok (resolve here names ++ [name], false) := by
  induction names generalizing here with
  | nil =>
    have hlong : ¬longestName < name.utf8ByteSize := Nat.not_lt.2 hn.short
    simp [walk, resolve, hn.ne_empty, hn.ne_point, hn.ne_points, hlong]
  | cons first rest ih =>
    simp only [List.cons_append, walk, resolve, Passes] at h ⊢
    split
    · rename_i hs
      rw [if_pos hs] at h
      exact ih h
    rename_i hs
    rw [if_neg hs] at h
    split
    · rename_i hp
      rw [if_pos hp] at h
      exact ih h
    rename_i hp
    rw [if_neg hp] at h
    rw [if_neg (Nat.not_lt.2 h.1), if_neg (by simp), h.2.1]
    exact ih h.2.2

end Tree

end ConditionalGet
