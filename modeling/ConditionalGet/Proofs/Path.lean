import ConditionalGet.Path
import ConditionalGet.Proofs.Text.Words

/-!
# The names along a path

Joining a relative path to a base puts it behind `Path.lead base`, so the names along the result are
those along the base (`Path.along`) and then those of the relative path (`names_join`). Changing the
extension of a joined path changes its last name alone (`withExtension_join`).
-/

set_option autoImplicit false

namespace ConditionalGet

namespace Path

/-- A name that leads from a directory to what stands in it: no separator, no point or two points,
and short enough for a file system. -/
structure Plain (name : String) : Prop where
  ne_empty : name ≠ ""
  ne_point : name ≠ "."
  ne_points : name ≠ ".."
  no_slash : '/' ∉ name.toList
  no_nul : '\x00' ∉ name.toList
  short : name.utf8ByteSize ≤ 255

theorem Plain.isAbsolute {name : String} (h : Plain name) : isAbsolute name = false := by
  unfold Path.isAbsolute
  cases hn : name.toList with
  | nil => rfl
  | cons c cs =>
    have hc : c ≠ '/' := by
      rintro rfl
      exact h.no_slash (hn ▸ List.mem_cons_self)
    simp [hc]

theorem Plain.names {name : String} (h : Plain name) : names name = [name] := by
  have hp : Text.pieces (· = '/') name.toList = [name.toList] :=
    Text.pieces_eq_singleton fun c hc => by
      have hne : c ≠ '/' := by
        rintro rfl
        exact h.no_slash hc
      simpa using hne
  rw [Path.names, hp, List.map_singleton, String.ofList_toList]

/-! ## Joining -/

/-- What stands before a relative path that is joined to a base. -/
def lead (base : String) : String :=
  if base.isEmpty then ""
  else if base.toList.getLast? = some '/' then base
  else base ++ "/"

/-- The names along a base on the way to what is joined to it. -/
@[irreducible] def along (base : String) : List String := (names (lead base)).dropLast

theorem join_eq_lead_append (base : String) {path : String} (h : isAbsolute path = false) :
    join base path = lead base ++ path := by
  unfold join lead
  rw [h, Bool.false_or]
  by_cases he : base.isEmpty = true
  · rw [if_pos he, if_pos he]
    simp
  · rw [if_neg he, if_neg he]
    split
    · rfl
    · rfl

/-- What stands before is nothing, or ends with a separator. -/
theorem lead_toList (base : String) :
    (lead base).toList = [] ∨ ∃ cs, (lead base).toList = cs ++ ['/'] := by
  unfold lead
  split
  · exact .inl rfl
  · split
    · rename_i h
      exact .inr (List.getLast?_eq_some_iff.1 h)
    · exact .inr ⟨base.toList, by simp⟩

theorem names_join (base : String) {path : String} (h : isAbsolute path = false) :
    names (join base path) = along base ++ names path := by
  rw [join_eq_lead_append base h, along, names, names, names, String.toList_append]
  rcases lead_toList base with hl | ⟨cs, hl⟩
  · simp [hl, Text.pieces]
  · have hslash : (decide ('/' = '/')) = true := rfl
    rw [hl, List.append_assoc, List.singleton_append, Text.pieces_append_cons hslash,
      Text.pieces_append_cons hslash]
    simp [Text.pieces]

theorem isAbsolute_join (base : String) {path : String} (h : isAbsolute path = false) :
    isAbsolute (join base path) = isAbsolute base := by
  rw [join_eq_lead_append base h]
  unfold lead
  by_cases he : base.isEmpty = true
  · rw [if_pos he]
    have hb : base = "" := by simpa using he
    have hempty : isAbsolute "" = false := rfl
    rw [hb, hempty]
    simpa using h
  · rw [if_neg he]
    have hb : base.toList ≠ [] := by simpa using he
    cases hc : base.toList with
    | nil => exact absurd hc hb
    | cons c cs =>
      split <;> simp [isAbsolute, hc]

/-- A path that ends with a plain name goes on behind a separator. -/
theorem lead_join (base : String) {name : String} (h : Plain name) :
    lead (join base name) = join base name ++ "/" := by
  have hne : name.toList ≠ [] := by simpa using h.ne_empty
  obtain ⟨c, hc⟩ : ∃ c, name.toList.getLast? = some c :=
    ⟨_, List.getLast?_eq_some_getLast hne⟩
  have hslash : c ≠ '/' := by
    rintro rfl
    exact h.no_slash (List.mem_of_getLast? hc)
  have hlast : (join base name).toList.getLast? = some c := by
    rw [join_eq_lead_append base h.isAbsolute, String.toList_append,
      List.getLast?_append, hc, Option.some_or]
  have hnonempty : (join base name).isEmpty = false := by
    cases he : (join base name).isEmpty with
    | false => rfl
    | true =>
      have : join base name = "" := by simpa using he
      rw [this] at hlast
      cases hlast
  rw [lead, hnonempty, hlast, if_neg Bool.false_ne_true,
    if_neg fun he => hslash (Option.some.inj he)]

/-- The way on from a path that ends with a plain name goes along that name too. -/
theorem along_join (base : String) {name : String} (h : Plain name) :
    along (join base name) = along base ++ [name] := by
  have hslash : (decide ('/' = '/')) = true := rfl
  have hnames : names (join base name ++ "/") = names (join base name) ++ [""] := by
    rw [names, names, String.toList_append]
    show List.map _ (Text.pieces _ ((join base name).toList ++ '/' :: [])) = _
    rw [Text.pieces_append_cons hslash]
    simp [Text.pieces]
  rw [along, lead_join base h, hnames, List.dropLast_concat, names_join base h.isAbsolute, h.names]

/-! ## Extensions -/

theorem nameWithExtension_append {stem extension : List Char} (hstem : stem ≠ [])
    (hpoint : '.' ∉ extension) (new : List Char) :
    nameWithExtension (stem ++ '.' :: extension) new = stem ++ '.' :: new := by
  have hin : ∀ c ∈ extension.reverse, decide (c ≠ '.') = true := by
    intro c hc
    have hne : c ≠ '.' := by
      rintro rfl
      exact hpoint (List.mem_reverse.1 hc)
    simpa using hne
  have hstem' : stem.reverse.isEmpty = false := by simpa using hstem
  have hdrop : (stem ++ '.' :: extension).reverse.dropWhile (· ≠ '.') = '.' :: stem.reverse := by
    rw [List.reverse_append, List.reverse_cons, List.append_assoc,
      List.dropWhile_append_of_pos hin]
    simp
  simp only [nameWithExtension, hdrop, hstem', List.reverse_reverse, if_neg Bool.false_ne_true]

theorem withExtension_join (base : String) {name : String} (h : Plain name) (extension : String) :
    withExtension (join base name) extension =
      lead base ++ String.ofList (nameWithExtension name.toList extension.toList) := by
  have hin : ∀ c ∈ name.toList.reverse, decide (c ≠ '/') = true := fun c hc => by
    have hne : c ≠ '/' := by
      rintro rfl
      exact h.no_slash (List.mem_reverse.1 hc)
    simpa using hne
  have htake : (name.toList.reverse ++ (lead base).toList.reverse).takeWhile (· ≠ '/') =
      name.toList.reverse := by
    rw [List.takeWhile_append_of_pos hin]
    rcases lead_toList base with hl | ⟨cs, hl⟩ <;> simp [hl]
  have hdrop : (name.toList.reverse ++ (lead base).toList.reverse).dropWhile (· ≠ '/') =
      (lead base).toList.reverse := by
    rw [List.dropWhile_append_of_pos hin]
    rcases lead_toList base with hl | ⟨cs, hl⟩ <;> simp [hl]
  rw [join_eq_lead_append base h.isAbsolute]
  simp only [withExtension, String.toList_append, List.reverse_append, htake, hdrop,
    List.reverse_reverse]
  rw [String.ofList_append, String.ofList_toList]

end Path

end ConditionalGet
