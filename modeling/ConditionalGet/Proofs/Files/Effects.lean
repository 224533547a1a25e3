import ConditionalGet.Proofs.Files.Places

/-!
# What file operations do to a tree

What stands at each place after an operation that succeeded (`node?_of_writeBytes`,
`node?_of_rename`, `node?_of_remove`), and that making directories keeps all that there is
(`node?_descend`) and makes all that is missing (`passes_of_descend`).
-/

set_option autoImplicit false

namespace ConditionalGet.Tree

open ConditionalGet.Path

variable {t t' : Tree} {path : String} {place : List String}

/-! ## Single places -/

theorem node?_set (h : place ≠ []) (node : Node) (q : List String) :
    (t.set place node).node? q = if q = place then some node else t.node? q := by
  simp only [node?, set, Table.find?_insert]
  by_cases hq : q = []
  · have hne : q ≠ place := fun he => h (he ▸ hq)
    rw [if_pos hq, if_pos hq, if_neg hne]
  · rw [if_neg hq, if_neg hq]

theorem node?_erase (h : place ≠ []) (q : List String) :
    (t.erase place).node? q = if q = place then none else t.node? q := by
  simp only [node?, erase, Table.find?_erase]
  by_cases hq : q = []
  · have hne : q ≠ place := fun he => h (he ▸ hq)
    rw [if_pos hq, if_pos hq, if_neg hne]
  · rw [if_neg hq, if_neg hq]

/-- Nothing is in the directory at a place, if there is one. -/
def Vacant (t : Tree) (root : List String) : Prop :=
  ∀ q, root <+: q → q ≠ root → t.node? q = none

def file? (t : Tree) (place : List String) : Option ByteArray :=
  match t.node? place with
  | some (.file bytes) => some bytes
  | _ => none

theorem file?_eq_some_iff {bytes : ByteArray} :
    t.file? place = some bytes ↔ t.node? place = some (.file bytes) := by
  unfold file?
  split
  · rename_i heq
    rw [heq]
    simp
  · rename_i hno
    constructor
    · intro h
      cases h
    · exact fun h => absurd h (hno bytes)

/-- Where neither a file nor a directory stands there is nothing. -/
theorem node?_eq_none (hfile : t.file? place = none)
    (hdirectory : t.node? place ≠ some .directory) : t.node? place = none := by
  rw [file?] at hfile
  cases hn : t.node? place with
  | none => rfl
  | some node =>
    rw [hn] at hfile hdirectory
    cases node with
    | file bytes => cases hfile
    | directory => exact absurd rfl hdirectory

/-- No file stands at the root. -/
theorem ne_nil_of_file {bytes : ByteArray} (h : t.node? place = some (.file bytes)) :
    place ≠ [] := by
  rintro rfl
  cases h

theorem ne_nil_of_none (h : t.node? place = none) : place ≠ [] := by
  rintro rfl
  cases h

/-- Where the nodes are the same the files are. -/
theorem file?_congr {q : List String} (h : t'.node? q = t.node? q) : t'.file? q = t.file? q := by
  rw [file?, file?, h]

/-! ## Operations that succeed -/

/-- What comes after a path was located. -/
theorem bind_locate_eq_ok {β : Type} {f : List String × Bool → Except IoFault β} {b : β}
    (h : (t.locate path >>= f) = .ok b) :
    ∃ directory, t.locate path = .ok (Path.place t.working path, directory) ∧
      f (Path.place t.working path, directory) = .ok b := by
  cases hl : t.locate path with
  | error e =>
    rw [hl] at h
    cases h
  | ok found =>
    obtain ⟨q, directory⟩ := found
    rw [hl, locate_place hl] at h
    exact ⟨directory, by rw [locate_place hl], h⟩

theorem file_of_readBytes {bytes : ByteArray} (h : t.readBytes path = .ok bytes) :
    t.node? (Path.place t.working path) = some (.file bytes) := by
  obtain ⟨directory, -, h⟩ := bind_locate_eq_ok h
  dsimp only at h
  split at h
  · cases h
  · cases h
  · rename_i heq
    split at h
    · cases h
    · cases h
      exact heq

theorem readBytes_of_read {text : String} (h : t.read path = .ok text) :
    ∃ bytes, t.readBytes path = .ok bytes ∧ Text.decode? bytes = some text := by
  unfold read at h
  cases hb : t.readBytes path with
  | error e =>
    rw [hb] at h
    cases h
  | ok bytes =>
    rw [hb] at h
    simp only [bind, Except.bind] at h
    split at h
    · rename_i heq
      cases h
      exact ⟨bytes, rfl, heq⟩
    · cases h

theorem file_of_read {text : String} (h : t.read path = .ok text) :
    ∃ bytes, t.file? (Path.place t.working path) = some bytes ∧
      Text.decode? bytes = some text := by
  obtain ⟨bytes, hb, hd⟩ := readBytes_of_read h
  exact ⟨bytes, file?_eq_some_iff.2 (file_of_readBytes hb), hd⟩

theorem node?_of_writeBytes {bytes : ByteArray} (h : t.writeBytes path bytes = .ok t') :
    t'.working = t.working ∧ t.node? (Path.place t.working path) ≠ some .directory ∧
      ∀ q, t'.node? q =
        if q = Path.place t.working path then some (.file bytes) else t.node? q := by
  obtain ⟨directory, -, h⟩ := bind_locate_eq_ok h
  dsimp only at h
  split at h
  · cases h
  · rename_i heq
    split at h
    · cases h
    · cases h
      exact ⟨rfl, by simp [heq], node?_set (ne_nil_of_file heq) _⟩
  · rename_i heq
    split at h
    · cases h
    split at h
    · cases h
    · cases h
      exact ⟨rfl, by simp [heq], node?_set (ne_nil_of_none heq) _⟩

theorem node?_of_remove (h : t.remove path = .ok t') :
    t'.working = t.working ∧ t.node? (Path.place t.working path) ≠ some .directory ∧
      ∀ q, t'.node? q = if q = Path.place t.working path then none else t.node? q := by
  obtain ⟨directory, -, h⟩ := bind_locate_eq_ok h
  dsimp only at h
  split at h
  · cases h
  · cases h
  · rename_i heq
    split at h
    · cases h
    · cases h
      exact ⟨rfl, by simp [heq], node?_erase (ne_nil_of_file heq)⟩

/-- Renaming a file. -/
theorem node?_of_rename {source target : String} {bytes : ByteArray}
    (hfile : t.node? (Path.place t.working source) = some (.file bytes))
    (h : t.rename source target = .ok t') :
    t'.working = t.working ∧ t.node? (Path.place t.working target) ≠ some .directory ∧
      ∀ q, t'.node? q = if q = Path.place t.working target then some (.file bytes)
        else if q = Path.place t.working source then none else t.node? q := by
  obtain ⟨aDirectory, -, h⟩ := bind_locate_eq_ok h
  obtain ⟨bDirectory, -, h⟩ := bind_locate_eq_ok h
  have hmoved : ∀ hb : t.node? (Path.place t.working target) ≠ some .directory,
      (if aDirectory || bDirectory then .error .notDirectory
        else if !t.isDirectory (Path.place t.working target).dropLast then .error .notFound
        else .ok ((t.erase (Path.place t.working source)).set
          (Path.place t.working target) (.file bytes)) : Except IoFault Tree) = .ok t' →
      t'.working = t.working ∧ t.node? (Path.place t.working target) ≠ some .directory ∧
        ∀ q, t'.node? q = if q = Path.place t.working target then some (.file bytes)
          else if q = Path.place t.working source then none else t.node? q := by
    intro hb h
    have hne : Path.place t.working target ≠ [] := by
      intro he
      rw [he] at hb
      exact hb rfl
    split at h
    · cases h
    split at h
    · cases h
    · cases h
      refine ⟨rfl, hb, fun q => ?_⟩
      rw [node?_set hne, node?_erase (ne_nil_of_file hfile)]
  simp only [hfile] at h
  cases hb : t.node? (Path.place t.working target) with
  | none =>
    rw [hb] at h hmoved
    exact hmoved (by simp) h
  | some node =>
    rw [hb] at h hmoved
    cases node with
    | directory => cases h
    | file there => exact hmoved (by simp) h

/-! ## Making directories -/

/-- Making directories keeps what there is, and adds nothing but directories. -/
theorem node?_descend (t : Tree) (here names : List String) :
    (t.descend here names).1.working = t.working ∧
      ∀ q, (t.descend here names).1.node? q = t.node? q ∨
        (t.node? q = none ∧ (t.descend here names).1.node? q = some .directory) := by
  induction names generalizing t here with
  | nil => exact ⟨rfl, fun _ => .inl rfl⟩
  | cons name rest ih =>
    rw [descend]
    split
    · exact ih t here
    split
    · exact ih t here.dropLast
    split
    · exact ⟨rfl, fun _ => .inl rfl⟩
    rcases heq : t.node? (here ++ [name]) with _ | _ | _
    · simp only [heq]
      obtain ⟨hw, hn⟩ := ih (t.set (here ++ [name]) .directory) (here ++ [name])
      refine ⟨hw, fun q => ?_⟩
      have hset := node?_set (t := t) (ne_nil_of_none heq) .directory q
      by_cases hq : q = here ++ [name]
      · rw [if_pos hq] at hset
        have hkept := (hn q).resolve_right fun h => by simp [hset] at h
        rw [hq] at hkept hset ⊢
        exact .inr ⟨heq, hkept.trans hset⟩
      · rw [if_neg hq] at hset
        rw [← hset]
        exact hn q
    · simp only [heq]
      simp
    · simp only [heq]
      exact ih t (here ++ [name])

theorem node?_createAll (t : Tree) (path : String) :
    (t.createAll path).1.working = t.working ∧
      ∀ q, (t.createAll path).1.node? q = t.node? q ∨
        (t.node? q = none ∧ (t.createAll path).1.node? q = some .directory) := by
  unfold createAll
  split
  · exact ⟨rfl, fun _ => .inl rfl⟩
  split
  · exact ⟨rfl, fun _ => .inl rfl⟩
  split
  · exact ⟨rfl, fun _ => .inl rfl⟩
  · exact node?_descend t _ _

/-- Once they are made, the names of a path lead to directories. -/
theorem passes_of_descend {here names : List String} (h : t.descend here names = (t', .ok ())) :
    t'.Passes here names := by
  induction names generalizing t here with
  | nil => trivial
  | cons name rest ih =>
    rw [descend] at h
    unfold Passes
    split at h
    · rename_i hs
      rw [if_pos hs]
      exact ih h
    rename_i hs
    rw [if_neg hs]
    split at h
    · rename_i hp
      rw [if_pos hp]
      exact ih h
    rename_i hp
    rw [if_neg hp]
    split at h
    · cases h
    rename_i hlong
    rcases heq : t.node? (here ++ [name]) with _ | _ | _
    · simp only [heq] at h
      have hset := node?_set (t := t) (ne_nil_of_none heq) .directory (here ++ [name])
      have hkept := (node?_descend (t.set (here ++ [name]) .directory) (here ++ [name]) rest).2
        (here ++ [name])
      rw [if_pos rfl] at hset
      rw [h, hset] at hkept
      exact ⟨Nat.not_lt.1 hlong, by simpa using hkept, ih h⟩
    · simp only [heq] at h
      cases h
    · simp only [heq] at h
      have hkept := (node?_descend t (here ++ [name]) rest).2 (here ++ [name])
      rw [h, heq] at hkept
      exact ⟨Nat.not_lt.1 hlong, by simpa using hkept, ih h⟩

end ConditionalGet.Tree
