/-!
# Finite maps in order of first insertion

`Table κ α` keeps each key once, in the order in which the keys were first inserted. Every
operation is described by what it does to `find?`: an inserted key answers the new value and all
other keys answer as before (`find?_insert`), and likewise for `erase`.
-/

set_option autoImplicit false

namespace ConditionalGet

/-- A finite map from `κ` to `α`; no key stands twice. -/
structure Table (κ α : Type) where
  entries : List (κ × α)
  nodup : (entries.map Prod.fst).Nodup := by simp

namespace Table

variable {κ α : Type}

/-- The map without entries. -/
def empty : Table κ α := { entries := [] }

instance : Inhabited (Table κ α) := ⟨empty⟩

/-- The keys in order of first insertion. -/
def keys (t : Table κ α) : List κ := t.entries.map Prod.fst

/-- How many keys have a value. -/
def size (t : Table κ α) : Nat := t.entries.length

/-- Whether no key has a value. -/
def isEmpty (t : Table κ α) : Bool := t.entries.isEmpty

variable [DecidableEq κ]

/-- The value that a list of entries gives to `k`: the first one. -/
def lookup (k : κ) : List (κ × α) → Option α
  | [] => none
  | e :: rest => if e.1 = k then some e.2 else lookup k rest

/-- Replaces the value of `k` where it stands, or adds `k` at the end. -/
def put (k : κ) (v : α) : List (κ × α) → List (κ × α)
  | [] => [(k, v)]
  | e :: rest => if e.1 = k then (k, v) :: rest else e :: put k v rest

theorem mem_keys_put (k x : κ) (v : α) (es : List (κ × α)) :
    x ∈ (put k v es).map Prod.fst ↔ x = k ∨ x ∈ es.map Prod.fst := by
  induction es with
  | nil => simp [put]
  | cons e rest ih =>
    by_cases h : e.1 = k
    · simp [put, h]
    · simp only [put, h, if_false, List.map_cons, List.mem_cons, ih]
      constructor
      · rintro (h | h | h) <;> simp [h]
      · rintro (h | h | h) <;> simp [h]

theorem nodup_put (k : κ) (v : α) {es : List (κ × α)} (h : (es.map Prod.fst).Nodup) :
    ((put k v es).map Prod.fst).Nodup := by
  induction es with
  | nil => simp [put]
  | cons e rest ih =>
    simp only [List.map_cons, List.nodup_cons] at h
    by_cases hk : e.1 = k
    · subst hk
      simpa [put] using h
    · simp only [put, hk, if_false, List.map_cons, List.nodup_cons, mem_keys_put, false_or]
      exact ⟨h.1, ih h.2⟩

theorem lookup_put (k x : κ) (v : α) (es : List (κ × α)) :
    lookup x (put k v es) = if x = k then some v else lookup x es := by
  induction es with
  | nil => simp [put, lookup, eq_comm]
  | cons e rest ih =>
    by_cases h : e.1 = k
    · by_cases hx : x = k
      · simp [put, lookup, h, hx]
      · have : k ≠ x := fun e => hx e.symm
        simp [put, lookup, h, hx, this]
    · by_cases hx : x = k
      · subst hx
        simp [put, lookup, h, ih]
      · simp [put, lookup, h, hx, ih]

theorem put_put (k : κ) (v w : α) (es : List (κ × α)) : put k w (put k v es) = put k w es := by
  induction es with
  | nil => simp [put]
  | cons e rest ih => by_cases h : e.1 = k <;> simp [put, h, ih]

theorem put_eq_self {k : κ} {v : α} {es : List (κ × α)} (h : lookup k es = some v) :
    put k v es = es := by
  induction es with
  | nil => cases h
  | cons e rest ih =>
    obtain ⟨x, w⟩ := e
    by_cases hx : x = k
    · subst hx
      simp only [lookup, if_true, Option.some.injEq] at h
      simp [put, h]
    · simp only [lookup, hx, if_false] at h
      simp only [put, hx, if_false, ih h]

theorem put_of_not_mem {k : κ} (v : α) {es : List (κ × α)} (h : k ∉ es.map Prod.fst) :
    put k v es = es ++ [(k, v)] := by
  induction es with
  | nil => rfl
  | cons e rest ih =>
    simp only [List.map_cons, List.mem_cons, not_or] at h
    have hk : e.1 ≠ k := fun he => h.1 he.symm
    rw [put, if_neg hk, ih h.2, List.cons_append]

/-- The value of `k`, if it has one. -/
def find? (t : Table κ α) (k : κ) : Option α := lookup k t.entries

def contains (t : Table κ α) (k : κ) : Bool := (t.find? k).isSome

def insert (t : Table κ α) (k : κ) (v : α) : Table κ α :=
  { entries := put k v t.entries, nodup := nodup_put k v t.nodup }

/-- Takes the value of `k` away. -/
def erase (t : Table κ α) (k : κ) : Table κ α :=
  { entries := t.entries.filter (·.1 ≠ k)
    nodup := t.nodup.sublist (List.filter_sublist.map _) }

/-- The map of a list of entries; of two entries for one key the later wins. -/
def ofList (es : List (κ × α)) : Table κ α := es.foldl (fun t e => t.insert e.1 e.2) empty

omit [DecidableEq κ] in
theorem ext_entries {t u : Table κ α} (h : t.entries = u.entries) : t = u := by
  cases t
  cases u
  cases h
  rfl

theorem entries_foldl_insert (es : List (κ × α)) (t : Table κ α)
    (h : ((t.entries ++ es).map Prod.fst).Nodup) :
    (es.foldl (fun t e => t.insert e.1 e.2) t).entries = t.entries ++ es := by
  induction es generalizing t with
  | nil => rw [List.foldl_nil, List.append_nil]
  | cons e rest ih =>
    have hsplit : t.entries ++ e :: rest = (t.entries ++ [e]) ++ rest := by simp
    have hnew : e.1 ∉ t.entries.map Prod.fst := by
      rw [List.map_append, List.nodup_append] at h
      exact fun hm => h.2.2 _ hm _ (by simp) rfl
    have hput : (t.insert e.1 e.2).entries = t.entries ++ [e] := put_of_not_mem e.2 hnew
    rw [List.foldl_cons, ih _ (by rw [hput, ← hsplit]; exact h), hput, hsplit]

/-- A map is the map of its entries. -/
theorem ofList_entries (t : Table κ α) : ofList t.entries = t :=
  ext_entries (by rw [ofList, entries_foldl_insert t.entries empty t.nodup]; rfl)

@[simp] theorem find?_empty (k : κ) : (empty : Table κ α).find? k = none := rfl

@[simp] theorem find?_insert (t : Table κ α) (k x : κ) (v : α) :
    (t.insert k v).find? x = if x = k then some v else t.find? x :=
  lookup_put k x v t.entries

/-- Of two values for one key the later stands where the former stood. -/
theorem insert_insert (t : Table κ α) (k : κ) (v w : α) :
    (t.insert k v).insert k w = t.insert k w := ext_entries (put_put k v w t.entries)

/-- Giving a key the value that it has changes nothing. -/
theorem insert_eq_self {t : Table κ α} {k : κ} {v : α} (h : t.find? k = some v) :
    t.insert k v = t := ext_entries (put_eq_self h)

theorem find?_erase (t : Table κ α) (k x : κ) :
    (t.erase k).find? x = if x = k then none else t.find? x := by
  show lookup x (t.entries.filter (·.1 ≠ k)) = if x = k then none else lookup x t.entries
  induction t.entries with
  | nil => simp [lookup]
  | cons e rest ih =>
    by_cases h : e.1 = k
    · by_cases hx : x = k
      · simp [h, hx] at ih ⊢; exact ih
      · have : k ≠ x := fun e => hx e.symm
        simp [h, hx, this, lookup] at ih ⊢; exact ih
    · by_cases hx : x = k
      · subst hx
        simp [h, lookup] at ih ⊢; exact ih
      · by_cases he : e.1 = x
        · simp [lookup, he, hx]
        · simp [h, hx, he, lookup] at ih ⊢; exact ih

theorem lookup_isSome_iff (k : κ) (es : List (κ × α)) :
    (lookup k es).isSome ↔ k ∈ es.map Prod.fst := by
  induction es with
  | nil => simp [lookup]
  | cons e rest ih =>
    by_cases h : e.1 = k
    · simp [lookup, h]
    · have : k ≠ e.1 := fun e' => h e'.symm
      simp [lookup, h, this, ih]

/-- The keys are those that have a value. -/
theorem mem_keys_iff (t : Table κ α) (k : κ) : k ∈ t.keys ↔ (t.find? k).isSome :=
  (lookup_isSome_iff k t.entries).symm

theorem lookup_eq_some_iff (k : κ) (v : α) {es : List (κ × α)} (h : (es.map Prod.fst).Nodup) :
    lookup k es = some v ↔ (k, v) ∈ es := by
  induction es with
  | nil => simp [lookup]
  | cons e rest ih =>
    simp only [List.map_cons, List.nodup_cons] at h
    obtain ⟨x, w⟩ := e
    by_cases hx : x = k
    · subst hx
      have hnot : (x, v) ∉ rest := fun hm => h.1 (List.mem_map.2 ⟨_, hm, rfl⟩)
      simp [lookup, hnot, eq_comm]
    · simp [lookup, hx, Ne.symm hx, ih h.2]

/-- The entries are the keys with their values. -/
theorem mem_entries_iff (t : Table κ α) (k : κ) (v : α) :
    (k, v) ∈ t.entries ↔ t.find? k = some v := (lookup_eq_some_iff k v t.nodup).symm

/-- To a key the order of the entries does not matter. -/
theorem find?_of_perm {t u : Table κ α} (h : t.entries.Perm u.entries) (k : κ) :
    t.find? k = u.find? k := by
  refine Option.ext fun v => ?_
  rw [← mem_entries_iff, ← mem_entries_iff, h.mem_iff]

theorem map_fst_put (k : κ) (v : α) (es : List (κ × α)) :
    (put k v es).map Prod.fst =
      if k ∈ es.map Prod.fst then es.map Prod.fst else es.map Prod.fst ++ [k] := by
  induction es with
  | nil => simp [put]
  | cons e rest ih =>
    by_cases h : e.1 = k
    · simp [put, h]
    · have hk : ¬k = e.1 := fun e' => h e'.symm
      simp only [put, h, if_false, List.map_cons, List.mem_cons, hk, false_or, ih]
      split <;> rfl

/-- A key is new or stays where it stands. -/
theorem keys_insert (t : Table κ α) (k : κ) (v : α) :
    (t.insert k v).keys = if k ∈ t.keys then t.keys else t.keys ++ [k] :=
  map_fst_put k v t.entries

omit [DecidableEq κ] in
theorem size_eq_length_keys (t : Table κ α) : t.size = t.keys.length :=
  (List.length_map _).symm

omit [DecidableEq κ] in
theorem isEmpty_eq_isEmpty_keys (t : Table κ α) : t.isEmpty = t.keys.isEmpty := by
  rw [isEmpty, keys]
  cases t.entries <;> rfl

/-- Whether two maps give every key the same value, whatever the order of their entries. -/
def sameAs [DecidableEq α] (t u : Table κ α) : Bool :=
  t.size == u.size && t.entries.all fun e => u.find? e.1 == some e.2

end Table

end ConditionalGet
