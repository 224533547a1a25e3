import ConditionalGet.Text.Ascii
import ConditionalGet.Text.Utf8

/-!
# Header fields of a request

Names are tokens compared without regard to case, so they are kept in small letters; values are
bytes that may stand on a header line. A `Fields` value holds several values for one name in order,
and each operation is described by what it does to `Fields.values`.
-/

set_option autoImplicit false

namespace ConditionalGet

open Text

/-! ## Names -/

/-- Whether a character may stand in a name kept in small letters. -/
def isNameChar (c : Char) : Bool :=
  ('a' ≤ c && c ≤ 'z') || ('0' ≤ c && c ≤ '9') ||
    ['!', '#', '$', '%', '&', '\x27', '*', '+', '-', '.', '^', '_', '\x60', '|', '~'].contains c

/-- How many characters a name may have. -/
def longestName : Nat := 65535

/-- Whether a text is a header name in small letters. -/
def isFieldName (s : String) : Bool :=
  !s.toList.isEmpty && s.toList.length ≤ longestName && s.toList.all isNameChar

/-- A header name in small letters. -/
structure FieldName where
  text : String
  valid : isFieldName text = true
  deriving DecidableEq

namespace FieldName

/-- The name that a text gives, whatever the case of its letters. -/
def ofString? (s : String) : Option FieldName :=
  if h : isFieldName (lower s) = true then some ⟨lower s, h⟩ else none

theorem text_of_ofString? {s : String} {n : FieldName} (h : ofString? s = some n) :
    n.text = lower s := by
  unfold ofString? at h
  split at h
  · cases h; rfl
  · cases h

def accept : FieldName := ⟨"accept", by decide +kernel⟩
def authorization : FieldName := ⟨"authorization", by decide +kernel⟩
def cacheControl : FieldName := ⟨"cache-control", by decide +kernel⟩
def ifNoneMatch : FieldName := ⟨"if-none-match", by decide +kernel⟩

end FieldName

/-! ## Values -/

/-- Whether a byte may stand in a header value: no control but the tab. -/
def isValueByte (b : UInt8) : Bool := (0x20 ≤ b && b ≠ 0x7F) || b = 0x09

/-- A header value. A sensitive one is not to be shown to anybody. -/
structure FieldValue where
  bytes : List UInt8
  sensitive : Bool := false
  valid : bytes.all isValueByte = true
  deriving DecidableEq

namespace FieldValue

def ofBytes? (bytes : List UInt8) : Option FieldValue :=
  if h : bytes.all isValueByte = true then some { bytes := bytes, valid := h } else none

/-- The value that a text gives: its bytes as they are. -/
def ofString? (s : String) : Option FieldValue := ofBytes? (Text.bytes s)

theorem bytes_of_ofBytes? {bytes : List UInt8} {v : FieldValue} (h : ofBytes? bytes = some v) :
    v.bytes = bytes := by
  unfold ofBytes? at h
  split at h
  · cases h; rfl
  · cases h

theorem isSome_ofString? (s : String) :
    (ofString? s).isSome = (Text.bytes s).all isValueByte := by
  unfold ofString? ofBytes?
  split
  · rename_i h
    exact h.symm
  · rename_i h
    exact (Bool.eq_false_iff.2 h).symm

/-- Whether every byte is a visible ASCII character, a space or a tab. -/
def isAscii (v : FieldValue) : Bool := v.bytes.all fun b => (0x20 ≤ b && b < 0x7F) || b = 0x09

/-- The value as text, bytes that are no characters replaced. -/
def text (v : FieldValue) : String := decodeLossy v.bytes

end FieldValue

/-! ## Fields -/

/-- Header fields in order. A name may have several values. -/
structure Fields where
  list : List (FieldName × FieldValue)
  deriving DecidableEq

namespace Fields

def empty : Fields := ⟨[]⟩

/-- The values of a name in order. -/
def values (fs : Fields) (n : FieldName) : List FieldValue :=
  (fs.list.filter (·.1 = n)).map Prod.snd

/-- Takes all values of a name away. -/
def remove (fs : Fields) (n : FieldName) : Fields := ⟨fs.list.filter (·.1 ≠ n)⟩

/-- Adds a value for a name after those it has. -/
def append (fs : Fields) (n : FieldName) (v : FieldValue) : Fields := ⟨fs.list ++ [(n, v)]⟩

/-- Gives a name one value in place of those it has. -/
def insert (fs : Fields) (n : FieldName) (v : FieldValue) : Fields := (fs.remove n).append n v

/-- Takes over the fields of `gs`: a name that `gs` has gets its values in place of the former. -/
def extend (fs gs : Fields) : Fields :=
  ⟨(fs.list.filter fun f => !gs.list.any (·.1 = f.1)) ++ gs.list⟩

/-- The names that have a value, each once. -/
def names (fs : Fields) : List FieldName := (fs.list.map Prod.fst).eraseDups

@[simp] theorem values_empty (n : FieldName) : empty.values n = [] := rfl

@[simp] theorem values_append (fs : Fields) (n x : FieldName) (v : FieldValue) :
    (fs.append n v).values x = fs.values x ++ if x = n then [v] else [] := by
  by_cases h : x = n
  · simp [values, append, h]
  · have : n ≠ x := fun e => h e.symm
    simp [values, append, h, this]

@[simp] theorem values_remove (fs : Fields) (n x : FieldName) :
    (fs.remove n).values x = if x = n then [] else fs.values x := by
  simp only [values, remove, List.filter_filter]
  by_cases h : x = n
  · subst h
    simp
  · simp only [h, if_false]
    congr 1
    apply List.filter_congr
    intro f _
    by_cases hf : f.1 = x
    · simp [hf, h]
    · simp [hf]

@[simp] theorem values_insert (fs : Fields) (n x : FieldName) (v : FieldValue) :
    (fs.insert n v).values x = if x = n then [v] else fs.values x := by
  by_cases h : x = n <;> simp [insert, h]

theorem values_eq_nil_iff {fs : Fields} {n : FieldName} :
    fs.values n = [] ↔ ∀ f ∈ fs.list, f.1 ≠ n := by
  simp [values, List.filter_eq_nil_iff]

/-- A name without values has none to take away. -/
theorem remove_eq_self {fs : Fields} {n : FieldName} (h : fs.values n = []) : fs.remove n = fs := by
  refine congrArg Fields.mk (List.filter_eq_self.2 fun f hf => ?_)
  exact decide_eq_true (values_eq_nil_iff.1 h f hf)

/-- Taking a name's values away undoes giving it one. -/
theorem remove_insert (fs : Fields) (n : FieldName) (v : FieldValue) :
    (fs.insert n v).remove n = fs.remove n := by
  simp [insert, append, remove, List.filter_filter]

theorem remove_remove (fs : Fields) (n : FieldName) : (fs.remove n).remove n = fs.remove n :=
  remove_eq_self (by simp)

theorem insert_insert (fs : Fields) (n : FieldName) (v w : FieldValue) :
    (fs.insert n v).insert n w = fs.insert n w := by
  rw [insert, remove_insert]
  rfl

theorem values_extend (fs gs : Fields) (x : FieldName) :
    (fs.extend gs).values x = if gs.values x = [] then fs.values x else gs.values x := by
  have hany : gs.list.any (·.1 = x) = !(gs.values x).isEmpty := by
    rw [Bool.eq_iff_iff]
    simp [values, List.filter_eq_nil_iff]
  have key : ((fs.list.filter fun f => !gs.list.any (·.1 = f.1)).filter (·.1 = x)) =
      if gs.values x = [] then fs.list.filter (·.1 = x) else [] := by
    rw [List.filter_filter]
    split
    · rename_i h
      apply List.filter_congr
      intro f _
      by_cases hf : f.1 = x
      · subst hf
        simp [hany, h]
      · simp [hf]
    · rename_i h
      rw [List.filter_eq_nil_iff]
      intro f _
      by_cases hf : f.1 = x
      · subst hf
        simp [hany, List.isEmpty_iff, h]
      · simp [hf]
  simp only [values, extend, List.filter_append, List.map_append] at key ⊢
  rw [key]
  by_cases h : (gs.list.filter (·.1 = x)).map Prod.snd = [] <;> simp [h]

end Fields

end ConditionalGet
