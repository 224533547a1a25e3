import ConditionalGet.Header
import Mathlib.Algebra.Group.Nat.Defs

/-!
# Reading bytes that may be no text

`decodeLossy` reads well-formed bytes as the text that they are (`decodeLossy_bytes`). What it reads
of a header value, well-formed or not, can be put on a request again (`ofString?_decodeLossy`): a
character that takes more than one byte has no byte among the controls, and a character begun in a
lossy reader always becomes one (`Pending.Sound`).
-/

set_option autoImplicit false

namespace ConditionalGet.Text

theorem bytes_ofList (cs : List Char) :
    bytes (String.ofList cs) = cs.flatMap String.utf8EncodeChar := by
  rw [bytes, encode, String.toUTF8_eq_toByteArray, String.toByteArray_ofList, List.utf8Encode,
    List.data_toByteArray]

theorem toNat_ofNat {n : Nat} (h : n < 256) : (UInt8.ofNat n).toNat = n := by
  rw [UInt8.toNat_ofNat']
  exact Nat.mod_eq_of_lt h

/-! ## One byte -/

section
variable {b low high : UInt8} {bs : List UInt8} {v missing : Nat}

theorem readLossy_ascii (h : b.toNat < 0x80) :
    readLossy .none (b :: bs) = Char.ofNat b.toNat :: readLossy .none bs :=
  if_pos (UInt8.lt_iff_toNat_lt.2 h)

theorem readLossy_lead (h : 0x80 ≤ b.toNat) (hlead : leadByte? b = some (missing, low, high, v)) :
    readLossy .none (b :: bs) = readLossy (.begun missing low high v) bs := by
  have hb : ¬b < 0x80 := fun hlt => Nat.not_le.2 (UInt8.lt_iff_toNat_lt.1 hlt) h
  rw [readLossy, if_neg hb, hlead]

theorem readLossy_last (hlow : low.toNat ≤ b.toNat) (hhigh : b.toNat ≤ high.toNat) :
    readLossy (.begun 1 low high v) (b :: bs) =
      Char.ofNat (v * 64 + (b.toNat - 0x80)) :: readLossy .none bs := by
  have hb : (decide (low ≤ b) && decide (b ≤ high)) = true := by
    simp [UInt8.le_iff_toNat_le, hlow, hhigh]
  rw [readLossy, if_pos hb, if_pos (Nat.le_refl 1)]

theorem readLossy_more (hlow : low.toNat ≤ b.toNat) (hhigh : b.toNat ≤ high.toNat) :
    readLossy (.begun (missing + 2) low high v) (b :: bs) =
      readLossy (.begun (missing + 1) 0x80 0xBF (v * 64 + (b.toNat - 0x80))) bs := by
  have hb : (decide (low ≤ b) && decide (b ≤ high)) = true := by
    simp [UInt8.le_iff_toNat_le, hlow, hhigh]
  rw [readLossy, if_pos hb, if_neg (by omega)]
  rfl

end

/-! ## Well-formed bytes -/

/-- What a first byte says about the bytes after it, in numbers. -/
theorem leadByte?_two {b : UInt8} (h : 0xC2 ≤ b.toNat) (h' : b.toNat ≤ 0xDF) :
    leadByte? b = some (1, 0x80, 0xBF, b.toNat - 0xC0) := by
  simp [leadByte?, UInt8.le_iff_toNat_le, h, h']

theorem leadByte?_three {b : UInt8} (h : 0xE0 ≤ b.toNat) (h' : b.toNat ≤ 0xEF) :
    leadByte? b = some (2, if b.toNat = 0xE0 then 0xA0 else 0x80,
      if b.toNat = 0xED then 0x9F else 0xBF, b.toNat - 0xE0) := by
  have h2 : ¬b.toNat ≤ 0xDF := by omega
  by_cases hfirst : b.toNat = 0xE0
  · simp [leadByte?, UInt8.le_iff_toNat_le, ← UInt8.toNat_inj, hfirst]
  by_cases hsurrogate : b.toNat = 0xED
  · simp [leadByte?, UInt8.le_iff_toNat_le, ← UInt8.toNat_inj, hsurrogate]
  · have h1 : 0xE1 ≤ b.toNat := by omega
    simp [leadByte?, UInt8.le_iff_toNat_le, ← UInt8.toNat_inj, hfirst, hsurrogate, h1, h', h2]

theorem leadByte?_four {b : UInt8} (h : 0xF0 ≤ b.toNat) (h' : b.toNat ≤ 0xF4) :
    leadByte? b = some (3, if b.toNat = 0xF0 then 0x90 else 0x80,
      if b.toNat = 0xF4 then 0x8F else 0xBF, b.toNat - 0xF0) := by
  have h2 : ¬b.toNat ≤ 0xDF := by omega
  have h3 : ¬b.toNat ≤ 0xEF := by omega
  by_cases hfirst : b.toNat = 0xF0
  · simp [leadByte?, UInt8.le_iff_toNat_le, ← UInt8.toNat_inj, hfirst]
  by_cases hlast : b.toNat = 0xF4
  · simp [leadByte?, UInt8.le_iff_toNat_le, ← UInt8.toNat_inj, hlast]
  · have h1 : 0xF1 ≤ b.toNat := by omega
    have h4 : b.toNat ≤ 0xF3 := by omega
    have h5 : b.toNat ≠ 0xE0 := by omega
    have h6 : b.toNat ≠ 0xED := by omega
    simp [leadByte?, UInt8.le_iff_toNat_le, ← UInt8.toNat_inj, hfirst, hlast, h1, h2, h3, h4, h5,
      h6]

theorem leadByte?_other {b : UInt8} (h : b.toNat < 0xC2 ∨ 0xF4 < b.toNat) :
    leadByte? b = none := by
  have h1 : ¬(0xC2 ≤ b.toNat ∧ b.toNat ≤ 0xDF) := by omega
  have h2 : ¬(0xE1 ≤ b.toNat ∧ b.toNat ≤ 0xEF) := by omega
  have h3 : ¬(0xF1 ≤ b.toNat ∧ b.toNat ≤ 0xF3) := by omega
  have h4 : b.toNat ≠ 0xE0 ∧ b.toNat ≠ 0xED ∧ b.toNat ≠ 0xF0 ∧ b.toNat ≠ 0xF4 := by omega
  simp [leadByte?, UInt8.le_iff_toNat_le, ← UInt8.toNat_inj, h1, h2, h3, h4]

/-- The byte after a first one, with its bounds, begins a character of `missing + 2` bytes more. -/
theorem readLossy_second {low high : UInt8} {v missing n : Nat} {bs : List UInt8}
    (hlow : low.toNat ≤ n % 64 + 128) (hhigh : n % 64 + 128 ≤ high.toNat) :
    readLossy (.begun (missing + 2) low high v) (UInt8.ofNat (n % 64 + 128) :: bs) =
      readLossy (.begun (missing + 1) 0x80 0xBF (v * 64 + n % 64)) bs := by
  have hb := toNat_ofNat (show n % 64 + 128 < 256 by omega)
  rw [readLossy_more (by rw [hb]; exact hlow) (by rw [hb]; exact hhigh), hb, Nat.add_sub_cancel]

theorem readLossy_tail {v n : Nat} {bs : List UInt8} :
    readLossy (.begun 1 0x80 0xBF v) (UInt8.ofNat (n % 64 + 128) :: bs) =
      Char.ofNat (v * 64 + n % 64) :: readLossy .none bs := by
  have hb := toNat_ofNat (show n % 64 + 128 < 256 by omega)
  have hlow : (0x80 : UInt8).toNat ≤ n % 64 + 128 := Nat.le_add_left 128 _
  have hhigh : n % 64 + 128 ≤ (0xBF : UInt8).toNat := show n % 64 + 128 ≤ 191 by omega
  rw [readLossy_last (by rw [hb]; exact hlow) (by rw [hb]; exact hhigh), hb, Nat.add_sub_cancel]

/-- The bytes of a character are read as that character. -/
theorem readLossy_utf8EncodeChar (c : Char) (rest : List UInt8) :
    readLossy .none (String.utf8EncodeChar c ++ rest) = c :: readLossy .none rest := by
  have hvalid : c.toNat < 0xD800 ∨ 0xDFFF < c.toNat ∧ c.toNat < 0x110000 := c.valid
  have hself : ∀ n, n = c.toNat → Char.ofNat n = c := by
    rintro n rfl
    exact Char.ofNat_toNat c
  have h80 : (0x80 : UInt8).toNat = 128 := rfl
  have hBF : (0xBF : UInt8).toNat = 191 := rfl
  unfold String.utf8EncodeChar
  rw [show c.val.toNat = c.toNat from rfl]
  generalize c.toNat = n at hvalid hself
  dsimp only
  split
  · have hb := toNat_ofNat (show n < 256 by omega)
    rw [List.singleton_append, readLossy_ascii (by omega), hb, hself n rfl]
  split
  · have hb := toNat_ofNat (show n / 64 % 32 + 192 < 256 by omega)
    rw [List.cons_append, List.singleton_append,
      readLossy_lead (by omega) (leadByte?_two (by omega) (by omega)), readLossy_tail, hb, hself]
    omega
  split
  · have hb := toNat_ofNat (show n / 4096 % 16 + 224 < 256 by omega)
    rw [List.cons_append, List.cons_append, List.singleton_append,
      readLossy_lead (by omega) (leadByte?_three (by omega) (by omega)), hb,
      readLossy_second, readLossy_tail, hself]
    · omega
    · -- after `E0` the bounds leave out what takes two bytes
      split
      · show 160 ≤ n / 64 % 64 + 128
        omega
      · rw [h80]
        omega
    · -- and after `ED` the surrogates
      split
      · show n / 64 % 64 + 128 ≤ 159
        omega
      · rw [hBF]
        omega
  · have hb := toNat_ofNat (show n / 262144 % 8 + 240 < 256 by omega)
    rw [List.cons_append, List.cons_append, List.cons_append, List.singleton_append,
      readLossy_lead (by omega) (leadByte?_four (by omega) (by omega)), hb,
      readLossy_second, readLossy_second, readLossy_tail, hself]
    · omega
    · rw [h80]
      omega
    · rw [hBF]
      omega
    · split
      · show 144 ≤ n / 4096 % 64 + 128
        omega
      · rw [h80]
        omega
    · split
      · show n / 4096 % 64 + 128 ≤ 143
        omega
      · rw [hBF]
        omega

theorem decodeLossy_bytes (s : String) : decodeLossy (bytes s) = s := by
  have hread : ∀ cs : List Char, readLossy .none (cs.flatMap String.utf8EncodeChar) = cs := by
    intro cs
    induction cs with
    | nil => rfl
    | cons c cs ih => rw [List.flatMap_cons, readLossy_utf8EncodeChar, ih]
  rw [decodeLossy, ← String.ofList_toList (s := s), bytes_ofList, hread]

/-- Reading bytes and writing the text again changes nothing exactly if they are well-formed. -/
theorem bytes_decodeLossy_eq_iff {bs : List UInt8} :
    bytes (decodeLossy bs) = bs ↔ ∃ s, bs = bytes s := by
  constructor
  · exact fun h => ⟨_, h.symm⟩
  · rintro ⟨s, rfl⟩
    rw [decodeLossy_bytes]

/-! ## Any bytes -/

/-- Characters that take more than one byte. -/
def Wide (n : Nat) : Prop := 0x80 ≤ n ∧ n.isValidChar

/-- Whatever a character begun is completed to, it is one that takes more than one byte. -/
def Pending.Sound : Pending → Prop
  | .none => True
  | .begun missing low high v => 1 ≤ missing ∧ 0x80 ≤ low.toNat ∧ high.toNat ≤ 0xBF ∧
    ∀ n, (v * 64 + (low.toNat - 0x80)) * 64 ^ (missing - 1) ≤ n →
      n < (v * 64 + (high.toNat - 0x80) + 1) * 64 ^ (missing - 1) → Wide n

theorem sound_of_leadByte? {b low high : UInt8} {missing v : Nat}
    (h : leadByte? b = some (missing, low, high, v)) :
    Pending.Sound (.begun missing low high v) := by
  have h80 : (0x80 : UInt8).toNat = 128 := rfl
  have hBF : (0xBF : UInt8).toNat = 191 := rfl
  have hA0 : (0xA0 : UInt8).toNat = 160 := rfl
  have h9F : (0x9F : UInt8).toNat = 159 := rfl
  have h90 : (0x90 : UInt8).toNat = 144 := rfl
  have h8F : (0x8F : UInt8).toNat = 143 := rfl
  by_cases hother : b.toNat < 0xC2 ∨ 0xF4 < b.toNat
  · rw [leadByte?_other hother] at h
    cases h
  by_cases htwo : b.toNat ≤ 0xDF
  · rw [leadByte?_two (by omega) htwo] at h
    cases h
    refine ⟨by omega, by omega, by omega, fun n hn hn' => ?_⟩
    simp only [Wide, Nat.isValidChar] at *
    omega
  by_cases hthree : b.toNat ≤ 0xEF
  · rw [leadByte?_three (by omega) hthree] at h
    cases h
    refine ⟨by omega, by split <;> omega, by split <;> omega, fun n hn hn' => ?_⟩
    simp only [Wide, Nat.isValidChar]
    revert hn hn'
    split <;> split <;> intro hn hn' <;> omega
  · rw [leadByte?_four (by omega) (by omega)] at h
    cases h
    refine ⟨by omega, by split <;> omega, by split <;> omega, fun n hn hn' => ?_⟩
    simp only [Wide, Nat.isValidChar]
    revert hn hn'
    split <;> split <;> intro hn hn' <;> omega

/-- A byte that continues a character begun completes it or brings it on. -/
theorem Pending.Sound.continued {missing v : Nat} {b low high : UInt8}
    (h : Pending.Sound (.begun missing low high v)) (hlow : low.toNat ≤ b.toNat)
    (hhigh : b.toNat ≤ high.toNat) :
    (missing = 1 ∧ Wide (v * 64 + (b.toNat - 0x80))) ∨
      (2 ≤ missing ∧
        Pending.Sound (.begun (missing - 1) 0x80 0xBF (v * 64 + (b.toNat - 0x80)))) := by
  have h80 : (0x80 : UInt8).toNat = 128 := rfl
  have hBF : (0xBF : UInt8).toNat = 191 := rfl
  obtain ⟨hmissing, hlow', hhigh', hwide⟩ := h
  obtain rfl | ⟨k, rfl⟩ : missing = 1 ∨ ∃ k, missing = k + 2 :=
    (Nat.lt_or_ge 1 missing).elim (fun h => .inr ⟨missing - 2, by omega⟩) fun h => .inl (by omega)
  · refine .inl ⟨rfl, hwide _ ?_ ?_⟩
    · simp only [Nat.sub_self, Nat.pow_zero, Nat.mul_one]
      omega
    · simp only [Nat.sub_self, Nat.pow_zero, Nat.mul_one]
      omega
  · refine .inr ⟨by omega, by omega, by omega, by omega, fun n hn hn' => hwide n ?_ ?_⟩
    · -- the bounds of the next byte lie within those of this one
      refine Nat.le_trans ?_ hn
      have hk : k + 2 - 1 = k + 2 - 1 - 1 + 1 := by omega
      rw [hk, Nat.pow_succ, Nat.mul_comm (64 ^ _) 64, ← Nat.mul_assoc]
      exact Nat.mul_le_mul_right _ (by omega)
    · refine Nat.lt_of_lt_of_le hn' ?_
      have hk : k + 2 - 1 = k + 2 - 1 - 1 + 1 := by omega
      rw [hk, Nat.pow_succ, Nat.mul_comm (64 ^ _) 64, ← Nat.mul_assoc]
      exact Nat.mul_le_mul_right _ (by omega)

/-- All bytes of a character may stand in a header value. -/
def Sendable (c : Char) : Prop := ∀ b ∈ String.utf8EncodeChar c, isValueByte b = true

theorem isValueByte_of_wide {n : Nat} (h : 0x80 ≤ n) (h' : n < 256) :
    isValueByte (UInt8.ofNat n) = true := by
  have hn := toNat_ofNat h'
  have hne : UInt8.ofNat n ≠ 0x7F := by
    intro he
    have he := congrArg UInt8.toNat he
    rw [hn] at he
    have h7F : (0x7F : UInt8).toNat = 127 := rfl
    omega
  have hle : (0x20 : UInt8) ≤ UInt8.ofNat n := by
    rw [UInt8.le_iff_toNat_le, hn]
    exact Nat.le_trans (by decide) h
  simp [isValueByte, hle, hne]

theorem toNat_charOfNat {n : Nat} (h : n.isValidChar) : (Char.ofNat n).toNat = n := by
  rw [Char.ofNat, dif_pos h]
  rfl

theorem sendable_of_wide {n : Nat} (h : Wide n) : Sendable (Char.ofNat n) := by
  obtain ⟨hn, hvalid⟩ := h
  have htoNat := toNat_charOfNat hvalid
  intro b hb
  unfold String.utf8EncodeChar at hb
  rw [show (Char.ofNat n).val.toNat = (Char.ofNat n).toNat from rfl, htoNat] at hb
  dsimp only at hb
  split at hb
  · omega
  split at hb
  · simp only [List.mem_cons, List.not_mem_nil, or_false] at hb
    obtain rfl | rfl := hb
    · exact isValueByte_of_wide (by omega) (by omega)
    · exact isValueByte_of_wide (by omega) (by omega)
  split at hb
  · simp only [List.mem_cons, List.not_mem_nil, or_false] at hb
    obtain rfl | rfl | rfl := hb
    · exact isValueByte_of_wide (by omega) (by omega)
    · exact isValueByte_of_wide (by omega) (by omega)
    · exact isValueByte_of_wide (by omega) (by omega)
  · simp only [List.mem_cons, List.not_mem_nil, or_false] at hb
    obtain rfl | rfl | rfl | rfl := hb
    · exact isValueByte_of_wide (by omega) (by omega)
    · exact isValueByte_of_wide (by omega) (by omega)
    · exact isValueByte_of_wide (by omega) (by omega)
    · exact isValueByte_of_wide (by omega) (by omega)

theorem sendable_of_ascii {b : UInt8} (hb : isValueByte b = true) (h : b.toNat < 0x80) :
    Sendable (Char.ofNat b.toNat) := by
  have htoNat := toNat_charOfNat (show b.toNat.isValidChar from .inl (by omega))
  intro b' hb'
  unfold String.utf8EncodeChar at hb'
  rw [show (Char.ofNat b.toNat).val.toNat = (Char.ofNat b.toNat).toNat from rfl, htoNat] at hb'
  dsimp only at hb'
  rw [if_pos (by omega), List.mem_singleton] at hb'
  rw [hb', UInt8.ofNat_toNat]
  exact hb

theorem sendable_replacement : Sendable replacement := by
  have hbytes : String.utf8EncodeChar replacement = [0xEF, 0xBF, 0xBD] := by decide +kernel
  unfold Sendable
  rw [hbytes]
  decide +kernel

/-- A byte that does not continue a character begun is read as a first one. -/
theorem readLossy_broken {missing v : Nat} {b low high : UInt8} {bs : List UInt8}
    (h : ¬(decide (low ≤ b) && decide (b ≤ high)) = true) :
    readLossy (.begun missing low high v) (b :: bs) =
      replacement :: readLossy .none (b :: bs) := by
  rw [readLossy, readLossy, if_neg h]
  split
  · rfl
  · split <;> rfl

/-- Of bytes that may stand in a header value a lossy reader makes nothing else. -/
theorem readLossy_sendable {bs : List UInt8} (hbs : ∀ b ∈ bs, isValueByte b = true)
    {st : Pending} (hst : st.Sound) : ∀ c ∈ readLossy st bs, Sendable c := by
  induction bs generalizing st with
  | nil =>
    cases st with
    | none => simp [readLossy]
    | begun => simpa [readLossy] using sendable_replacement
  | cons b bs ih =>
    obtain ⟨hb, hbs⟩ := List.forall_mem_cons.1 hbs
    have hnone : Pending.Sound .none := trivial
    -- a byte that is read as a first one
    have hfirst : ∀ c ∈ readLossy .none (b :: bs), Sendable c := by
      rw [readLossy]
      split
      · rename_i hlt
        exact List.forall_mem_cons.2
          ⟨sendable_of_ascii hb (UInt8.lt_iff_toNat_lt.1 hlt), ih hbs hnone⟩
      split
      · rename_i hlead
        exact ih hbs (sound_of_leadByte? hlead)
      · exact List.forall_mem_cons.2 ⟨sendable_replacement, ih hbs hnone⟩
    cases st with
    | none => exact hfirst
    | begun missing low high v =>
      by_cases hrange : (decide (low ≤ b) && decide (b ≤ high)) = true
      · rw [readLossy, if_pos hrange]
        simp only [Bool.and_eq_true, decide_eq_true_eq, UInt8.le_iff_toNat_le] at hrange
        obtain ⟨rfl, hwide⟩ | ⟨hmissing, hsound⟩ := hst.continued hrange.1 hrange.2
        · exact List.forall_mem_cons.2 ⟨sendable_of_wide hwide, ih hbs hnone⟩
        · rw [if_neg (by omega)]
          exact ih hbs hsound
      · rw [readLossy_broken hrange]
        exact List.forall_mem_cons.2 ⟨sendable_replacement, hfirst⟩

theorem ofString?_decodeLossy {bs : List UInt8} (hbs : ∀ b ∈ bs, isValueByte b = true) :
    ∃ v, FieldValue.ofString? (decodeLossy bs) = some v := by
  have hall : (bytes (decodeLossy bs)).all isValueByte = true := by
    rw [decodeLossy, bytes_ofList, List.all_eq_true]
    intro b hb
    obtain ⟨c, hc, hb⟩ := List.mem_flatMap.1 hb
    have hnone : Pending.Sound .none := trivial
    exact readLossy_sendable hbs hnone c hc b hb
  exact ⟨_, dif_pos hall⟩

end ConditionalGet.Text
