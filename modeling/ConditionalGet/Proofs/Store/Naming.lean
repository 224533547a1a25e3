import ConditionalGet.Proofs.Instant.Reading
import ConditionalGet.Proofs.Json.Reading
import ConditionalGet.Proofs.Store.Layout

/-!
# What the name of a body file is made from

Two body files have the same name only if the same is digested for them, or the digest has a
collision (`bodyName_eq_iff`). What is digested tells the number of the response, and, for one URI,
the validator and the time (`stamp_of_nameSeed_eq`, `nameSeed_inj`): the time is written
without a zero byte, and the number takes the last eight bytes.
-/

set_option autoImplicit false

namespace ConditionalGet

/-! ## Numbers and texts as bytes -/

/-- The bytes of a number tell it, up to what does not fit into them. -/
theorem Sha256.mod_eq_of_bigEndian_eq {n x y : Nat} (h : bigEndian n x = bigEndian n y) :
    x % 256 ^ n = y % 256 ^ n := by
  induction n with
  | zero => rw [Nat.pow_zero, Nat.mod_one, Nat.mod_one]
  | succ n ih =>
    obtain ⟨hfirst, hrest⟩ := List.cons.inj h
    have hfirst : x / 256 ^ n % 256 = y / 256 ^ n % 256 := by
      have hbyte := congrArg UInt8.toNat hfirst
      rwa [UInt8.toNat_ofNat', UInt8.toNat_ofNat'] at hbyte
    rw [Nat.pow_succ, Nat.mod_mul, Nat.mod_mul, ih hrest, hfirst]

namespace Text

theorem ne_nul_of_digit {c : Char} (h : (digit? c).isSome = true) : c ≠ '\x00' := by
  rintro rfl
  revert h
  decide

theorem nul_not_mem_padded (width n : Nat) : '\x00' ∉ padded width n :=
  fun h => ne_nul_of_digit (digit?_isSome_of_mem_padded h) rfl

/-- Of two texts with the same character behind which it does not occur, the parts are the same. -/
theorem split_at_last {c : Char} {as as' bs bs' : List Char} (hb : c ∉ bs) (hb' : c ∉ bs')
    (h : as ++ c :: bs = as' ++ c :: bs') : as = as' ∧ bs = bs' := by
  induction as generalizing as' with
  | nil =>
    cases as' with
    | nil => exact ⟨rfl, (List.cons.inj h).2⟩
    | cons a as' =>
      have hmem : c ∈ bs := (List.cons.inj h).2 ▸ List.mem_append_right _ List.mem_cons_self
      exact absurd hmem hb
  | cons a as ih =>
    cases as' with
    | nil =>
      have hmem : c ∈ bs' := (List.cons.inj h).2 ▸ List.mem_append_right _ List.mem_cons_self
      exact absurd hmem hb'
    | cons a' as' =>
      obtain ⟨rfl, hrest⟩ := List.cons.inj h
      obtain ⟨rfl, rfl⟩ := ih hrest
      exact ⟨rfl, rfl⟩

/-- The digits of a byte tell it. -/
theorem hexByte_inj {a b : UInt8} (h : hexByte a = hexByte b) : a = b := by
  have ha : a.toNat < 256 := a.toNat_lt
  have hb : b.toNat < 256 := b.toNat_lt
  simp only [hexByte, List.cons.injEq, and_true] at h
  have hhigh := congrArg hexDigit? h.1
  have hlow := congrArg hexDigit? h.2
  rw [Json.Reader.hexDigit?_hexDigit (by omega), Json.Reader.hexDigit?_hexDigit (by omega)]
    at hhigh hlow
  apply UInt8.toNat.inj
  injection hhigh
  injection hlow
  omega

theorem flatMap_hexByte_inj {as bs : List UInt8}
    (h : as.flatMap hexByte = bs.flatMap hexByte) : as = bs := by
  induction as generalizing bs with
  | nil =>
    cases bs with
    | nil => rfl
    | cons b bs => cases h
  | cons a as ih =>
    cases bs with
    | nil => cases h
    | cons b bs =>
      rw [List.flatMap_cons, List.flatMap_cons] at h
      obtain ⟨hfirst, hrest⟩ := List.append_inj h rfl
      rw [hexByte_inj hfirst, ih hrest]

end Text

namespace Instant

open Text

theorem nul_not_mem_chars (t : Instant) : '\x00' ∉ t.chars := by
  have hyear : '\x00' ∉ yearChars t.date.year := by
    unfold yearChars
    split
    · exact nul_not_mem_padded _ _
    split <;> simp [nul_not_mem_padded]
  have hfraction : '\x00' ∉ fractionChars t.nanos := by
    unfold fractionChars
    split
    · simp
    split
    · simp [nul_not_mem_padded]
    split <;> simp [nul_not_mem_padded]
  simp [chars, hyear, hfraction, nul_not_mem_padded]

theorem nul_not_mem_offsetText (t : Instant) : '\x00' ∉ t.offsetText.toList := by
  simp [offsetText, nul_not_mem_chars]

/-- The text of an instant tells it. -/
theorem offsetText_inj {t t' : Instant} (h : t.offsetText = t'.offsetText) : t = t' := by
  have hchars : t.chars = t'.chars :=
    List.append_cancel_right (String.ofList_inj.1 h)
  have htext : t.text = t'.text := by rw [text, text, hchars]
  have hparse := parse_text t
  rw [htext, parse_text] at hparse
  exact (Except.ok.inj hparse).symm

end Instant

namespace DiskStore

variable {uri uri' etag etag' : String} {now now' : Instant} {n n' : UInt64}

/-! ## Names -/

/-- Bodies of the same name have the same digest. -/
theorem bodyName_eq_iff : bodyName uri etag now n = bodyName uri' etag' now' n' ↔
    Sha256.digest (nameSeed uri etag now n) = Sha256.digest (nameSeed uri' etag' now' n') := by
  constructor
  · intro h
    have hchars := congrArg String.toList h
    simp only [bodyName, String.toList_append, String.toList_ofList] at hchars
    exact Text.flatMap_hexByte_inj (List.append_cancel_right hchars)
  · intro h
    rw [bodyName, bodyName, h]

/-- What is digested, a text and a number of eight bytes. -/
theorem nameSeed_eq (uri etag : String) (now : Instant) (n : UInt64) :
    nameSeed uri etag now n =
      Text.bytes (uri ++ ("\x00" ++ (etag ++ ("\x00" ++ now.offsetText)))) ++
        (Sha256.bigEndian 8 n.toNat).reverse := by
  have hnul : Text.bytes "\x00" = [0] := by decide
  simp only [nameSeed, Text.bytes_append, hnul, List.append_assoc]

/-- The text and the number that are digested, told apart. -/
theorem parts_of_nameSeed_eq (h : nameSeed uri etag now n = nameSeed uri' etag' now' n') :
    uri ++ ("\x00" ++ (etag ++ ("\x00" ++ now.offsetText))) =
      uri' ++ ("\x00" ++ (etag' ++ ("\x00" ++ now'.offsetText))) ∧ n = n' := by
  rw [nameSeed_eq, nameSeed_eq] at h
  obtain ⟨htext, hnumber⟩ := List.append_inj' h (by simp [Sha256.length_bigEndian])
  refine ⟨Text.bytes_injective htext, UInt64.toNat.inj ?_⟩
  have hmod := Sha256.mod_eq_of_bigEndian_eq (List.reverse_inj.1 hnumber)
  have hn : n.toNat < 256 ^ 8 := n.toNat_lt
  have hn' : n'.toNat < 256 ^ 8 := n'.toNat_lt
  rwa [Nat.mod_eq_of_lt hn, Nat.mod_eq_of_lt hn'] at hmod

/-- What is digested tells the time and the number. -/
theorem stamp_of_nameSeed_eq (h : nameSeed uri etag now n = nameSeed uri' etag' now' n') :
    now = now' ∧ n = n' := by
  obtain ⟨htext, hn⟩ := parts_of_nameSeed_eq h
  have hchars : (uri.toList ++ '\x00' :: etag.toList) ++ '\x00' :: now.offsetText.toList =
      (uri'.toList ++ '\x00' :: etag'.toList) ++ '\x00' :: now'.offsetText.toList := by
    simpa using congrArg String.toList htext
  have htime := Text.split_at_last now.nul_not_mem_offsetText now'.nul_not_mem_offsetText hchars
  exact ⟨Instant.offsetText_inj (String.toList_inj.1 htime.2), hn⟩

/-- For one URI, what is digested tells the validator, the time and the number. -/
theorem nameSeed_inj : nameSeed uri etag now n = nameSeed uri etag' now' n' ↔
    etag = etag' ∧ now = now' ∧ n = n' := by
  constructor
  · intro h
    obtain ⟨rfl, rfl⟩ := stamp_of_nameSeed_eq h
    have hetag := (parts_of_nameSeed_eq h).1
    rw [String.append_right_inj, String.append_right_inj, String.append_left_inj] at hetag
    exact ⟨hetag, rfl, rfl⟩
  · rintro ⟨rfl, rfl, rfl⟩
    rfl

end DiskStore

end ConditionalGet
