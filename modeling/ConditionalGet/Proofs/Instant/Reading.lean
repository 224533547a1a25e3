import ConditionalGet.Instant.Parser
import Mathlib.Algebra.Group.Nat.Defs

/-!
# Instants are read as they are written

`Instant.parse` gives back every instant that `Instant.text` writes (`parse_text`): years of any
sign and length, minutes with a sixtieth second, and fractions of three, six and nine digits. Each
part is read by a lemma of its own for whatever text follows it.
-/

set_option autoImplicit false

namespace ConditionalGet

open Text

/-! ## Digits -/

namespace Text

/-- A text that goes on with something else than a digit. -/
def NoDigit (rest : List Char) : Prop := ∀ c ∈ rest.head?, digit? c = none

theorem NoDigit.take {rest : List Char} (h : NoDigit rest) (n : Nat) : NoDigit (rest.take n) := by
  intro c hc
  cases n with
  | zero => simp at hc
  | succ n =>
    cases rest with
    | nil => simp at hc
    | cons d ds => exact h c hc

theorem digit?_digitChar {d : Nat} (h : d < 10) : digit? d.digitChar = some d := by
  have all : ∀ m ∈ List.range 10, digit? m.digitChar = some m := by decide
  exact all d (List.mem_range.2 h)

theorem digit?_isSome_of_mem_toDigits {c : Char} {n : Nat} (h : c ∈ Nat.toDigits 10 n) :
    (digit? c).isSome = true := by
  have hd := Nat.isDigit_of_mem_toDigits (by decide) (by decide) h
  simp only [Char.isDigit, Bool.and_eq_true, decide_eq_true_eq] at hd
  have hle : ('0' ≤ c && c ≤ '9') = true := by
    simp only [Bool.and_eq_true, decide_eq_true_eq]
    exact hd
  rw [digit?, if_pos hle]
  rfl

theorem digit?_isSome_of_mem_padded {c : Char} {width n : Nat} (h : c ∈ padded width n) :
    (digit? c).isSome = true := by
  rcases List.mem_append.1 h with h | h
  · rw [List.eq_of_mem_replicate h]
    rfl
  · exact digit?_isSome_of_mem_toDigits h

theorem padded_ne_nil (width n : Nat) : padded width n ≠ [] :=
  List.append_ne_nil_of_right_ne_nil _ Nat.toDigits_ne_nil

theorem length_padded {width n : Nat} (hw : 0 < width) (h : n < 10 ^ width) :
    (padded width n).length = width := by
  have hle := (Nat.length_toDigits_le_iff (by decide) hw).2 h
  simp only [padded, List.length_append, List.length_replicate]
  omega

end Text

namespace Instant

theorem digits_replicate_zero (k : Nat) (rest : List Char) :
    digits 0 (List.replicate k '0' ++ rest) = digits 0 rest := by
  induction k with
  | zero => rfl
  | succ k ih => exact ih

/-- Reading the digits of a number adds it to what was read before. -/
theorem digits_toDigits (m n : Nat) (rest : List Char) :
    digits m (Nat.toDigits 10 n ++ rest) =
      digits (m * 10 ^ (Nat.toDigits 10 n).length + n) rest := by
  induction n using Nat.strongRecOn generalizing rest with
  | _ n ih =>
    by_cases h : n < 10
    · rw [Nat.toDigits_of_lt_base h]
      simp only [List.cons_append, List.nil_append, digits, digit?_digitChar h, List.length_cons,
        List.length_nil, Nat.zero_add, Nat.pow_one]
    · have hle : 10 ≤ n := by omega
      have hmod : n % 10 < 10 := Nat.mod_lt _ (by decide)
      rw [Nat.toDigits_of_base_le (by decide) hle, List.append_assoc, ih (n / 10) (by omega)]
      simp only [List.cons_append, List.nil_append, digits, digit?_digitChar hmod,
        List.length_append, List.length_cons, List.length_nil, Nat.zero_add, Nat.pow_succ]
      congr 1
      rw [Nat.add_mul, Nat.mul_assoc]
      omega

theorem digits_padded (width n : Nat) (rest : List Char) :
    digits 0 (padded width n ++ rest) = digits n rest := by
  rw [padded, List.append_assoc, digits_replicate_zero, digits_toDigits, Nat.zero_mul, Nat.zero_add]

theorem digits_noDigit {n : Nat} {rest : List Char} (h : NoDigit rest) :
    digits n rest = (n, rest) := by
  cases rest with
  | nil => rfl
  | cons c cs => simp only [digits, h c rfl]

/-! ## Numbers -/

/-- A padded number is read if the reader takes all its digits and no more follow. -/
theorem number_padded {limit width n : Nat} {rest : List Char}
    (hlimit : (padded width n).length ≤ limit)
    (hrest : NoDigit (rest.take (limit - (padded width n).length))) (hn : n ≤ greatestNumber) :
    number limit (padded width n ++ rest) = .ok (n, rest) := by
  have htake : (padded width n ++ rest).take limit =
      padded width n ++ rest.take (limit - (padded width n).length) := by
    rw [List.take_append, List.take_of_length_le hlimit]
  have hdrop : (padded width n ++ rest).drop limit =
      rest.drop (limit - (padded width n).length) := by
    rw [List.drop_append, List.drop_of_length_le hlimit, List.nil_append]
  cases hp : padded width n ++ rest with
  | nil => exact absurd (List.append_eq_nil_iff.1 hp).1 (padded_ne_nil width n)
  | cons c cs =>
    have hc : (digit? c).isSome = true := by
      cases hq : padded width n with
      | nil => exact absurd hq (padded_ne_nil width n)
      | cons d ds =>
        rw [hq] at hp
        cases hp
        exact digit?_isSome_of_mem_padded (hq ▸ List.mem_cons_self)
    have hsome : (digit? c).isNone = false := by simpa using hc
    simp only [number, hsome, Bool.false_eq_true, if_false]
    rw [← hp, htake, hdrop, digits_padded, digits_noDigit hrest]
    simp only [if_neg (Nat.not_lt.2 hn), List.take_append_drop]

theorem isBlank_of_digit? {c : Char} (h : (digit? c).isSome = true) : isBlank c = false := by
  unfold digit? at h
  split at h
  · rename_i hd
    simp only [Bool.and_eq_true, decide_eq_true_eq, Char.le_def, UInt32.le_iff_toNat_le] at hd
    have h0 : ('0' : Char).val.toNat = 48 := rfl
    have h9 : ('9' : Char).val.toNat = 57 := rfl
    rw [h0, h9] at hd
    simp only [isBlank, Char.toNat, Bool.or_eq_false_iff, Bool.and_eq_false_iff,
      decide_eq_false_iff_not]
    omega
  · cases h

/-- A padded number starts with a digit. -/
theorem padded_eq_cons (width n : Nat) :
    ∃ c cs, padded width n = c :: cs ∧ (digit? c).isSome = true := by
  cases h : padded width n with
  | nil => exact absurd h (padded_ne_nil width n)
  | cons c cs => exact ⟨c, cs, rfl, digit?_isSome_of_mem_padded (h ▸ List.mem_cons_self)⟩

theorem afterBlanks_cons {c : Char} (h : isBlank c = false) (rest : List Char) :
    afterBlanks (c :: rest) = c :: rest := by
  simp only [afterBlanks, List.dropWhile, h]

theorem afterBlanks_padded (width n : Nat) (rest : List Char) :
    afterBlanks (padded width n ++ rest) = padded width n ++ rest := by
  obtain ⟨c, cs, hp, hc⟩ := padded_eq_cons width n
  rw [hp, List.cons_append, afterBlanks_cons (isBlank_of_digit? hc)]

/-! ## The parts -/

theorem bounded_padded {least greatest n : Nat} (hl : least ≤ n) (hg : n ≤ greatest)
    (hn : n < 100) (rest : List Char) :
    bounded least greatest (padded 2 n ++ rest) = .ok (n, rest) := by
  have hlen : (padded 2 n).length = 2 := length_padded (by decide) hn
  have hnum : number 2 (padded 2 n ++ rest) = .ok (n, rest) := by
    refine number_padded (by omega) ?_ (Nat.le_trans (Nat.le_of_lt hn) (by decide))
    rw [hlen]
    simp [NoDigit]
  have hrange : (least ≤ n && n ≤ greatest) = true := by simp [hl, hg]
  simp only [bounded, afterBlanks_padded, hnum]
  exact if_pos hrange

theorem separator_cons {c : Char} (h : isBlank c = false) (rest : List Char) :
    separator c (c :: rest) = .ok rest := by
  simp only [separator, afterBlanks_cons h, if_true]

theorem noDigit_cons {c : Char} (h : digit? c = none) (rest : List Char) : NoDigit (c :: rest) := by
  intro d hd
  cases hd
  exact h

theorem number_signed {width n : Nat} {c : Char} (hc : digit? c = none) (hn : n ≤ greatestNumber)
    (rest : List Char) :
    number (padded width n ++ c :: rest).length (padded width n ++ c :: rest) =
      .ok (n, c :: rest) :=
  number_padded (by simp) (NoDigit.take (noDigit_cons hc rest) _) hn

theorem year_yearChars {y : Int} (hf : firstYear ≤ y) (hl : y ≤ lastYear) (rest : List Char) :
    year (yearChars y ++ '-' :: rest) = .ok (y, '-' :: rest) := by
  have hrange : (-2147483648 ≤ y && y < 2147483648) = true := by
    simp only [firstYear, lastYear] at hf hl
    simp only [Bool.and_eq_true, decide_eq_true_eq]
    omega
  have hsmall : y.toNat ≤ greatestNumber ∧ (-y).toNat ≤ greatestNumber := by
    simp only [firstYear, lastYear, greatestNumber] at *
    omega
  have hdash : digit? '-' = none := by decide
  unfold yearChars
  by_cases hshort : (0 ≤ y && y ≤ 9999) = true
  · rw [if_pos hshort]
    simp only [Bool.and_eq_true, decide_eq_true_eq] at hshort
    have hlen : (padded 4 y.toNat).length = 4 := length_padded (by decide) (by omega)
    have hnum : number 4 (padded 4 y.toNat ++ '-' :: rest) = .ok (y.toNat, '-' :: rest) :=
      number_padded (by omega) (NoDigit.take (noDigit_cons hdash rest) _) hsmall.1
    obtain ⟨c, cs, hp, hc⟩ := padded_eq_cons 4 y.toNat
    have hy : (Int.ofNat y.toNat) = y := Int.toNat_of_nonneg hshort.1
    rw [hp, List.cons_append] at hnum ⊢
    have hminus : c ≠ '-' := by
      rintro rfl
      cases hc
    have hplus : c ≠ '+' := by
      rintro rfl
      cases hc
    simp only [year, afterBlanks_cons (isBlank_of_digit? hc)]
    split
    · rename_i heq
      exact absurd (List.cons.inj heq).1 hminus
    · rename_i heq
      exact absurd (List.cons.inj heq).1 hplus
    · rw [hnum]
      simp only [Except.map, hy]
      exact if_pos hrange
  · rw [if_neg hshort]
    by_cases hpos : 0 ≤ y
    · have hy : (Int.ofNat y.toNat) = y := Int.toNat_of_nonneg hpos
      rw [if_pos hpos, List.cons_append]
      simp only [year, afterBlanks_cons (show isBlank '+' = false by decide),
        number_signed hdash hsmall.1, Except.map, hy]
      exact if_pos hrange
    · have hy : -(Int.ofNat (-y).toNat) = y := by
        rw [Int.ofNat_eq_natCast, Int.toNat_of_nonneg (by omega)]
        omega
      rw [if_neg hpos, List.cons_append]
      simp only [year, afterBlanks_cons (show isBlank '-' = false by decide),
        number_signed hdash hsmall.2, Except.map, hy]
      exact if_pos hrange

/-- The nanoseconds of what follows the seconds. -/
def fractionIn (cs : List Char) : Except Flaw (Nat × List Char) :=
  match cs with
  | '.' :: rest => fraction rest
  | _ => .ok (0, cs)

theorem fraction_padded {width n : Nat} (hw : 0 < width) (hw' : width ≤ 9) (hn : n < 10 ^ width) :
    fraction (padded width n ++ ['Z']) = .ok (n * 10 ^ (9 - width), ['Z']) := by
  have hlen := length_padded hw hn
  have hz : digit? 'Z' = none := by decide
  have hpow : 10 ^ width ≤ 10 ^ 9 := Nat.pow_le_pow_right (by decide) hw'
  have hbig : 10 ^ 9 ≤ greatestNumber := by decide
  have hnum : number 9 (padded width n ++ ['Z']) = .ok (n, ['Z']) :=
    number_padded (by omega) (NoDigit.take (noDigit_cons hz []) _) (by omega)
  simp only [fraction, hnum]
  show Except.ok (n * Nat.pow 10 (9 - ((padded width n ++ ['Z']).length - 1)), ['Z']) = _
  rw [List.length_append, hlen]
  rfl

theorem fractionIn_fractionChars {nanos : Nat} (h : nanos < 1000000000) :
    fractionIn (fractionChars nanos ++ ['Z']) = .ok (nanos, ['Z']) := by
  unfold fractionChars
  by_cases h0 : nanos = 0
  · rw [if_pos h0, h0]
    rfl
  rw [if_neg h0]
  by_cases h3 : nanos % 1000000 = 0
  · rw [if_pos h3]
    refine (fraction_padded (by decide) (by decide) (by omega)).trans ?_
    rw [show nanos / 1000000 * 10 ^ (9 - 3) = nanos by omega]
  rw [if_neg h3]
  by_cases h6 : nanos % 1000 = 0
  · rw [if_pos h6]
    refine (fraction_padded (by decide) (by decide) (by omega)).trans ?_
    rw [show nanos / 1000 * 10 ^ (9 - 6) = nanos by omega]
  rw [if_neg h6]
  refine (fraction_padded (by decide) (by decide) (by omega)).trans ?_
  rw [Nat.sub_self, Nat.pow_zero, Nat.mul_one]

/-- Where clocks show UTC. -/
theorem ofLocal?_self (t : Instant) :
    ofLocal? t.date t.hour t.minute t.second t.nanos 0 = some t := by
  have hv := t.valid
  simp only [isTime, Bool.and_eq_true, decide_eq_true_eq] at hv
  obtain ⟨⟨⟨hh, hm⟩, -⟩, -⟩ := hv
  have hneg : ¬Int.ofNat (t.hour * 60 + t.minute) - 0 < 0 := by
    rw [Int.ofNat_eq_natCast]
    omega
  have hday : ¬1440 ≤ Int.ofNat (t.hour * 60 + t.minute) - 0 := by
    rw [Int.ofNat_eq_natCast]
    omega
  have hmod : ((Int.ofNat (t.hour * 60 + t.minute) - 0) % 1440).toNat = t.hour * 60 + t.minute := by
    rw [Int.ofNat_eq_natCast]
    omega
  have hhour : (t.hour * 60 + t.minute) / 60 = t.hour := by omega
  have hminute : (t.hour * 60 + t.minute) % 60 = t.minute := by omega
  simp only [ofLocal?, if_neg hneg, if_neg hday, hmod, hhour, hminute]
  exact dif_pos t.valid

theorem text_toList (t : Instant) : t.text.toList = yearChars t.date.year ++ '-' ::
    (padded 2 t.date.month ++ '-' :: (padded 2 t.date.day ++ 'T' :: (padded 2 t.hour ++ ':' ::
      (padded 2 t.minute ++ ':' :: (padded 2 t.second ++ (fractionChars t.nanos ++ ['Z'])))))) := by
  simp [text, chars]

/-- **What is written is read.** -/
theorem parse_text (t : Instant) : parse t.text = .ok t := by
  have hd := t.date.valid
  have hv := t.valid
  simp only [isDate, isTime, Bool.and_eq_true, decide_eq_true_eq] at hd hv
  obtain ⟨⟨⟨⟨⟨hfirst, hlast⟩, hm1⟩, hm12⟩, hd1⟩, hdays⟩ := hd
  obtain ⟨⟨⟨hh, hmin⟩, hs⟩, hn⟩ := hv
  have hd31 : t.date.day ≤ 31 := by
    refine Nat.le_trans hdays ?_
    unfold daysInMonth
    split <;> try split
    all_goals decide
  have hdash : isBlank '-' = false := by decide
  have hcolon : isBlank ':' = false := by decide
  have hfraction := fractionIn_fractionChars hn
  unfold fractionIn at hfraction
  unfold parse
  simp only [text_toList, year_yearChars hfirst hlast, bind, Except.bind, separator_cons hdash,
    separator_cons hcolon, bounded_padded hm1 hm12 (by omega), bounded_padded hd1 hd31 (by omega),
    bounded_padded (Nat.zero_le _) (show t.hour ≤ 23 by omega) (by omega),
    bounded_padded (Nat.zero_le _) (show t.minute ≤ 59 by omega) (by omega),
    bounded_padded (Nat.zero_le _) hs (by omega)]
  have hzone : zone (afterBlanks ['Z']) = .ok (0, []) := rfl
  have hdate : Date.ofParts? t.date.year t.date.month t.date.day = some t.date :=
    dif_pos t.date.valid
  split
  · rename_i rest heq
    rw [heq] at hfraction
    have hfraction : fraction rest = .ok (t.nanos, ['Z']) := hfraction
    simp only [hfraction, hzone, hdate, ofLocal?_self]
    rfl
  · rename_i hno
    have hplain : (Except.ok (0, fractionChars t.nanos ++ ['Z']) : Except Flaw (Nat × List Char)) =
        .ok (t.nanos, ['Z']) := by
      refine Eq.trans ?_ hfraction
      split
      · rename_i heq
        exact absurd heq (hno _)
      · rfl
    obtain ⟨hnanos, hrest⟩ := Prod.mk.injEq _ _ _ _ ▸ Except.ok.inj hplain
    simp only [hnanos, hrest, hzone, hdate, ofLocal?_self]
    rfl

end Instant

end ConditionalGet
