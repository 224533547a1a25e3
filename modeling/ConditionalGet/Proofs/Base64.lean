import ConditionalGet.Base64
import ConditionalGet.Proofs.Text.Lossy

/-!
# Base64 as it is laid down

`Base64.Standard` says which text is written for bytes, bit by bit and without a function from one
to the other: the bits of the bytes are cut into groups of six, each group is a place in the
alphabet, and signs of padding complete the last four characters. `standard_iff` says that `encode`
writes this text and no other is, `decode?_eq_some_iff` that `decode?` reads this text and no other.
-/

set_option autoImplicit false

namespace ConditionalGet.Base64

open Text (toNat_ofNat)

/-! ## Bits -/

/-- The lowest bits of a number, the highest of them first. -/
def bits : Nat → Nat → List Bool
  | 0, _ => []
  | width + 1, n => bits width (n / 2) ++ [decide (n % 2 = 1)]

@[simp] theorem length_bits (width n : Nat) : (bits width n).length = width := by
  induction width generalizing n with
  | zero => rfl
  | succ width ih => simp [bits, ih]

theorem bits_zero (width : Nat) : bits width 0 = List.replicate width false := by
  induction width with
  | zero => rfl
  | succ width ih => simp [bits, ih, List.replicate_succ']

/-- The bits of two numbers side by side. -/
theorem bits_join (v : Nat) {w a b : Nat} (hb : b < 2 ^ w) :
    bits (v + w) (a * 2 ^ w + b) = bits v a ++ bits w b := by
  induction w generalizing b with
  | zero =>
    obtain rfl : b = 0 := by omega
    simp [bits]
  | succ w ih =>
    have hdouble : a * 2 ^ (w + 1) = 2 * (a * 2 ^ w) := by
      rw [Nat.pow_succ', Nat.mul_left_comm]
    have hhalf : (a * 2 ^ (w + 1) + b) / 2 = a * 2 ^ w + b / 2 := by omega
    have hlast : (a * 2 ^ (w + 1) + b) % 2 = b % 2 := by omega
    rw [← Nat.add_assoc, bits, bits, hhalf, hlast, ih (by rw [Nat.pow_succ] at hb; omega),
      List.append_assoc]

theorem bits_split (v w n : Nat) :
    bits (v + w) n = bits v (n / 2 ^ w) ++ bits w (n % 2 ^ w) := by
  rw [← bits_join v (Nat.mod_lt _ (Nat.two_pow_pos w)), Nat.div_add_mod']

theorem bits_inj {w m n : Nat} (hm : m < 2 ^ w) (hn : n < 2 ^ w) (h : bits w m = bits w n) :
    m = n := by
  induction w generalizing m n with
  | zero => omega
  | succ w ih =>
    rw [Nat.pow_succ] at hm hn
    obtain ⟨hfront, hlast⟩ := List.append_inj' h rfl
    have hhalf := ih (by omega) (by omega) hfront
    simp only [List.cons.injEq, decide_eq_decide, and_true] at hlast
    omega

/-! ## The alphabet -/

/-- The characters in the order of what they stand for. -/
def alphabet : List Char := "ABCDEFGHIJKLMNOPQRSTUVWXYZabcdefghijklmnopqrstuvwxyz0123456789+/".toList

theorem alphabet_digit {n : Nat} (h : n < 64) : alphabet[n]? = some (digit n) := by
  have hall : ∀ n : Fin 64, alphabet[n.val]? = some (digit n.val) := by decide +kernel
  exact hall ⟨n, h⟩

theorem value?_digit {n : Nat} (h : n < 64) : value? (digit n) = some n := by
  have hall : ∀ n : Fin 64, value? (digit n.val) = some n.val := by decide +kernel
  exact hall ⟨n, h⟩

theorem value?_padding : value? '=' = none := by decide

theorem digit_ne_padding {n : Nat} (h : n < 64) : digit n ≠ '=' := by
  intro he
  have hv := value?_digit h
  rw [he, value?_padding] at hv
  cases hv

/-- A character of the alphabet is that of its value. -/
theorem eq_digit_of_value? {c : Char} {n : Nat} (h : value? c = some n) : n < 64 ∧ c = digit n := by
  have range {low high : Char} (hc : (decide (low ≤ c) && decide (c ≤ high)) = true) :
      low.toNat ≤ c.toNat ∧ c.toNat ≤ high.toNat := by
    rw [Bool.and_eq_true, decide_eq_true_eq, decide_eq_true_eq] at hc
    exact ⟨UInt32.le_iff_toNat_le.1 hc.1, UInt32.le_iff_toNat_le.1 hc.2⟩
  have place {m : Nat} (hm : m = c.toNat) : Char.ofNat m = c := hm ▸ Char.ofNat_toNat c
  unfold value? at h
  split at h
  case isTrue hc =>
    obtain ⟨hlow, hhigh⟩ : 65 ≤ c.toNat ∧ c.toNat ≤ 90 := range hc
    cases h
    exact ⟨by omega, by rw [digit, if_pos (by omega), place (by omega)]⟩
  split at h
  case isTrue hc =>
    obtain ⟨hlow, hhigh⟩ : 97 ≤ c.toNat ∧ c.toNat ≤ 122 := range hc
    cases h
    exact ⟨by omega, by rw [digit, if_neg (by omega), if_pos (by omega), place (by omega)]⟩
  split at h
  case isTrue hc =>
    obtain ⟨hlow, hhigh⟩ : 48 ≤ c.toNat ∧ c.toNat ≤ 57 := range hc
    cases h
    exact ⟨by omega, by rw [digit, if_neg (by omega), if_neg (by omega), if_pos (by omega),
      place (by omega)]⟩
  split at h
  case isTrue hc =>
    cases h
    exact ⟨by decide, hc⟩
  split at h
  case isTrue hc =>
    cases h
    exact ⟨by decide, hc⟩
  case isFalse => cases h

/-! ## Reading what was written -/

/-- Whole groups of four are read one by one. -/
theorem decode?_group {p q r s : Char} (hs : s ≠ '=') (rest : List Char) :
    decode? (p :: q :: r :: s :: rest) = (do
      let p ← value? p
      let q ← value? q
      let r ← value? r
      let s ← value? s
      let more ← decode? rest
      some (UInt8.ofNat (p * 4 + q / 16) :: UInt8.ofNat (q % 16 * 16 + r / 4) ::
        UInt8.ofNat (r % 4 * 64 + s) :: more)) := by
  rw [decode?]
  · intro _ h
    exact absurd h hs
  · intro h
    exact absurd h hs

theorem ofNat_eq {n : Nat} {b : UInt8} (h : n = b.toNat) : UInt8.ofNat n = b := by
  rw [h, UInt8.ofNat_toNat]

/-- The first of three bytes, from its two characters; the second has bits of the next byte too. -/
theorem first_byte (a : UInt8) {x : Nat} (hx : x < 16) :
    UInt8.ofNat (a.toNat / 4 * 4 + (a.toNat % 4 * 16 + x) / 16) = a := ofNat_eq (by omega)

theorem second_byte (n : Nat) (b : UInt8) {x : Nat} (hx : x < 4) :
    UInt8.ofNat ((n * 16 + b.toNat / 16) % 16 * 16 + (b.toNat % 16 * 4 + x) / 4) = b := by
  have hb := b.toNat_lt
  exact ofNat_eq (by omega)

theorem third_byte (n : Nat) (c : UInt8) :
    UInt8.ofNat ((n * 4 + c.toNat / 64) % 4 * 64 + c.toNat % 64) = c := by
  have hc := c.toNat_lt
  exact ofNat_eq (by omega)

theorem decode?_encode (bytes : List UInt8) : decode? (encode bytes) = some bytes := by
  fun_induction encode bytes with
  | case1 => rfl
  | case2 a =>
    have ha := a.toNat_lt
    rw [decode?, value?_digit (by omega), value?_digit (by omega)]
    have hfirst : UInt8.ofNat (a.toNat / 4 * 4 + a.toNat % 4 * 16 / 16) = a :=
      first_byte a (x := 0) (by decide)
    have hrest : a.toNat % 4 * 16 % 16 = 0 := by omega
    simp only [Option.bind_eq_bind, Option.bind_some, hfirst, hrest, if_true]
  | case3 a b =>
    have ha := a.toNat_lt
    have hb := b.toNat_lt
    rw [decode?, value?_digit (by omega), value?_digit (by omega), value?_digit (by omega)]
    · have hsecond := second_byte (a.toNat % 4) b (x := 0) (by decide)
      have hrest : b.toNat % 16 * 4 % 4 = 0 := by omega
      rw [Nat.add_zero] at hsecond
      simp only [Option.bind_eq_bind, Option.bind_some, first_byte a (x := b.toNat / 16) (by omega),
        hsecond, hrest, if_true]
    · exact digit_ne_padding (by omega)
  | case4 a b c rest ih =>
    have ha := a.toNat_lt
    have hb := b.toNat_lt
    have hc := c.toNat_lt
    rw [decode?_group (digit_ne_padding (by omega)), value?_digit (by omega),
      value?_digit (by omega), value?_digit (by omega), value?_digit (by omega), ih]
    simp only [Option.bind_eq_bind, Option.bind_some, first_byte a (x := b.toNat / 16) (by omega),
      second_byte (a.toNat % 4) b (x := c.toNat / 64) (by omega), third_byte]

theorem eq_encode_of_decode? {text : List Char} {bytes : List UInt8} (h : decode? text = some bytes) :
    text = encode bytes := by
  fun_induction decode? text generalizing bytes with
  | case1 =>
    cases h
    rfl
  | case2 p q =>
    simp only [Option.bind_eq_bind, Option.bind_eq_some_iff, Option.ite_none_right_eq_some,
      Option.some.injEq] at h
    obtain ⟨m, hm, n, hn, hrest, rfl⟩ := h
    obtain ⟨hm, rfl⟩ := eq_digit_of_value? hm
    obtain ⟨hn, rfl⟩ := eq_digit_of_value? hn
    rw [encode, toNat_ofNat (by omega)]
    congr <;> omega
  | case3 p q r hr =>
    simp only [Option.bind_eq_bind, Option.bind_eq_some_iff, Option.ite_none_right_eq_some,
      Option.some.injEq] at h
    obtain ⟨m, hm, n, hn, k, hk, hrest, rfl⟩ := h
    obtain ⟨hm, rfl⟩ := eq_digit_of_value? hm
    obtain ⟨hn, rfl⟩ := eq_digit_of_value? hn
    obtain ⟨hk, rfl⟩ := eq_digit_of_value? hk
    rw [encode, toNat_ofNat (by omega), toNat_ofNat (by omega)]
    congr <;> omega
  | case4 p q r s rest _ _ ih =>
    simp only [Option.bind_eq_bind, Option.bind_eq_some_iff, Option.some.injEq] at h
    obtain ⟨m, hm, n, hn, k, hk, l, hl, more, hmore, rfl⟩ := h
    obtain ⟨hm, rfl⟩ := eq_digit_of_value? hm
    obtain ⟨hn, rfl⟩ := eq_digit_of_value? hn
    obtain ⟨hk, rfl⟩ := eq_digit_of_value? hk
    obtain ⟨hl, rfl⟩ := eq_digit_of_value? hl
    rw [encode, toNat_ofNat (by omega), toNat_ofNat (by omega), toNat_ofNat (by omega), ih hmore]
    congr <;> omega
  | case5 => cases h

/-- **A text is read as bytes exactly if it is what is written for them.** -/
theorem decode?_eq_some_iff {text : List Char} {bytes : List UInt8} :
    decode? text = some bytes ↔ text = encode bytes :=
  ⟨eq_encode_of_decode?, fun h => h ▸ decode?_encode bytes⟩

/-! ## What is laid down -/

/-- A text is the one for bytes: their bits, with zeros behind them up to a whole group of six, are
those of the places that the text's characters have in the alphabet, and signs of padding behind
those complete a group of four characters. -/
def Standard (bytes : List UInt8) (text : List Char) : Prop :=
  ∃ (places : List Nat) (characters : List Char) (zeros pads : Nat),
    places.flatMap (bits 6) =
      bytes.flatMap (fun b => bits 8 b.toNat) ++ List.replicate zeros false ∧ zeros < 6 ∧
    characters.map some = places.map (alphabet[·]?) ∧
    text = characters ++ List.replicate pads '=' ∧ pads < 4 ∧ text.length % 4 = 0

section
variable {x : Nat} (a b c : UInt8) (more : List Bool)

/-- The first of three bytes and the bits that its second character has of the next one. -/
theorem bits_first (hx : x < 16) :
    bits 6 (a.toNat / 4) ++ (bits 6 (a.toNat % 4 * 16 + x) ++ more) =
      bits 8 a.toNat ++ (bits 4 x ++ more) := by
  have hbyte : bits 8 a.toNat = bits 6 (a.toNat / 4) ++ bits 2 (a.toNat % 4) := bits_split 6 2 _
  have hnext : bits 6 (a.toNat % 4 * 16 + x) = bits 2 (a.toNat % 4) ++ bits 4 x :=
    bits_join 2 (w := 4) hx
  simp only [hbyte, hnext, List.append_assoc]

theorem bits_second (hx : x < 4) :
    bits 4 (b.toNat / 16) ++ (bits 6 (b.toNat % 16 * 4 + x) ++ more) =
      bits 8 b.toNat ++ (bits 2 x ++ more) := by
  have hbyte : bits 8 b.toNat = bits 4 (b.toNat / 16) ++ bits 4 (b.toNat % 16) := bits_split 4 4 _
  have hnext : bits 6 (b.toNat % 16 * 4 + x) = bits 4 (b.toNat % 16) ++ bits 2 x :=
    bits_join 4 (w := 2) hx
  simp only [hbyte, hnext, List.append_assoc]

theorem bits_third :
    bits 2 (c.toNat / 64) ++ (bits 6 (c.toNat % 64) ++ more) = bits 8 c.toNat ++ more := by
  have hbyte : bits 8 c.toNat = bits 2 (c.toNat / 64) ++ bits 6 (c.toNat % 64) := bits_split 2 6 _
  rw [hbyte, List.append_assoc]

end

variable {a b c : UInt8} {bytes rest : List UInt8} {text text' : List Char}

theorem standard_group (h : Standard rest text) :
    Standard (a :: b :: c :: rest) (digit (a.toNat / 4) ::
      digit (a.toNat % 4 * 16 + b.toNat / 16) :: digit (b.toNat % 16 * 4 + c.toNat / 64) ::
        digit (c.toNat % 64) :: text) := by
  obtain ⟨places, characters, zeros, pads, hbits, hzeros, hcharacters, rfl, hpads, hlength⟩ := h
  have ha := a.toNat_lt
  have hb := b.toNat_lt
  have hc := c.toNat_lt
  refine ⟨a.toNat / 4 :: (a.toNat % 4 * 16 + b.toNat / 16) ::
    (b.toNat % 16 * 4 + c.toNat / 64) :: c.toNat % 64 :: places, _ :: _ :: _ :: _ :: characters,
    zeros, pads, ?_, hzeros, ?_, rfl, hpads, ?_⟩
  · simp only [List.flatMap_cons, List.append_assoc]
    rw [bits_first a _ (by omega), bits_second b _ (by omega), bits_third, hbits]
  · simp only [List.map_cons, hcharacters]
    rw [alphabet_digit (by omega), alphabet_digit (by omega), alphabet_digit (by omega),
      alphabet_digit (by omega)]
  · simp only [List.length_append, List.length_cons, List.length_replicate] at hlength ⊢
    omega

theorem standard_encode (bytes : List UInt8) : Standard bytes (encode bytes) := by
  fun_induction encode bytes with
  | case1 => exact ⟨[], [], 0, 0, rfl, by decide, rfl, rfl, by decide, rfl⟩
  | case2 a =>
    have ha := a.toNat_lt
    refine ⟨[a.toNat / 4, a.toNat % 4 * 16], [_, _], 4, 2, ?_, by decide, ?_, rfl, by decide,
      by simp⟩
    · simpa [bits_zero] using bits_first a [] (x := 0) (by decide)
    · simp only [List.map_cons, List.map_nil]
      rw [alphabet_digit (by omega), alphabet_digit (by omega)]
  | case3 a b =>
    have ha := a.toNat_lt
    have hb := b.toNat_lt
    refine ⟨[a.toNat / 4, a.toNat % 4 * 16 + b.toNat / 16, b.toNat % 16 * 4], [_, _, _], 2, 1, ?_,
      by decide, ?_, rfl, by decide, by simp⟩
    · have hlast := bits_second b [] (x := 0) (by decide)
      rw [Nat.add_zero, bits_zero, List.append_nil, List.append_nil] at hlast
      simp only [List.flatMap_cons, List.flatMap_nil, List.append_assoc, List.append_nil]
      rw [bits_first a _ (by omega), hlast]
    · simp only [List.map_cons, List.map_nil]
      rw [alphabet_digit (by omega), alphabet_digit (by omega), alphabet_digit (by omega)]
  | case4 a b c rest ih => exact standard_group ih

theorem length_flatMap_bits (width : Nat) (places : List Nat) :
    (places.flatMap (bits width)).length = width * places.length := by
  induction places with
  | nil => rfl
  | cons n places ih =>
    rw [List.flatMap_cons, List.length_append, ih, length_bits, List.length_cons, Nat.mul_succ,
      Nat.add_comm]

theorem flatMap_bits_inj {width : Nat} {places places' : List Nat}
    (hlt : ∀ n ∈ places, n < 2 ^ width) (hlt' : ∀ n ∈ places', n < 2 ^ width)
    (hlength : places.length = places'.length)
    (h : places.flatMap (bits width) = places'.flatMap (bits width)) : places = places' := by
  induction places generalizing places' with
  | nil => exact (List.length_eq_zero_iff.1 hlength.symm).symm
  | cons n places ih =>
    cases places' with
    | nil => cases hlength
    | cons n' places' =>
      rw [List.flatMap_cons, List.flatMap_cons] at h
      obtain ⟨hn, hplaces⟩ := List.append_inj h (by simp)
      rw [List.forall_mem_cons] at hlt hlt'
      rw [bits_inj hlt.1 hlt'.1 hn, ih hlt.2 hlt'.2 (Nat.succ.inj hlength) hplaces]

/-- A character of the alphabet has a place below sixty-four. -/
theorem lt_of_alphabet {places : List Nat} {characters : List Char}
    (h : characters.map some = places.map (alphabet[·]?)) : ∀ n ∈ places, n < 2 ^ 6 := by
  intro n hn
  have hmem : alphabet[n]? ∈ characters.map some := h ▸ List.mem_map_of_mem hn
  obtain ⟨c, -, hc⟩ := List.mem_map.1 hmem
  exact (List.getElem?_eq_some_iff.1 hc.symm).1

/-- There is only one text for bytes. -/
theorem Standard.unique (h : Standard bytes text) (h' : Standard bytes text') : text = text' := by
  obtain ⟨places, characters, zeros, pads, hbits, hzeros, hcharacters, rfl, hpads, hlength⟩ := h
  obtain ⟨places', characters', zeros', pads', hbits', hzeros', hcharacters', rfl, hpads',
    hlength'⟩ := h'
  have hcount := congrArg List.length hbits
  have hcount' := congrArg List.length hbits'
  rw [length_flatMap_bits, List.length_append, List.length_replicate] at hcount hcount'
  obtain rfl : zeros = zeros' := by omega
  obtain rfl : places = places' :=
    flatMap_bits_inj (lt_of_alphabet hcharacters) (lt_of_alphabet hcharacters') (by omega)
      (hbits.trans hbits'.symm)
  obtain rfl : characters = characters' :=
    (List.map_inj_right fun _ _ => Option.some.inj).1 (hcharacters.trans hcharacters'.symm)
  rw [List.length_append, List.length_replicate] at hlength hlength'
  obtain rfl : pads = pads' := by omega
  rfl

/-- **What `encode` writes is what is laid down, and nothing else is.** -/
theorem standard_iff : Standard bytes text ↔ text = encode bytes :=
  ⟨fun h => h.unique (standard_encode bytes), fun h => h ▸ standard_encode bytes⟩

end ConditionalGet.Base64
