import ConditionalGet.Json.Reader
import ConditionalGet.Json.Value

/-!
# Strings and objects are read as they are written

What `Json.stringChars` writes, `Reader.string` reads (`string_stringChars`). The members of an
object are read one after another whatever blanks stand between them: `foldMembers_first`,
`foldMembers_next` and `foldMembers_end` follow the text of an object from brace to brace, and
leave the values to the reader of the members.
-/

set_option autoImplicit false

namespace ConditionalGet.Json.Reader

variable {α β σ : Type}

/-- A sequence of readers goes on where the first one stopped. -/
theorem bind_ok {p : Reader α} {f : α → Reader β} {cs rest : List Char} {a : α}
    (h : p cs = .ok (a, rest)) : (p >>= f) cs = f a rest := by
  show (p cs >>= fun r => f r.1 r.2) = _
  rw [h]
  rfl

/-! ## Blanks and tokens -/

/-- A text of white space alone. -/
def Blank (cs : List Char) : Prop := ∀ c ∈ cs, isBlank c = true

theorem blank_newLine (level : Nat) : Blank (newLine level) := by
  intro c hc
  simp only [newLine, List.mem_cons, List.mem_replicate] at hc
  rcases hc with rfl | ⟨-, rfl⟩ <;> rfl

theorem token_of_blank {bs : List Char} (hb : Blank bs) {c : Char} (hc : isBlank c = false)
    (rest : List Char) : token (bs ++ c :: rest) = .ok (some c, c :: rest) := by
  have hdrop : (bs ++ c :: rest).dropWhile isBlank = c :: rest := by
    rw [List.dropWhile_append_of_pos hb, List.dropWhile_cons_of_neg (by simp [hc])]
  simp only [token, hdrop, List.head?_cons]

theorem token_cons {c : Char} (hc : isBlank c = false) (rest : List Char) :
    token (c :: rest) = .ok (some c, c :: rest) :=
  token_of_blank (show Blank [] by simp [Blank]) hc rest

theorem token_space {c : Char} (hc : isBlank c = false) (rest : List Char) :
    token (' ' :: c :: rest) = .ok (some c, c :: rest) :=
  token_of_blank (show Blank [' '] by simp [Blank, isBlank]) hc rest

@[simp] theorem peek_cons (c : Char) (rest : List Char) :
    peek (c :: rest) = .ok (some c, c :: rest) := rfl

@[simp] theorem skip_cons (c : Char) (rest : List Char) : skip (c :: rest) = .ok ((), rest) := rfl

/-! ## Strings -/

theorem hexDigit?_hexDigit {n : Nat} (h : n < 16) : Text.hexDigit? (Text.hexDigit n) = some n := by
  have all : ∀ m ∈ List.range 16, Text.hexDigit? (Text.hexDigit m) = some m := by decide
  exact all n (List.mem_range.2 h)

theorem fourDigits_escaped {n : Nat} (h : n < 256) (rest : List Char) :
    fourDigits ('0' :: '0' :: Text.hexDigit (n / 16) :: Text.hexDigit (n % 16) :: rest) =
      .ok (n, rest) := by
  have h0 : Text.hexDigit? '0' = some 0 := by decide
  simp only [fourDigits, h0, hexDigit?_hexDigit (show n / 16 < 16 by omega),
    hexDigit?_hexDigit (show n % 16 < 16 by omega)]
  congr 2
  omega

theorem escape_control {c : Char} (h : c.toNat < 0x20) (rest : List Char) :
    escape ('u' :: '0' :: '0' :: Text.hexDigit (c.toNat / 16) :: Text.hexDigit (c.toNat % 16) ::
      rest) = .ok (c, rest) := by
  have hfour := fourDigits_escaped (n := c.toNat) (by omega) rest
  have hc : Char.ofNat c.toNat = c := Char.ofNat_toNat c
  have hlow : ¬(0xDC00 ≤ c.toNat && c.toNat ≤ 0xDFFF) = true := by
    simp only [Bool.and_eq_true, decide_eq_true_eq]
    omega
  have hhigh : ¬(0xD800 ≤ c.toNat && c.toNat ≤ 0xDBFF) = true := by
    simp only [Bool.and_eq_true, decide_eq_true_eq]
    omega
  refine (bind_ok (f := fun n => if 0xDC00 ≤ n && n ≤ 0xDFFF then fail .loneSurrogate
    else if 0xD800 ≤ n && n ≤ 0xDBFF then secondHalf n else pure (Char.ofNat n)) hfour).trans ?_
  rw [if_neg hlow, if_neg hhigh, hc]
  rfl

/-- One character of a string is read as it is written. -/
theorem stringBody_escaped (bound : Nat) (read : List Char) (c : Char) (rest : List Char) :
    stringBody (bound + 1) read (escaped c ++ rest) = stringBody bound (c :: read) rest := by
  unfold escaped
  iterate 7
    split
    · rename_i h
      rw [h]
      rfl
  split
  · rename_i h
    exact bind_ok (f := fun d => stringBody bound (d :: read)) (escape_control h rest)
  · rename_i _ _ _ _ _ _ _ hc
    conv => lhs; unfold stringBody
    refine (bind_ok (peek_cons c rest)).trans ?_
    simp only [hc, if_false]
    rfl

theorem stringBody_flatMap (read cs rest : List Char) {bound : Nat} (h : cs.length < bound) :
    stringBody bound read (cs.flatMap escaped ++ '"' :: rest) =
      .ok (read.reverse ++ cs, rest) := by
  induction cs generalizing bound read with
  | nil =>
    obtain ⟨b, rfl⟩ := Nat.exists_eq_succ_of_ne_zero (Nat.ne_of_gt h)
    rw [List.append_nil]
    rfl
  | cons c cs ih =>
    have hpos := Nat.lt_of_le_of_lt (Nat.zero_le _) h
    obtain ⟨b, rfl⟩ := Nat.exists_eq_succ_of_ne_zero (Nat.ne_of_gt hpos)
    rw [List.flatMap_cons, List.append_assoc, stringBody_escaped, ih (c :: read) (by simpa using h)]
    simp

theorem length_le_flatMap_escaped (cs : List Char) : cs.length ≤ (cs.flatMap escaped).length := by
  induction cs with
  | nil => exact Nat.zero_le _
  | cons c cs ih =>
    have hc : 1 ≤ (escaped c).length := by
      unfold escaped
      repeat' split
      all_goals simp
    rw [List.flatMap_cons, List.length_append, List.length_cons]
    omega

theorem stringChars_append (s : String) (rest : List Char) :
    stringChars s ++ rest = '"' :: (s.toList.flatMap escaped ++ '"' :: rest) := by
  simp [stringChars]

theorem string_stringChars (s : String) (rest : List Char) :
    string (stringChars s ++ rest) = .ok (s, rest) := by
  have hlen := length_le_flatMap_escaped s.toList
  have hbody := stringBody_flatMap [] s.toList rest
    (show s.toList.length < (s.toList.flatMap escaped ++ '"' :: rest).length + 1 by
      rw [List.length_append]
      omega)
  rw [stringChars_append]
  refine (bind_ok (f := fun cs => pure (String.ofList cs)) hbody).trans ?_
  rw [List.reverse_nil, List.nil_append, String.ofList_toList]
  rfl

/-! ## Objects -/

section
variable {bs : List Char} (hb : Blank bs)
include hb

theorem hasMember_first (rest : List Char) :
    hasMember true (bs ++ '"' :: rest) = .ok (true, '"' :: rest) :=
  (bind_ok (token_of_blank hb (by decide) rest)).trans rfl

theorem hasMember_next (rest : List Char) :
    hasMember false (',' :: (bs ++ '"' :: rest)) = .ok (true, '"' :: rest) := by
  refine (bind_ok (token_cons (by decide) _)).trans ?_
  refine (bind_ok (f := fun _ => token >>= _) (skip_cons ',' _)).trans ?_
  exact (bind_ok (token_of_blank hb (by decide) rest)).trans rfl

theorem hasMember_end (first : Bool) (rest : List Char) :
    hasMember first (bs ++ '\x7d' :: rest) = .ok (false, '\x7d' :: rest) :=
  (bind_ok (token_of_blank hb (by decide) rest)).trans rfl

variable (step : σ → String → Reader σ) (bound : Nat) (s : σ) (name : String)

theorem foldMembers_first (rest : List Char) :
    foldMembers step (bound + 1) true s (bs ++ (stringChars name ++ rest)) =
      (step s name >>= foldMembers step bound false) rest := by
  refine (bind_ok (hasMember_first hb _)).trans ?_
  exact bind_ok (string_stringChars name rest)

theorem foldMembers_next (rest : List Char) :
    foldMembers step (bound + 1) false s (',' :: (bs ++ (stringChars name ++ rest))) =
      (step s name >>= foldMembers step bound false) rest := by
  refine (bind_ok (hasMember_next hb _)).trans ?_
  exact bind_ok (string_stringChars name rest)

theorem foldMembers_end (first : Bool) (rest : List Char) :
    foldMembers step (bound + 1) first s (bs ++ '\x7d' :: rest) = .ok (s, '\x7d' :: rest) :=
  (bind_ok (hasMember_end hb first rest)).trans rfl

end

/-! ## Objects as text -/

theorem joined_cons (separator x : List Char) (xs : List (List Char)) :
    joined separator (x :: xs) = x ++ xs.flatMap (separator ++ ·) := by
  induction xs generalizing x with
  | nil => simp [joined]
  | cons y ys ih => rw [joined, ih y, List.flatMap_cons, List.append_assoc, List.append_assoc]

theorem prettyMembers_eq_map (level : Nat) (ms : List (String × Value)) :
    prettyMembers level ms =
      ms.map fun m => stringChars m.1 ++ ':' :: ' ' :: m.2.prettyChars level := by
  induction ms with
  | nil => rfl
  | cons m ms ih => simp [prettyMembers, ih]

/-- What stands before the closing brace after the first member. -/
def laterMembers (level : Nat) (ms : List (String × Value)) : List Char :=
  ms.flatMap fun m =>
    ',' :: (newLine (level + 1) ++
      (stringChars m.1 ++ (':' :: ' ' :: m.2.prettyChars (level + 1))))

theorem prettyChars_object (level : Nat) (m : String × Value) (ms : List (String × Value))
    (rest : List Char) :
    (Value.object (m :: ms)).prettyChars level ++ rest =
      '\x7b' :: (newLine (level + 1) ++ (stringChars m.1 ++
        (':' :: ' ' :: (m.2.prettyChars (level + 1) ++
          (laterMembers level ms ++ (newLine level ++ '\x7d' :: rest)))))) := by
  rw [Value.prettyChars, prettyMembers_eq_map, List.map_cons, joined_cons]
  simp [laterMembers, List.flatMap_map]

/-- The members of an object after the first are read one by one, if each value is. -/
theorem foldMembers_later {step : σ → String → Reader σ} {level : Nat}
    {value : β → Value} {next : σ → String → β → σ}
    (h : ∀ s name b rest, step s name (':' :: ' ' :: ((value b).prettyChars (level + 1) ++ rest)) =
      .ok (next s name b, rest)) (es : List (String × β)) (s : σ) (rest : List Char)
    {bound : Nat} (hbound : es.length < bound) :
    foldMembers step bound false s
        (laterMembers level (es.map fun e => (e.1, value e.2)) ++
          (newLine level ++ '\x7d' :: rest)) =
      .ok (es.foldl (fun s e => next s e.1 e.2) s, '\x7d' :: rest) := by
  induction es generalizing s bound with
  | nil =>
    obtain ⟨b, rfl⟩ := Nat.exists_eq_succ_of_ne_zero (Nat.ne_of_gt hbound)
    exact foldMembers_end (blank_newLine level) step b s false rest
  | cons e es ih =>
    obtain ⟨b, rfl⟩ := Nat.exists_eq_succ_of_ne_zero (Nat.ne_zero_of_lt hbound)
    simp only [laterMembers, List.map_cons, List.flatMap_cons, List.cons_append, List.append_assoc]
    rw [foldMembers_next (blank_newLine (level + 1)), bind_ok (h s e.1 e.2 _)]
    exact ih _ (Nat.lt_of_succ_lt_succ hbound)

theorem length_laterMembers (level : Nat) (ms : List (String × Value)) :
    ms.length ≤ (laterMembers level ms).length := by
  induction ms with
  | nil => exact Nat.zero_le _
  | cons m ms ih =>
    simp only [laterMembers, List.flatMap_cons, List.length_append, List.length_cons] at ih ⊢
    omega

/-- The length of a text bounds the number of members that can be read from it. -/
theorem eachMember_ok {step : σ → String → Reader σ} {s s' : σ} {cs rest : List Char} {n : Nat}
    (hlen : n ≤ cs.length)
    (h : ∀ bound, n < bound → foldMembers step bound true s cs = .ok (s', rest)) :
    eachMember step s cs = .ok (s', rest) :=
  h (cs.length + 1) (Nat.lt_succ_of_le hlen)

/-! ## Punctuation -/

theorem colon_cons (rest : List Char) : colon (':' :: rest) = .ok ((), rest) :=
  (bind_ok (token_cons (by decide) rest)).trans rfl

/-- An object is read if its members are and stand right before its closing brace. -/
theorem braced_ok {body : Reader α} {a : α} {cs rest : List Char}
    (h : body cs = .ok (a, '\x7d' :: rest)) : braced body ('\x7b' :: cs) = .ok (a, rest) := by
  have hclose : closeObject ('\x7d' :: rest) = .ok ((), rest) :=
    (bind_ok (token_cons (by decide) rest)).trans rfl
  refine (bind_ok (skip_cons '\x7b' cs)).trans ?_
  simp only [settle, h, hclose]

theorem settled_ok {body : Reader α} {a : α} {cs rest : List Char} (h : body cs = .ok (a, rest)) :
    settled body cs = .ok (a, rest) := by
  simp only [settled, settle, h]
  rfl

/-- A text is read if nothing is left of it. -/
theorem whole_ok {body : Reader α} {a : α} {text : String} (h : body text.toList = .ok (a, [])) :
    whole body text = .ok a := by
  unfold whole
  simp only [bind_ok (settled_ok h)]
  rfl

end ConditionalGet.Json.Reader
