import ConditionalGet.Text.Ascii
import ConditionalGet.Text.Blank
import Mathlib.Data.List.TakeWhile

/-!
# Pieces, words and ends of a text

A separator cuts a text into the pieces before and behind it (`pieces_append_cons`), so blanks do
nothing to the words of a text but divide them (`words_trimChars`), and words with one blank between
any two are read back (`words_intercalate`).
-/

set_option autoImplicit false

namespace ConditionalGet.Text

variable {p : Char → Bool} {c : Char} {cs w : List Char}

/-- No character of a text is one that the text has not. -/
theorem eq_false_of_not_mem (h : c ∉ cs) : ∀ d ∈ cs, decide (d = c) = false :=
  fun _ hd => decide_eq_false fun he => h (he ▸ hd)

/-! ## Pieces -/

theorem pieces_ne_nil (p : Char → Bool) (cs : List Char) : pieces p cs ≠ [] := by
  cases cs with
  | nil => simp [pieces]
  | cons c cs =>
    unfold pieces
    split
    · simp
    · split <;> simp

/-- A text without a separator is one piece. -/
theorem pieces_eq_singleton {p : Char → Bool} {cs : List Char} (h : ∀ c ∈ cs, p c = false) :
    pieces p cs = [cs] := by
  induction cs with
  | nil => rfl
  | cons c cs ih =>
    rw [pieces, h c (by simp), ih fun d hd => h d (List.mem_cons_of_mem _ hd)]
    rfl

/-- The pieces before and behind a separator. -/
theorem pieces_append_cons {p : Char → Bool} {c : Char} (hc : p c = true) (as bs : List Char) :
    pieces p (as ++ c :: bs) = pieces p as ++ pieces p bs := by
  induction as with
  | nil => simp [pieces, hc]
  | cons a as ih =>
    simp only [List.cons_append, pieces, ih]
    split
    · rfl
    · cases h : pieces p as with
      | nil => exact absurd h (pieces_ne_nil p as)
      | cons w ws => rfl

/-- A text is cut at the first separator. -/
theorem cut?_append_cons (h : ∀ d ∈ cs, p d = false) (hc : p c = true) (rest : List Char) :
    cut? p (cs ++ c :: rest) = some (cs, rest) := by
  induction cs with
  | nil => simp [cut?, hc]
  | cons d cs ih =>
    obtain ⟨hd, hcs⟩ := List.forall_mem_cons.1 h
    simp [cut?, hd, ih hcs]

/-- No separator is before the one at which a text is cut. -/
theorem eq_false_of_cut? {a b : List Char} (h : cut? p cs = some (a, b)) : ∀ d ∈ a, p d = false := by
  induction cs generalizing a with
  | nil => cases h
  | cons c cs ih =>
    unfold cut? at h
    split at h
    · cases h
      simp
    · rename_i hc
      obtain ⟨⟨a', b'⟩, hcut, he⟩ := Option.map_eq_some_iff.1 h
      obtain ⟨rfl, rfl⟩ := Prod.mk.inj he
      exact List.forall_mem_cons.2 ⟨Bool.eq_false_iff.2 hc, ih hcut⟩

theorem cut?_eq_none (h : ∀ d ∈ cs, p d = false) : cut? p cs = none := by
  induction cs with
  | nil => rfl
  | cons d cs ih =>
    obtain ⟨hd, hcs⟩ := List.forall_mem_cons.1 h
    simp [cut?, hd, ih hcs]

/-! ## Ends -/

theorem trimWhere_append_left (h : ∀ d ∈ w, p d = true) (cs : List Char) :
    trimWhere p (w ++ cs) = trimWhere p cs := by
  rw [trimWhere, List.dropWhile_append_of_pos h, trimWhere]

theorem trimWhere_append_right (h : ∀ d ∈ w, p d = true) (cs : List Char) :
    trimWhere p (cs ++ w) = trimWhere p cs := by
  have hw : w.dropWhile p = [] := List.dropWhile_eq_nil_iff.2 h
  unfold trimWhere
  rw [List.dropWhile_append]
  split
  · rename_i hcs
    rw [hw, List.isEmpty_iff.1 hcs]
  · rw [List.reverse_append, List.dropWhile_append_of_pos fun d hd => h d (List.mem_reverse.1 hd)]

/-- Nothing is cut off behind a character that is to stay. -/
theorem trimWhere_concat (hc : p c = false) (cs : List Char) :
    trimWhere p (cs ++ [c]) = cs.dropWhile p ++ [c] := by
  have hlast : (cs ++ [c]).dropWhile p = cs.dropWhile p ++ [c] := by
    rw [List.dropWhile_append]
    split
    · rename_i hcs
      simp [List.isEmpty_iff.1 hcs, hc]
    · rfl
  rw [trimWhere, hlast, List.reverse_append]
  simp [hc]

theorem trimWhere_eq_self (h : ∀ d ∈ cs, p d = false) : trimWhere p cs = cs := by
  have hdrop : ∀ ds : List Char, (∀ d ∈ ds, p d = false) → ds.dropWhile p = ds := by
    intro ds hds
    cases ds with
    | nil => rfl
    | cons d ds => simp [hds d]
  rw [trimWhere, hdrop cs h, hdrop _ fun d hd => h d (List.mem_reverse.1 hd), List.reverse_reverse]

/-- Only blanks are cut off. -/
theorem exists_trimChars (cs : List Char) : ∃ a b, cs = a ++ trimChars cs ++ b ∧
    (∀ d ∈ a, isBlank d = true) ∧ ∀ d ∈ b, isBlank d = true := by
  have hdrop : ∀ ds : List Char, ∃ a, ds = a ++ ds.dropWhile isBlank ∧ ∀ d ∈ a, isBlank d = true :=
    fun ds => ⟨ds.takeWhile isBlank, List.takeWhile_append_dropWhile.symm,
      fun d hd => List.mem_takeWhile_imp hd⟩
  obtain ⟨a, ha, hblank⟩ := hdrop cs
  obtain ⟨b, hb, hblank'⟩ := hdrop (cs.dropWhile isBlank).reverse
  refine ⟨a, b.reverse, ?_, hblank, fun d hd => hblank' d (List.mem_reverse.1 hd)⟩
  have hrest : cs.dropWhile isBlank = trimChars cs ++ b.reverse := by
    have h := congrArg List.reverse hb
    rwa [List.reverse_reverse, List.reverse_append] at h
  rw [List.append_assoc, ← hrest, ← ha]

/-! ## Words -/

theorem words_append_cons (hc : isBlank c = true) (as bs : List Char) :
    words (as ++ c :: bs) = words as ++ words bs := by
  rw [words, pieces_append_cons hc, List.filter_append, words, words]

theorem words_eq_singleton (hne : w ≠ []) (h : ∀ d ∈ w, isBlank d = false) : words w = [w] := by
  rw [words, pieces_eq_singleton h]
  simp [hne]

theorem words_blank_append (h : ∀ d ∈ w, isBlank d = true) (cs : List Char) :
    words (w ++ cs) = words cs := by
  induction w with
  | nil => rfl
  | cons d w ih =>
    obtain ⟨hd, hw⟩ := List.forall_mem_cons.1 h
    have hsplit : words (d :: (w ++ cs)) = words [] ++ words (w ++ cs) :=
      words_append_cons hd [] (w ++ cs)
    rw [List.cons_append, hsplit, ih hw]
    rfl

theorem words_append_blank (h : ∀ d ∈ w, isBlank d = true) (cs : List Char) :
    words (cs ++ w) = words cs := by
  cases w with
  | nil => rw [List.append_nil]
  | cons d w =>
    obtain ⟨hd, hw⟩ := List.forall_mem_cons.1 h
    have hnone : words w = [] := by
      have hblank := words_blank_append hw []
      rwa [List.append_nil] at hblank
    rw [words_append_cons hd, hnone, List.append_nil]

theorem words_dropWhile (cs : List Char) : words (cs.dropWhile isBlank) = words cs := by
  have hblank : ∀ d ∈ cs.takeWhile isBlank, isBlank d = true :=
    fun d hd => List.mem_takeWhile_imp hd
  have hwords := words_blank_append hblank (cs.dropWhile isBlank)
  rw [List.takeWhile_append_dropWhile] at hwords
  exact hwords.symm

theorem words_trimChars (cs : List Char) : words (trimChars cs) = words cs := by
  obtain ⟨a, b, hcs, ha, hb⟩ := exists_trimChars cs
  have hwords := congrArg words hcs
  rw [words_append_blank hb, words_blank_append ha] at hwords
  exact hwords.symm

theorem words_intercalate {ws : List (List Char)}
    (h : ∀ w ∈ ws, w ≠ [] ∧ ∀ d ∈ w, isBlank d = false) :
    words ([' '].intercalate ws) = ws := by
  induction ws with
  | nil => rfl
  | cons w ws ih =>
    obtain ⟨⟨hne, hw⟩, hws⟩ := List.forall_mem_cons.1 h
    cases ws with
    | nil => rw [List.intercalate_singleton, words_eq_singleton hne hw]
    | cons w' ws =>
      rw [List.intercalate_cons_cons, List.append_assoc, List.singleton_append,
        words_append_cons (by decide), words_eq_singleton hne hw, ih hws]
      rfl

theorem not_mem_intercalate {ws : List (List Char)} (hw : c ∉ w) (h : ∀ v ∈ ws, c ∉ v) :
    c ∉ w.intercalate ws := by
  induction ws with
  | nil => exact List.not_mem_nil
  | cons v ws ih =>
    obtain ⟨hv, hws⟩ := List.forall_mem_cons.1 h
    cases ws with
    | nil => rwa [List.intercalate_singleton]
    | cons v' ws =>
      rw [List.intercalate_cons_cons]
      simp only [List.mem_append, not_or]
      exact ⟨⟨hv, hw⟩, ih hws⟩

/-! ## Letters -/

theorem toLower_eq_self (h : c.isUpper = false) : c.toLower = c := by
  unfold Char.isUpper at h
  exact dif_neg (of_decide_eq_false h)

theorem isUpper_of_isBlank (h : isBlank c = true) : c.isUpper = false := by
  have hbounds : c.isUpper = true → 65 ≤ c.toNat ∧ c.toNat ≤ 90 := by
    intro hc
    have hc := of_decide_eq_true hc
    exact ⟨UInt32.le_iff_toNat_le.1 hc.1, UInt32.le_iff_toNat_le.1 hc.2⟩
  refine Bool.eq_false_iff.2 fun hc => ?_
  have hc := hbounds hc
  simp [isBlank] at h
  omega

theorem lower_eq_self {s : String} (h : ∀ c ∈ s.toList, c.isUpper = false) : lower s = s := by
  have hsmall : ∀ c ∈ s.toList, c.toLower = c := fun c hc => toLower_eq_self (h c hc)
  rw [lower, List.map_congr_left hsmall, List.map_id', String.ofList_toList]

/-- A text that agrees with a text in small letters has these letters, or capitals. -/
theorem mem_of_lower {s t : String} (h : lower s = t) (hc : c ∈ s.toList) :
    c ∈ t.toList ∨ c.isUpper = true := by
  cases hupper : c.isUpper with
  | true => exact .inr rfl
  | false =>
    refine .inl ?_
    rw [← h, lower, String.toList_ofList, ← toLower_eq_self hupper]
    exact List.mem_map_of_mem hc

end ConditionalGet.Text
