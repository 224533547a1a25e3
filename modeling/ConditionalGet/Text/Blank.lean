/-!
# Blank characters

White space as the Unicode character database lists it, cutting it from both ends of a text, and
splitting a text at it.
-/

set_option autoImplicit false

namespace ConditionalGet.Text

/-- Whether a character is white space. -/
def isBlank (c : Char) : Bool :=
  let n := c.toNat
  (9 ≤ n && n ≤ 13) || n = 0x20 || n = 0x85 || n = 0xA0 || n = 0x1680 ||
    (0x2000 ≤ n && n ≤ 0x200A) || n = 0x2028 || n = 0x2029 || n = 0x202F || n = 0x205F || n = 0x3000

/-- Every character that ASCII-minded code takes for white space is blank. -/
theorem isBlank_of_isWhitespace {c : Char} (h : c.isWhitespace = true) : isBlank c = true := by
  simp only [Char.isWhitespace, Bool.or_eq_true, decide_eq_true_eq] at h
  rcases h with ((rfl | rfl) | rfl) | rfl <;> decide

/-- The text without the characters satisfying `p` at its start and its end. -/
def trimWhere (p : Char → Bool) (cs : List Char) : List Char :=
  ((cs.dropWhile p).reverse.dropWhile p).reverse

/-- The text without the blanks at its start and its end. -/
def trimChars (cs : List Char) : List Char := trimWhere isBlank cs

/-- The text without the blanks at its start and its end. -/
def trim (s : String) : String := String.ofList (trimChars s.toList)

def isAllBlank (s : String) : Bool := s.toList.all isBlank

/-- The pieces between the characters satisfying `p`; a text without such a character is one
piece. -/
def pieces (p : Char → Bool) : List Char → List (List Char)
  | [] => [[]]
  | c :: cs =>
    if p c then [] :: pieces p cs
    else match pieces p cs with
      | [] => [[c]]
      | w :: ws => (c :: w) :: ws

def words (cs : List Char) : List (List Char) := (pieces isBlank cs).filter (!·.isEmpty)

/-- Splits at the first character satisfying `p`, which belongs to neither part. -/
def cut? (p : Char → Bool) : List Char → Option (List Char × List Char)
  | [] => none
  | c :: cs => if p c then some ([], cs) else (cut? p cs).map fun (a, b) => (c :: a, b)

theorem cut?_eq_some_append {p : Char → Bool} {cs a b : List Char} (h : cut? p cs = some (a, b)) :
    ∃ c, p c = true ∧ cs = a ++ c :: b := by
  induction cs generalizing a with
  | nil => simp [cut?] at h
  | cons c cs ih =>
    by_cases hc : p c = true
    · simp [cut?, hc] at h
      exact ⟨c, hc, by simp [← h.1, ← h.2]⟩
    · simp only [cut?, hc, Bool.false_eq_true, if_false, Option.map_eq_some_iff, Prod.exists,
        Prod.mk.injEq] at h
      obtain ⟨a', b', h', rfl, rfl⟩ := h
      obtain ⟨d, hd, he⟩ := ih h'
      exact ⟨d, hd, by simp [he]⟩

end ConditionalGet.Text
