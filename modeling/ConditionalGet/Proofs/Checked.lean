/-!
# Steps that may fail

A sequence of steps that may fail has a result if each step has one (`bind_eq_ok_iff`), and what each
step of a loop keeps holds when the loop is over (`foldlM_kept`).
-/

set_option autoImplicit false

namespace ConditionalGet.Checked

variable {α β ε : Type}

theorem bind_eq_ok_iff {x : Except ε α} {f : α → Except ε β} {b : β} :
    x >>= f = .ok b ↔ ∃ a, x = .ok a ∧ f a = .ok b := by
  cases x with
  | error e =>
    constructor
    · exact fun h => nomatch h
    · rintro ⟨_, ⟨⟩, -⟩
  | ok a =>
    constructor
    · exact fun h => ⟨a, rfl, h⟩
    · rintro ⟨_, ⟨⟩, h⟩
      exact h

/-- Making something else of a result does not keep it from being there. -/
theorem isOk_bind_pure_iff {x : Except ε α} {f : α → β} :
    (∃ b, (do return f (← x) : Except ε β) = .ok b) ↔ ∃ a, x = .ok a := by
  constructor
  · rintro ⟨b, h⟩
    obtain ⟨a, ha, -⟩ := bind_eq_ok_iff.1 h
    exact ⟨a, ha⟩
  · rintro ⟨a, rfl⟩
    exact ⟨f a, rfl⟩

/-- What each step of a loop keeps holds when the loop is over. -/
theorem foldlM_kept {P : β → Prop} {f : β → α → Except ε β} {l : List α}
    (hf : ∀ b, ∀ a ∈ l, ∀ b', P b → f b a = .ok b' → P b') {b b' : β} (hb : P b)
    (h : l.foldlM f b = .ok b') : P b' := by
  induction l generalizing b with
  | nil =>
    cases h
    exact hb
  | cons a l ih =>
    rw [List.foldlM_cons] at h
    obtain ⟨b₁, hstep, hrest⟩ := bind_eq_ok_iff.1 h
    exact ih (fun b a ha => hf b a (List.mem_cons_of_mem _ ha))
      (hf b a (List.mem_cons_self ..) b₁ hb hstep) hrest

/-- A loop has a result if each of its steps has one, wherever it starts. -/
theorem foldlM_isOk_iff {P : α → Prop} {f : β → α → Except ε β}
    (hf : ∀ b a, (∃ b', f b a = .ok b') ↔ P a) {l : List α} {b : β} :
    (∃ b', l.foldlM f b = .ok b') ↔ ∀ a ∈ l, P a := by
  induction l generalizing b with
  | nil => simpa using ⟨b, rfl⟩
  | cons a l ih =>
    simp only [List.foldlM_cons, bind_eq_ok_iff, List.forall_mem_cons, ← hf b a]
    constructor
    · rintro ⟨b', b₁, hstep, hrest⟩
      exact ⟨⟨b₁, hstep⟩, ih.1 ⟨b', hrest⟩⟩
    · rintro ⟨⟨b₁, hstep⟩, hrest⟩
      obtain ⟨b', h⟩ := ih.2 hrest
      exact ⟨b', b₁, hstep, h⟩

end ConditionalGet.Checked
