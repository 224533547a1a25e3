import ConditionalGet.Proofs.Command.Fetching

/-!
# Visits of a collection, page by page

`Paging.visit` asks for one page after another and prints each. `Visited` says how that goes with at
most so many pages: what is fetched, and how it ends. A visit with a smaller limit is the first part
of one with a larger limit (`Visited.take`), and what is written down in the course of it is what is
asked for each page, with the page printed before the next one is asked for (`Visited.log_eq`).
-/

set_option autoImplicit false

namespace ConditionalGet.Command

open Program Paging

/-! ## Pages that are fetched -/

/-- A page that is asked for: where, what is asked and answered until there is an answer, and that
answer. -/
structure PageFetch where
  uri : Url
  turns : List (Turn interface)
  answer : Except ClientError Resource

/-- A question that prints nothing. -/
def Silent (q : interface.Question) : Prop := ∀ text, q ≠ Question.print text

namespace PageFetch

/-- The page, unless the answer is none. -/
def page? (f : PageFetch) : Option Resource := (advance 0 f.uri f.answer).1.toOption

/-- All that is asked and answered for a page, which is printed as soon as it is there. -/
def shown (f : PageFetch) : List (Turn interface) :=
  f.turns ++ f.page?.toList.map fun page => ⟨.print (pageText page), ()⟩

/-- The page is the last of its collection. -/
def IsLast (f : PageFetch) : Prop :=
  ∃ page, f.answer = .ok page ∧ page.status = 200 ∧ page.nextLink? = none

theorem page?_eq_some_iff {f : PageFetch} {page : Resource} : f.page? = some page ↔
    f.answer = .ok page ∧ page.status = 200 ∧ ∃ next, Leads f.uri page next := by
  obtain ⟨⟨item, after⟩, hitem⟩ : ∃ y, advance 0 f.uri f.answer = y := ⟨_, rfl⟩
  have h := advanced_advance 0 f.uri f.answer
  rw [hitem] at h
  rw [page?, hitem, ← h.item_ok_iff]
  cases item <;> simp [Except.toOption]

theorem page?_of_fails {f : PageFetch} {e : ClientError} (h : Fails f.uri f.answer e) :
    f.page? = none := by
  cases hp : f.page? with
  | none => rfl
  | some page =>
    obtain ⟨hanswer, hst, next, hnext⟩ := page?_eq_some_iff.1 hp
    rw [hanswer] at h
    exact absurd hnext (h.not_leads hst)

theorem not_isLast_of_fails {f : PageFetch} {e : ClientError} (h : Fails f.uri f.answer e) :
    ¬f.IsLast := by
  rintro ⟨page, hanswer, hst, hl⟩
  rw [hanswer] at h
  exact h.not_leads hst (.last hl)

end PageFetch

/-- The pages among what is fetched. -/
def pages (fetches : List PageFetch) : List Resource := fetches.filterMap PageFetch.page?

theorem pages_of_fails {f : PageFetch} {e : ClientError} (h : Fails f.uri f.answer e) :
    pages [f] = [] :=
  List.filterMap_cons_none (PageFetch.page?_of_fails h)

theorem pages_cons {f : PageFetch} {page : Resource} (h : f.page? = some page)
    (rest : List PageFetch) : pages (f :: rest) = page :: pages rest :=
  List.filterMap_cons_some h

/-- Pages of which the first is at `uri`, and each other one where the one before it leads. -/
inductive Linked : Url → List PageFetch → Prop
  | nil (uri : Url) : Linked uri []
  | last (f : PageFetch) : Linked f.uri [f]
  | next {f : PageFetch} {page : Resource} {target : Url} {rest : List PageFetch} :
      f.page? = some page → Leads f.uri page (some target) → Linked target rest →
      Linked f.uri (f :: rest)

/-! ## A visit -/

section
variable {τ : Type} (step : Answering Fetching.interface τ) (log : τ → List (Turn interface))

/-- An environment that writes down what is asked further out: nothing is printed on the way to a
page, and nothing else is done to print one. -/
structure Telling : Prop where
  get : ∀ s request x s', step s (.get request) x s' →
    ∃ turns, log s' = log s ++ turns ∧ ∀ t ∈ turns, Silent t.question
  print : ∀ s text u s', step s (.print text) u s' → log s' = log s ++ [⟨.print text, ()⟩]

/-- The page that is next is asked for. -/
structure Fetches (p : Paging) (f : PageFetch) (s s' : τ) : Prop where
  next : p.next? = some f.uri
  asked : step s (.get (request f.uri)) f.answer s'
  turns : log s' = log s ++ f.turns
  silent : ∀ t ∈ f.turns, Silent t.question

/-- How a visit of at most so many pages goes: what is fetched, and how it ends. -/
inductive Visited : Nat → Paging → τ → List PageFetch → Except ClientError Unit → τ → Prop
  | cut {p : Paging} {s : τ} : Visited 0 p s [] (.ok ()) s
  | ended {limit : Nat} {p : Paging} {s : τ} : p.next? = none →
      Visited (limit + 1) p s [] (.ok ()) s
  | failed {limit : Nat} {p : Paging} {f : PageFetch} {e : ClientError} {s s' : τ} :
      Fetches step log p f s s' → Fails f.uri f.answer e →
      Visited (limit + 1) p s [f] (.error e) s'
  | page {limit : Nat} {p : Paging} {f : PageFetch} {page : Resource} {next : Option Url}
      {rest : List PageFetch} {x : Except ClientError Unit} {s s₁ s₂ s' : τ} :
      Fetches step log p f s s₁ → f.answer = .ok page → page.status = 200 →
      Leads f.uri page next → step s₁ (.print (pageText page)) () s₂ →
      Visited limit ⟨next, p.fetched + 1⟩ s₂ rest x s' →
      Visited (limit + 1) p s (f :: rest) x s'

variable {step} {log} {limit : Nat} {p : Paging} {s s' : τ} {x : Except ClientError Unit}
  {fetches : List PageFetch}

theorem exists_visited (htell : Telling step log) (h : Runs step (visiting limit p) s x s') :
    ∃ fetches, Visited step log limit p s fetches x s' := by
  induction limit generalizing p s with
  | zero =>
    obtain ⟨rfl, rfl⟩ := runs_pure_iff'.1 h
    exact ⟨[], .cut⟩
  | succ limit ih =>
    cases runs_visit_iff.1 h with
    | ended hp => exact ⟨[], .ended hp⟩
    | failed hp hask hf =>
      obtain ⟨turns, hturns, hsilent⟩ := htell.get _ _ _ _ hask
      exact ⟨[⟨_, turns, _⟩], .failed ⟨hp, hask, hturns, hsilent⟩ hf⟩
    | page hp hask hst hnext hprint hrest =>
      obtain ⟨turns, hturns, hsilent⟩ := htell.get _ _ _ _ hask
      obtain ⟨rest, hvisited⟩ := ih hrest
      exact ⟨⟨_, turns, _⟩ :: rest, .page ⟨hp, hask, hturns, hsilent⟩ rfl hst hnext hprint hvisited⟩

theorem Visited.runs (h : Visited step log limit p s fetches x s') :
    Runs step (visiting limit p) s x s' := by
  induction h with
  | cut => exact runs_pure_iff'.2 ⟨rfl, rfl⟩
  | ended hp => exact runs_visit_iff.2 (.ended hp)
  | failed hfetch hf => exact runs_visit_iff.2 (.failed hfetch.next hfetch.asked hf)
  | page hfetch ha hst hnext hprint _ ih =>
    exact runs_visit_iff.2 (.page hfetch.next (ha ▸ hfetch.asked) hst hnext hprint ih)

/-! ## What a limit cuts off -/

/-- A visit with a smaller limit is the first part of one with a larger limit. It ends there if
there are that many pages, and as the other one otherwise. -/
theorem Visited.take (h : Visited step log limit p s fetches x s') {n : Nat} (hn : n ≤ limit) :
    ∃ s₁, Visited step log n p s (fetches.take n)
      (if n ≤ (pages fetches).length then .ok () else x) s₁ := by
  induction h generalizing n with
  | cut =>
    obtain rfl := Nat.le_zero.1 hn
    exact ⟨_, .cut⟩
  | ended hp =>
    cases n with
    | zero => exact ⟨_, .cut⟩
    | succ n => exact ⟨_, .ended hp⟩
  | @failed _ _ f _ _ _ hfetch hf =>
    cases n with
    | zero => exact ⟨_, .cut⟩
    | succ n =>
      rw [pages_of_fails hf, if_neg (by simp), List.take_of_length_le (by simp)]
      exact ⟨_, .failed hfetch hf⟩
  | @page _ _ f page _ rest x _ _ _ _ hfetch ha hst hnext hprint _ ih =>
    cases n with
    | zero => exact ⟨_, .cut⟩
    | succ n =>
      obtain ⟨s₁, hvisited⟩ := ih (Nat.le_of_succ_le_succ hn)
      rw [pages_cons (PageFetch.page?_eq_some_iff.2 ⟨ha, hst, _, hnext⟩), List.length_cons,
        List.take_succ_cons]
      simp only [Nat.add_le_add_iff_right]
      exact ⟨s₁, .page hfetch ha hst hnext hprint hvisited⟩

/-- Only the last fetch can be that of no page. -/
theorem Visited.pages_take (h : Visited step log limit p s fetches x s') (n : Nat) :
    pages (fetches.take n) = (pages fetches).take n := by
  induction h generalizing n with
  | cut => simp [pages]
  | ended => simp [pages]
  | @failed _ _ f _ _ _ _ hf =>
    cases n with
    | zero => rfl
    | succ n => rw [List.take_of_length_le (by simp), pages_of_fails hf, List.take_nil]
  | @page _ _ f page _ rest _ _ _ _ _ _ ha hst hnext _ _ ih =>
    have hpage : f.page? = some page := PageFetch.page?_eq_some_iff.2 ⟨ha, hst, _, hnext⟩
    cases n with
    | zero => rfl
    | succ n =>
      rw [List.take_succ_cons, pages_cons hpage, pages_cons hpage, List.take_succ_cons, ih]

/-- All that is written down in the course of a visit. -/
theorem Visited.log_eq (htell : Telling step log)
    (h : Visited step log limit p s fetches x s') :
    log s' = log s ++ fetches.flatMap PageFetch.shown := by
  induction h with
  | cut => simp
  | ended => simp
  | failed hfetch hf =>
    rw [hfetch.turns, List.flatMap_singleton, PageFetch.shown, PageFetch.page?_of_fails hf]
    simp
  | page hfetch ha hst hnext hprint _ ih =>
    have hpage := PageFetch.page?_eq_some_iff.2 ⟨ha, hst, _, hnext⟩
    rw [ih, htell.print _ _ _ _ hprint, hfetch.turns, List.flatMap_cons, PageFetch.shown, hpage]
    simp

theorem Visited.silent (h : Visited step log limit p s fetches x s') :
    ∀ f ∈ fetches, ∀ t ∈ f.turns, Silent t.question := by
  induction h with
  | cut => simp
  | ended => simp
  | failed hfetch => simpa using hfetch.silent
  | page hfetch _ _ _ _ _ ih => exact List.forall_mem_cons.2 ⟨hfetch.silent, ih⟩

/-- Where there is no next page, nothing is fetched. -/
theorem Visited.of_ended (h : Visited step log limit p s fetches x s') (hp : p.next? = none) :
    fetches = [] ∧ x = .ok () := by
  cases h with
  | cut => exact ⟨rfl, rfl⟩
  | ended => exact ⟨rfl, rfl⟩
  | failed hfetch => cases hp.symm.trans hfetch.next
  | page hfetch => cases hp.symm.trans hfetch.next

theorem Visited.linked (h : Visited step log limit p s fetches x s') {uri : Url}
    (hp : p.next? = some uri) : Linked uri fetches := by
  induction h generalizing uri with
  | cut => exact .nil uri
  | ended => exact .nil uri
  | @failed _ _ f _ _ _ hfetch =>
    obtain rfl : f.uri = uri := Option.some.inj (hfetch.next.symm.trans hp)
    exact .last f
  | @page _ _ f _ next _ _ _ _ _ _ hfetch ha hst hnext _ hrest ih =>
    obtain rfl : f.uri = uri := Option.some.inj (hfetch.next.symm.trans hp)
    cases next with
    | none =>
      obtain ⟨rfl, -⟩ := hrest.of_ended rfl
      exact .last f
    | some target =>
      exact .next (PageFetch.page?_eq_some_iff.2 ⟨ha, hst, _, hnext⟩) hnext (ih rfl)

/-- A visit ends well exactly if it comes to the last page, or is cut off. -/
theorem Visited.ok_iff (h : Visited step log limit p s fetches x s') (hp : p.next?.isSome) :
    x = .ok () ↔ (∃ f ∈ fetches, f.IsLast) ∨ (pages fetches).length = limit := by
  induction h with
  | cut => simp [pages]
  | ended hnone =>
    rw [hnone] at hp
    cases hp
  | @failed _ _ f _ _ _ _ hf =>
    simp [pages_of_fails hf, PageFetch.not_isLast_of_fails hf]
  | @page _ _ f page next rest _ _ _ _ _ hfetch ha hst hnext _ hrest ih =>
    have hpages := pages_cons (PageFetch.page?_eq_some_iff.2 ⟨ha, hst, _, hnext⟩) rest
    cases hnext with
    | last hl =>
      obtain ⟨-, rfl⟩ := hrest.of_ended rfl
      have hlast : f.IsLast := ⟨page, ha, hst, hl⟩
      simp [hlast]
    | next hl hj =>
      have hnot : ¬f.IsLast := by
        rintro ⟨page', ha', -, hl'⟩
        obtain rfl := Except.ok.inj (ha.symm.trans ha')
        cases hl.symm.trans hl'
      rw [ih rfl, hpages]
      simp [hnot]

end

end ConditionalGet.Command
