import ConditionalGet.Proofs.Files.Effects
import ConditionalGet.Proofs.Runs

/-!
# File operations that may fail

`Tree.faulty` is the environment of a file system on which any operation may fail at any time, and
an operation that fails may have done a part of its work: bytes of a file may be there, and
directories on the way (`Tree.Leftover`). The lemmas say what is true of the files after each
operation, whether it failed or not.
-/

set_option autoImplicit false

namespace ConditionalGet.Tree

open Program

/-- What an operation that fails may leave behind. -/
inductive Leftover (t : Tree) : Files.Operation → Tree → Prop
  | nothing {op : Files.Operation} : Leftover t op t
  | written {path text : String} {bytes : ByteArray} {t' : Tree} :
      t.writeBytes path bytes = .ok t' → Leftover t (.write path text) t'
  | made {path : String} {names rest : List String} : Path.names path = names ++ rest →
      Leftover t (.createAll path) (t.descend (Path.origin t.working path) names).1

/-- File operations any of which may fail (module doc). -/
def faulty : Answering Files.interface Tree := fun t op r t' =>
  t.perform op = (r, t') ∨ ∃ e, r = .error e ∧ Leftover t op t'

/-- File operations that fail only if the tree does not allow them. -/
def exact : Answering Files.interface Tree := answering answer

theorem runs_exact_run {α : Type} (p : FileProgram α) (t : Tree) :
    Runs exact p t (t.run p).1 (t.run p).2 := runs_answer_iff.2 rfl

theorem runs_faulty_of_exact {α : Type} {p : FileProgram α} {t t' : Tree} {a : α}
    (h : Runs exact p t a t') : Runs faulty p t a t' := h.mono fun _ _ _ _ h => .inl h

/-- A run without faults is one of those that may have some. -/
theorem runs_faulty_run {α : Type} (p : FileProgram α) (t : Tree) :
    Runs faulty p t (t.run p).1 (t.run p).2 := runs_faulty_of_exact (runs_exact_run p t)

/-- A file program that is stopped, perhaps in the middle of an operation, leaves behind what it may
leave behind when it runs to its end. -/
theorem exists_runs_of_stops {α : Type} {p : FileProgram α} {t t' : Tree}
    (h : Stops faulty Leftover p t t') : ∃ a, Runs faulty p t a t' := by
  have hfails : ∀ (t : Tree) (op : Files.Operation) (t' : Tree), Leftover t op t' →
      ∃ r, faulty t op r t' := by
    intro t op t' hl
    exact ⟨(.error .notFound : Except IoFault op.Result), .inr ⟨_, rfl, hl⟩⟩
  exact h.exists_runs (fun t op => hfails t op t .nothing) hfails

/-- The tree after the first operations of a program. -/
def runFor {α : Type} : Nat → FileProgram α → Tree → Tree
  | n + 1, .ask op next, t => runFor n (next (t.perform op).1) (t.perform op).2
  | _, _, t => t

theorem stops_runFor {α : Type} (n : Nat) (p : FileProgram α) (t : Tree) :
    Stops faulty Leftover p t (runFor n p t) := by
  induction n generalizing p t with
  | zero => exact .before p t
  | succ n ih =>
    cases p with
    | pure a => exact .before _ t
    | ask op next => exact .after (.inl rfl) (ih _ _)

variable {t t' : Tree} {path : String}

theorem settle_eq_iff {x : Except IoFault Tree} {r : Except IoFault Unit} :
    t.settle x = (r, t') ↔
      (x = .ok t' ∧ r = .ok ()) ∨ ∃ e, x = .error e ∧ r = .error e ∧ t' = t := by
  cases x with
  | ok u =>
    simp only [settle, Prod.mk.injEq, Except.ok.injEq]
    constructor
    · rintro ⟨rfl, rfl⟩
      exact .inl ⟨rfl, rfl⟩
    · rintro (⟨rfl, rfl⟩ | ⟨e, he, -⟩)
      · exact ⟨rfl, rfl⟩
      · cases he
  | error e =>
    simp only [settle, Prod.mk.injEq, Except.error.injEq]
    constructor
    · rintro ⟨rfl, rfl⟩
      exact .inr ⟨e, rfl, rfl, rfl⟩
    · rintro (⟨he, -⟩ | ⟨e', rfl, rfl, rfl⟩)
      · cases he
      · exact ⟨rfl, rfl⟩

/-! ## Operation by operation -/

/-- An operation that succeeds is none of those that fail. -/
theorem of_ok {ε α : Type} {a : α} {p q : Prop}
    (h : p ∨ (∃ e : ε, Except.ok a = Except.error e) ∧ q) : p := by
  obtain hp | ⟨⟨e, he⟩, -⟩ := h
  · exact hp
  · cases he

theorem faulty_read {r : Except IoFault String} (h : faulty t (.read path) r t') :
    t' = t ∧ ∀ text, r = .ok text → ∃ bytes,
      t.file? (Path.place t.working path) = some bytes ∧ Text.decode? bytes = some text := by
  rcases h with h | ⟨e, rfl, hl⟩
  · cases h
    exact ⟨rfl, fun text hr => file_of_read hr⟩
  · cases hl
    exact ⟨rfl, fun text hr => by cases hr⟩

/-- Writing puts bytes there, those of the text unless it fails, or does nothing. -/
theorem faulty_write_cases {text : String} {r : Except IoFault Unit}
    (h : faulty t (.write path text) r t') :
    (∃ bytes, t.writeBytes path bytes = .ok t' ∧ (r = .ok () → bytes = Text.encode text)) ∨
      ((∃ e, r = .error e) ∧ t' = t) := by
  rcases h with h | ⟨e, rfl, hl⟩
  · obtain ⟨hw, -⟩ | ⟨e, -, rfl, rfl⟩ := settle_eq_iff.1 h
    · exact .inl ⟨_, hw, fun _ => rfl⟩
    · exact .inr ⟨⟨e, rfl⟩, rfl⟩
  · cases hl with
    | nothing => exact .inr ⟨⟨e, rfl⟩, rfl⟩
    | written hw => exact .inl ⟨_, hw, fun hr => (nomatch hr)⟩

/-- Renaming is done or not. -/
theorem faulty_rename_cases {source target : String} {r : Except IoFault Unit}
    (h : faulty t (.rename source target) r t') :
    (t.rename source target = .ok t' ∧ r = .ok ()) ∨ ((∃ e, r = .error e) ∧ t' = t) := by
  rcases h with h | ⟨e, rfl, hl⟩
  · exact (settle_eq_iff.1 h).imp_right fun ⟨e, _, hr, ht⟩ => ⟨⟨e, hr⟩, ht⟩
  · cases hl
    exact .inr ⟨⟨e, rfl⟩, rfl⟩

/-- Removing is done or not. -/
theorem faulty_remove_cases {r : Except IoFault Unit} (h : faulty t (.remove path) r t') :
    (t.remove path = .ok t' ∧ r = .ok ()) ∨ ((∃ e, r = .error e) ∧ t' = t) := by
  rcases h with h | ⟨e, rfl, hl⟩
  · exact (settle_eq_iff.1 h).imp_right fun ⟨e, _, hr, ht⟩ => ⟨⟨e, hr⟩, ht⟩
  · cases hl
    exact .inr ⟨⟨e, rfl⟩, rfl⟩

theorem faulty_remove {r : Except IoFault Unit} (h : faulty t (.remove path) r t') :
    t'.working = t.working ∧ ∀ q, t'.file? q = t.file? q ∨ t'.file? q = none := by
  obtain ⟨hr, -⟩ | ⟨-, rfl⟩ := faulty_remove_cases h
  · obtain ⟨hworking, -, hn⟩ := node?_of_remove hr
    refine ⟨hworking, fun q => ?_⟩
    by_cases hq : q = Path.place t.working path
    · exact .inr (by rw [file?, hn q, if_pos hq])
    · exact .inl (file?_congr ((hn q).trans (if_neg hq)))
  · exact ⟨rfl, fun _ => .inl rfl⟩

/-- Directories that are added leave the files alone. -/
theorem file?_of_added {q : List String}
    (h : t'.node? q = t.node? q ∨ (t.node? q = none ∧ t'.node? q = some .directory)) :
    t'.file? q = t.file? q := by
  rcases h with h | ⟨h, h'⟩
  · exact file?_congr h
  · rw [file?, file?, h, h']

theorem faulty_createAll {r : Except IoFault Unit} (h : faulty t (.createAll path) r t') :
    t'.working = t.working ∧ ∀ q, t'.file? q = t.file? q := by
  rcases h with h | ⟨e, rfl, hl⟩
  · obtain ⟨hworking, hn⟩ := node?_createAll t path
    cases h
    exact ⟨hworking, fun q => file?_of_added (hn q)⟩
  · cases hl with
    | nothing => exact ⟨rfl, fun _ => rfl⟩
    | @made _ names _ _ =>
      obtain ⟨hworking, hn⟩ := node?_descend t (Path.origin t.working path) names
      exact ⟨hworking, fun q => file?_of_added (hn q)⟩

end ConditionalGet.Tree
