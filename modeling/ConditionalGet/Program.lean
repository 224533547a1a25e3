/-!
# Programs over an interface

A program asks questions one after another and ends with a value; what answers them is left open.
The same program can be run on a model, on the real system, or be stopped in between, and
`run_bind` says that running a sequence is running its parts in sequence.
-/

set_option autoImplicit false

namespace ConditionalGet

/-- The questions a program may ask, and the kind of answer to each. -/
structure Interface where
  Question : Type
  Answer : Question → Type

/-- A program: a value, or a question and what is done with its answer. -/
inductive Program (I : Interface) (α : Type) : Type where
  | pure (a : α)
  | ask (q : I.Question) (next : I.Answer q → Program I α)

namespace Program

variable {I : Interface} {α β γ : Type}

/-- One program after another. -/
def bind : Program I α → (α → Program I β) → Program I β
  | .pure a, f => f a
  | .ask q next, f => .ask q fun r => (next r).bind f

instance : Monad (Program I) where
  pure := .pure
  bind := bind

def question (q : I.Question) : Program I (I.Answer q) := .ask q .pure

@[simp] theorem pure_bind' (a : α) (f : α → Program I β) : (Program.pure a >>= f) = f a := rfl

@[simp] theorem ask_bind (q : I.Question) (next : I.Answer q → Program I α) (f : α → Program I β) :
    (Program.ask q next >>= f) = .ask q fun r => next r >>= f := rfl

theorem bind_pure' (p : Program I α) : (p >>= Program.pure) = p := by
  induction p with
  | pure a => rfl
  | ask q next ih => simp [ih]

theorem bind_assoc' (p : Program I α) (f : α → Program I β) (g : β → Program I γ) :
    (p >>= f >>= g) = p >>= fun a => f a >>= g := by
  induction p with
  | pure a => rfl
  | ask q next ih => simp [ih]

instance : LawfulMonad (Program I) :=
  LawfulMonad.mk' (Program I) bind_pure' (fun _ _ => rfl) bind_assoc'

variable {m : Type → Type} [Monad m]

/-- Runs a program, each question answered by `answer`. -/
def run (answer : (q : I.Question) → m (I.Answer q)) : Program I α → m α
  | .pure a => Pure.pure a
  | .ask q next => do (next (← answer q)).run answer

@[simp] theorem run_pure (answer : (q : I.Question) → m (I.Answer q)) (a : α) :
    (Pure.pure a : Program I α).run answer = Pure.pure a := rfl

theorem run_bind [LawfulMonad m] (answer : (q : I.Question) → m (I.Answer q)) (p : Program I α)
    (f : α → Program I β) : (p >>= f).run answer = p.run answer >>= fun a => (f a).run answer := by
  induction p with
  | pure a => simp [run]
  | ask q next ih => simp [run, ih]

@[simp] theorem run_question [LawfulMonad m] (answer : (q : I.Question) → m (I.Answer q))
    (q : I.Question) : (question q : Program I _).run answer = answer q := by
  simp [question, run]

end Program

end ConditionalGet
