import ConditionalGet.Program

/-!
# Runs of a program against an environment

`Program.Runs step p s a s'`: starting from the state `s`, an environment that answers by `step` can
answer the questions of `p` so that `p` ends with `a` and the environment in `s'`. An environment
may have several answers to a question, so faults, other parties and the passing of time are
states and steps of it. `runs_bind_iff` takes a run apart along the program, `AsksOnly.invariant`
carries over what the answers to the program's own questions keep, and `runs_answer_iff` says that
for an environment with one answer to each question a run is `Program.run`. `Left` is a program
between two of its questions. An environment may itself answer by programs (`via`, `viaState`), in
one further out.
-/

set_option autoImplicit false

namespace ConditionalGet.Program

variable {I : Interface} {α β ε ε' σ : Type}

/-- How an environment may answer in a state, and the state it is in after that. -/
abbrev Answering (I : Interface) (σ : Type) : Type :=
  σ → (q : I.Question) → I.Answer q → σ → Prop

/-- The runs of a program (module doc). -/
inductive Runs (step : Answering I σ) : Program I α → σ → α → σ → Prop
  | pure (a : α) (s : σ) : Runs step (.pure a) s a s
  | ask {q : I.Question} {next : I.Answer q → Program I α} {r : I.Answer q} {s s₁ s' : σ} {a : α} :
      step s q r s₁ → Runs step (next r) s₁ a s' → Runs step (.ask q next) s a s'

variable {step : Answering I σ} {s s' : σ}

/-! ## Along the program -/

@[simp] theorem runs_pure_iff {a b : α} : Runs step (.pure a) s b s' ↔ b = a ∧ s' = s := by
  constructor
  · intro h
    cases h
    exact ⟨rfl, rfl⟩
  · rintro ⟨rfl, rfl⟩
    exact .pure _ _

@[simp] theorem runs_pure_iff' {a b : α} :
    Runs step (Pure.pure a : Program I α) s b s' ↔ b = a ∧ s' = s := runs_pure_iff

theorem runs_ask_iff {q : I.Question} {next : I.Answer q → Program I α} {a : α} :
    Runs step (.ask q next) s a s' ↔ ∃ r s₁, step s q r s₁ ∧ Runs step (next r) s₁ a s' := by
  constructor
  · intro h
    cases h with
    | ask hs h => exact ⟨_, _, hs, h⟩
  · rintro ⟨r, s₁, hs, h⟩
    exact .ask hs h

theorem runs_ask_pure_iff {q : I.Question} {r : I.Answer q} :
    Runs step (.ask q .pure) s r s' ↔ step s q r s' := by
  rw [runs_ask_iff]
  constructor
  · rintro ⟨r', s₁, hs, h⟩
    obtain ⟨rfl, rfl⟩ := runs_pure_iff.1 h
    exact hs
  · exact fun hs => ⟨r, s', hs, .pure _ _⟩

theorem runs_bind_iff {p : Program I α} {f : α → Program I β} {b : β} :
    Runs step (p >>= f) s b s' ↔ ∃ a s₁, Runs step p s a s₁ ∧ Runs step (f a) s₁ b s' := by
  induction p generalizing s with
  | pure a =>
    simp only [pure_bind', runs_pure_iff]
    constructor
    · exact fun h => ⟨a, s, ⟨rfl, rfl⟩, h⟩
    · rintro ⟨_, _, ⟨rfl, rfl⟩, h⟩
      exact h
  | ask q next ih =>
    simp only [ask_bind, runs_ask_iff, ih]
    constructor
    · rintro ⟨r, s₁, hs, a, s₂, hp, hf⟩
      exact ⟨a, s₂, ⟨r, s₁, hs, hp⟩, hf⟩
    · rintro ⟨a, s₂, ⟨r, s₁, hs, hp⟩, hf⟩
      exact ⟨r, s₁, hs, a, s₂, hp, hf⟩

theorem runs_map_iff {p : Program I α} {f : α → β} {b : β} :
    Runs step (f <$> p) s b s' ↔ ∃ a, Runs step p s a s' ∧ b = f a := by
  rw [← LawfulMonad.bind_pure_comp, runs_bind_iff]
  constructor
  · rintro ⟨a, s₁, hp, h⟩
    obtain ⟨rfl, rfl⟩ := runs_pure_iff'.1 h
    exact ⟨a, hp, rfl⟩
  · rintro ⟨a, hp, rfl⟩
    exact ⟨a, s', hp, .pure _ _⟩

/-! ## Programs that may fail -/

theorem runs_except_pure_iff {a : α} {x : Except ε α} :
    Runs step (Pure.pure a : ExceptT ε (Program I) α).run s x s' ↔ x = .ok a ∧ s' = s :=
  runs_pure_iff

theorem runs_except_throw_iff {e : ε} {x : Except ε α} :
    Runs step (throw e : ExceptT ε (Program I) α).run s x s' ↔ x = .error e ∧ s' = s :=
  runs_pure_iff

/-- A sequence fails where its first part fails, and otherwise goes on with the second. -/
theorem runs_except_bind_iff {p : ExceptT ε (Program I) α} {f : α → ExceptT ε (Program I) β}
    {x : Except ε β} :
    Runs step (p >>= f).run s x s' ↔
      (∃ e, Runs step p.run s (.error e) s' ∧ x = .error e) ∨
        ∃ a s₁, Runs step p.run s (.ok a) s₁ ∧ Runs step (f a).run s₁ x s' := by
  rw [ExceptT.run_bind, runs_bind_iff]
  constructor
  · rintro ⟨_ | a, s₁, hp, h⟩
    · obtain ⟨rfl, rfl⟩ := runs_pure_iff'.1 h
      exact .inl ⟨_, hp, rfl⟩
    · exact .inr ⟨a, s₁, hp, h⟩
  · rintro (⟨e, hp, rfl⟩ | ⟨a, s₁, hp, h⟩)
    · exact ⟨.error e, s', hp, .pure _ _⟩
    · exact ⟨.ok a, s₁, hp, h⟩

/-- A program that yields a result or an error, the error reworded. -/
theorem runs_except_mapError_iff {p : Program I (Except ε α)} {f : ε → ε'} {x : Except ε' α} :
    Runs step (ExceptT.mk (Except.mapError f <$> p) : ExceptT ε' (Program I) α).run s x s' ↔
      (∃ e, Runs step p s (.error e) s' ∧ x = .error (f e)) ∨
        ∃ a, Runs step p s (.ok a) s' ∧ x = .ok a := by
  rw [show (ExceptT.mk (Except.mapError f <$> p) : ExceptT ε' (Program I) α).run =
    Except.mapError f <$> p from rfl, runs_map_iff]
  constructor
  · rintro ⟨e | a, hp, rfl⟩
    · exact .inl ⟨e, hp, rfl⟩
    · exact .inr ⟨a, hp, rfl⟩
  · rintro (⟨e, hp, rfl⟩ | ⟨a, hp, rfl⟩)
    · exact ⟨_, hp, rfl⟩
    · exact ⟨_, hp, rfl⟩

theorem runs_except_lift_iff {p : Program I α} {x : Except ε α} :
    Runs step (ExceptT.lift p : ExceptT ε (Program I) α).run s x s' ↔
      ∃ a, Runs step p s a s' ∧ x = .ok a := by
  rw [show (ExceptT.lift p : ExceptT ε (Program I) α).run = Except.ok <$> p from rfl, runs_map_iff]

/-! ## Along the environment -/

/-- Runs in an environment that may answer less are runs in one that may answer more. -/
theorem Runs.mono {step' : Answering I σ} (hle : ∀ s q r s', step s q r s' → step' s q r s')
    {p : Program I α} {a : α} (h : Runs step p s a s') : Runs step' p s a s' := by
  induction h with
  | pure => exact .pure _ _
  | ask hq _ ih => exact .ask (hle _ _ _ _ hq) ih

/-! ## Programs that ask only certain questions -/

/-- Whatever is answered, the program asks only questions with a property. -/
def AsksOnly (P : I.Question → Prop) : Program I α → Prop
  | .pure _ => True
  | .ask q next => P q ∧ ∀ r, (next r).AsksOnly P

section
variable {P : I.Question → Prop} {p : Program I α}

theorem asksOnly_ask_pure {q : I.Question} (hq : P q) : AsksOnly P (.ask q .pure) :=
  ⟨hq, fun _ => trivial⟩

theorem AsksOnly.bind (h : p.AsksOnly P) {f : α → Program I β} (hf : ∀ a, (f a).AsksOnly P) :
    (p >>= f).AsksOnly P := by
  induction p with
  | pure a => exact hf a
  | ask q next ih => exact ⟨h.1, fun r => ih r (h.2 r)⟩

/-- What a sequence asks, its first part asks. -/
theorem AsksOnly.of_bind {f : α → Program I β} (h : (p >>= f).AsksOnly P) : p.AsksOnly P := by
  induction p with
  | pure a => trivial
  | ask q next ih => exact ⟨h.1, fun r => ih r (h.2 r)⟩

theorem AsksOnly.mono {Q : I.Question → Prop} (h : p.AsksOnly P) (hle : ∀ q, P q → Q q) :
    p.AsksOnly Q := by
  induction p with
  | pure a => trivial
  | ask q next ih => exact ⟨hle q h.1, fun r => ih r (h.2 r)⟩

theorem AsksOnly.map (h : p.AsksOnly P) (f : α → β) : (f <$> p).AsksOnly P :=
  h.bind fun _ => trivial

theorem AsksOnly.except_bind {p : ExceptT ε (Program I) α} (h : p.run.AsksOnly P)
    {f : α → ExceptT ε (Program I) β} (hf : ∀ a, (f a).run.AsksOnly P) :
    (p >>= f).run.AsksOnly P := by
  refine h.bind fun x => ?_
  cases x with
  | error e => trivial
  | ok a => exact hf a

/-- There are answers with which the program ends with this. -/
def Yields (p : Program I α) (a : α) : Prop := Runs (fun _ _ _ _ => True) p () a ()

/-- As `AsksOnly.bind`, with what the first part can end with. -/
theorem AsksOnly.bind_yields (h : p.AsksOnly P) {f : α → Program I β}
    (hf : ∀ a, p.Yields a → (f a).AsksOnly P) : (p >>= f).AsksOnly P := by
  induction p with
  | pure a => exact hf a (.pure a ())
  | ask q next ih => exact ⟨h.1, fun r => ih r (h.2 r) fun a ha => hf a (.ask trivial ha)⟩

/-- What the answers to these questions keep, a run keeps. -/
theorem AsksOnly.invariant {R : σ → Prop}
    (hR : ∀ s q r s', P q → R s → step s q r s' → R s') (hp : p.AsksOnly P) {a : α}
    (h : Runs step p s a s') (hs : R s) : R s' := by
  induction h with
  | pure => exact hs
  | ask hq _ ih => exact ih (hp.2 _) (hR _ _ _ _ hp.1 hs hq)

end

/-! ## Programs on their way -/

/-- A question and what was answered to it. -/
structure Turn (I : Interface) where
  question : I.Question
  answer : I.Answer question

/-- The environment that answers anything and keeps what was asked and answered, the latest last. -/
def recording (I : Interface) : Answering I (List (Turn I)) :=
  fun turns q r turns' => turns' = turns ++ [⟨q, r⟩]

/-- An environment with what it is asked and answers written down, the latest last. -/
def logged (step : Answering I σ) : Answering I (σ × List (Turn I)) :=
  fun s q r s' => step s.1 q r s'.1 ∧ s'.2 = s.2 ++ [⟨q, r⟩]

/-- Of a program that asks only certain questions, only those are written down. -/
theorem AsksOnly.turns {P : I.Question → Prop} {p : Program I α} (hp : p.AsksOnly P) {a : α}
    {s s' : σ × List (Turn I)} (h : Runs (logged step) p s a s') :
    ∃ turns, s'.2 = s.2 ++ turns ∧ ∀ t ∈ turns, P t.question := by
  refine hp.invariant (R := fun w => ∃ turns, w.2 = s.2 ++ turns ∧ ∀ t ∈ turns, P t.question)
    ?_ h ⟨[], by simp, by simp⟩
  rintro w q r w' hq ⟨turns, hw, hturns⟩ ⟨-, hw'⟩
  refine ⟨turns ++ [⟨q, r⟩], by rw [hw', hw, List.append_assoc], fun t ht => ?_⟩
  rcases List.mem_append.1 ht with ht | ht
  · exact hturns t ht
  · rw [List.mem_singleton.1 ht]
    exact hq

/-- What is written down of a run is a run by itself. -/
theorem Runs.recording {p : Program I α} {a : α} {s s' : σ × List (Turn I)}
    (h : Runs (logged step) p s a s') :
    ∃ turns, s'.2 = s.2 ++ turns ∧ Runs (recording I) p [] a turns := by
  suffices hfrom : ∀ before turns, s.2 = before ++ turns →
      ∃ turns', s'.2 = before ++ turns' ∧ Runs (Program.recording I) p turns a turns' from
    hfrom s.2 [] (List.append_nil _).symm
  induction h with
  | pure a s => exact fun before turns hs => ⟨turns, hs, .pure a turns⟩
  | ask hq _ ih =>
    intro before turns hs
    obtain ⟨turns', hs', hrun⟩ := ih before _ (by rw [hq.2, hs, List.append_assoc])
    exact ⟨turns', hs', .ask rfl hrun⟩

/-- What is left of a program after a number of turns. -/
inductive Left (p : Program I α) : List (Turn I) → Program I α → Prop
  | here : Left p [] p
  | turn {turns : List (Turn I)} {q : I.Question} {next : I.Answer q → Program I α}
      (r : I.Answer q) : Left p turns (.ask q next) → Left p (turns ++ [⟨q, r⟩]) (next r)

/-- A run of what is left is a run of the whole. -/
theorem Left.runs {p rest : Program I α} {turns turns' : List (Turn I)} {a : α}
    (h : Left p turns rest) (hrest : Runs (recording I) rest turns a turns') :
    Runs (recording I) p [] a turns' := by
  induction h with
  | here => exact hrest
  | turn r _ ih => exact ih (.ask rfl hrest)

theorem exists_runs_recording (hanswer : ∀ q, Nonempty (I.Answer q)) (p : Program I α)
    (turns : List (Turn I)) : ∃ a more, Runs (recording I) p turns a (turns ++ more) := by
  induction p generalizing turns with
  | pure a =>
    refine ⟨a, [], ?_⟩
    rw [List.append_nil]
    exact .pure a turns
  | ask q next ih =>
    obtain ⟨r⟩ := hanswer q
    obtain ⟨a, more, hrun⟩ := ih r (turns ++ [⟨q, r⟩])
    rw [List.append_assoc] at hrun
    exact ⟨a, _, .ask rfl hrun⟩

/-- Where any question can be answered, a program that is on its way can end. -/
theorem Left.exists_runs (hanswer : ∀ q, Nonempty (I.Answer q)) {p rest : Program I α}
    {turns : List (Turn I)} (h : Left p turns rest) :
    ∃ a more, Runs (recording I) p [] a (turns ++ more) := by
  obtain ⟨a, more, hrun⟩ := exists_runs_recording hanswer rest turns
  exact ⟨a, more, h.runs hrun⟩

/-! ## Programs that are stopped -/

/-- What a program leaves behind that is stopped before a question, or at one: `cut` says what that
may be where a question is not answered any more. -/
inductive Stops (step : Answering I σ) (cut : σ → I.Question → σ → Prop) :
    Program I α → σ → σ → Prop
  | before (p : Program I α) (s : σ) : Stops step cut p s s
  | within {q : I.Question} {next : I.Answer q → Program I α} {s s' : σ} :
      cut s q s' → Stops step cut (.ask q next) s s'
  | after {q : I.Question} {next : I.Answer q → Program I α} {r : I.Answer q} {s s₁ s' : σ} :
      step s q r s₁ → Stops step cut (next r) s₁ s' → Stops step cut (.ask q next) s s'

/-- An environment that can answer every question by doing nothing can do nothing. -/
theorem exists_runs_of_idle (hidle : ∀ s q, ∃ r, step s q r s) (p : Program I α) (s : σ) :
    ∃ a, Runs step p s a s := by
  induction p with
  | pure a => exact ⟨a, .pure a s⟩
  | ask q next ih =>
    obtain ⟨r, hr⟩ := hidle s q
    obtain ⟨a, ha⟩ := ih r
    exact ⟨a, .ask hr ha⟩

/-- Where a question may fail as it may be cut off, a program that is stopped leaves behind nothing
that it does not leave behind when everything fails from there on. -/
theorem Stops.exists_runs {cut : σ → I.Question → σ → Prop}
    (hidle : ∀ s q, ∃ r, step s q r s) (hcut : ∀ s q s', cut s q s' → ∃ r, step s q r s')
    {p : Program I α} (h : Stops step cut p s s') : ∃ a, Runs step p s a s' := by
  induction h with
  | before p s => exact exists_runs_of_idle hidle p s
  | within hq =>
    obtain ⟨r, hr⟩ := hcut _ _ _ hq
    obtain ⟨a, ha⟩ := exists_runs_of_idle hidle _ _
    exact ⟨a, .ask hr ha⟩
  | after hr _ ih =>
    obtain ⟨a, ha⟩ := ih
    exact ⟨a, .ask hr ha⟩

/-! ## Environments that are actions -/

/-- The environment that answers by actions on a state. -/
def answering (answer : (q : I.Question) → StateM σ (I.Answer q)) : Answering I σ :=
  fun s q r s' => (answer q).run s = (r, s')

theorem runs_answer_iff {answer : (q : I.Question) → StateM σ (I.Answer q)} {p : Program I α}
    {a : α} : Runs (answering answer) p s a s' ↔ (p.run answer).run s = (a, s') := by
  induction p generalizing s with
  | pure b =>
    show Runs _ (.pure b) s a s' ↔ (b, s) = (a, s')
    rw [runs_pure_iff, Prod.mk.injEq, eq_comm, @eq_comm _ s]
  | ask q next ih =>
    show Runs _ _ _ _ _ ↔
      ((next ((answer q).run s).1).run answer).run ((answer q).run s).2 = (a, s')
    simp only [runs_ask_iff, ih, answering]
    constructor
    · rintro ⟨r, s₁, hq, h⟩
      rw [hq]
      exact h
    · exact fun h => ⟨_, _, rfl, h⟩

/-- Actions with what they are asked and answer written down, the latest last. -/
def noting (answer : (q : I.Question) → StateM σ (I.Answer q)) (q : I.Question) :
    StateM (σ × List (Turn I)) (I.Answer q) := fun s =>
  (((answer q).run s.1).1, ((answer q).run s.1).2, s.2 ++ [⟨q, ((answer q).run s.1).1⟩])

theorem answering_noting (answer : (q : I.Question) → StateM σ (I.Answer q)) :
    answering (noting answer) = logged (answering answer) := by
  funext s q r s'
  obtain ⟨s', turns'⟩ := s'
  refine propext ?_
  show (((answer q).run s.1).1, ((answer q).run s.1).2, s.2 ++ [⟨q, ((answer q).run s.1).1⟩]) =
    (r, s', turns') ↔ ((answer q).run s.1) = (r, s') ∧ turns' = s.2 ++ [⟨q, r⟩]
  constructor
  · rintro ⟨⟩
    exact ⟨rfl, rfl⟩
  · rintro ⟨h, rfl⟩
    rw [h]

/-- What is written down in the run of a program against actions. -/
theorem runs_noting_iff {answer : (q : I.Question) → StateM σ (I.Answer q)} {p : Program I α}
    {a : α} {s s' : σ × List (Turn I)} :
    Runs (logged (answering answer)) p s a s' ↔ (p.run (noting answer)).run s = (a, s') := by
  rw [← answering_noting, runs_answer_iff]

/-- The environment that answers by actions on a state in front of another. -/
def answeringState {τ : Type} (answer : (q : I.Question) → StateT τ (StateM σ) (I.Answer q)) :
    Answering I (τ × σ) :=
  fun s q r s' => ((answer q).run s.1).run s.2 = ((r, s'.1), s'.2)

theorem runs_answerState_iff {τ : Type}
    {answer : (q : I.Question) → StateT τ (StateM σ) (I.Answer q)} {p : Program I α} {a : α}
    {t t' : τ} : Runs (answeringState answer) p (t, s) a (t', s') ↔
      ((p.run answer).run t).run s = ((a, t'), s') := by
  induction p generalizing t s with
  | pure b =>
    show Runs _ (.pure b) (t, s) a (t', s') ↔ ((b, t), s) = ((a, t'), s')
    rw [runs_pure_iff, Prod.mk.injEq, Prod.mk.injEq, Prod.mk.injEq, eq_comm, @eq_comm _ t',
      @eq_comm _ s', and_assoc]
  | ask q next ih =>
    show Runs _ _ _ _ _ ↔
      (((next (((answer q).run t).run s).1.1).run answer).run (((answer q).run t).run s).1.2).run
        (((answer q).run t).run s).2 = ((a, t'), s')
    rw [← ih, runs_ask_iff]
    constructor
    · rintro ⟨r, ⟨t₁, s₁⟩, hq, h⟩
      rw [answeringState] at hq
      rw [hq]
      exact h
    · exact fun h => ⟨_, (_, _), rfl, h⟩

/-! ## Environments that are programs -/

section
variable {J : Interface} {τ : Type}

/-- The environment that answers by programs, in an environment of their own. -/
def via (step : Answering J σ) (answer : (q : I.Question) → Program J (I.Answer q)) :
    Answering I σ := fun s q r s' => Runs step (answer q) s r s'

theorem runs_run_iff {step : Answering J σ} {answer : (q : I.Question) → Program J (I.Answer q)}
    {p : Program I α} {a : α} :
    Runs step (p.run answer) s a s' ↔ Runs (via step answer) p s a s' := by
  induction p generalizing s with
  | pure b => rw [run, runs_pure_iff', runs_pure_iff]
  | ask q next ih =>
    rw [run, runs_bind_iff, runs_ask_iff]
    simp only [ih, via]

/-- What the answers are programs for is all that is asked further out. -/
theorem asksOnly_run {P : J.Question → Prop}
    {answer : (q : I.Question) → Program J (I.Answer q)} (h : ∀ q, (answer q).AsksOnly P)
    (p : Program I α) : (p.run answer).AsksOnly P := by
  induction p with
  | pure a => trivial
  | ask q next ih => exact (h q).bind fun r => ih r

theorem asksOnly_runState {P : J.Question → Prop}
    {answer : (q : I.Question) → StateT τ (Program J) (I.Answer q)}
    (h : ∀ q t, ((answer q).run t).AsksOnly P) (p : Program I α) (t : τ) :
    ((p.run answer).run t).AsksOnly P := by
  induction p generalizing t with
  | pure a => trivial
  | ask q next ih => exact (h q t).bind fun y => ih y.1 y.2

/-- What is lifted into a state leaves the state alone. -/
theorem runs_lift_iff {step : Answering J σ} {p : Program J α} {a : α} {t t' : τ} :
    Runs step ((StateT.lift p : StateT τ (Program J) α).run t) s (a, t') s' ↔
      Runs step p s a s' ∧ t' = t := by
  rw [StateT.run_lift, runs_bind_iff]
  constructor
  · rintro ⟨a', s₁, hp, h⟩
    obtain ⟨he, rfl⟩ := runs_pure_iff'.1 h
    obtain ⟨rfl, rfl⟩ := Prod.mk.inj he
    exact ⟨hp, rfl⟩
  · rintro ⟨hp, rfl⟩
    exact ⟨a, s', hp, runs_pure_iff'.2 ⟨rfl, rfl⟩⟩

/-- The environment that answers by programs with a state of their own. -/
def viaState (step : Answering J σ)
    (answer : (q : I.Question) → StateT τ (Program J) (I.Answer q)) : Answering I (τ × σ) :=
  fun s q r s' => Runs step ((answer q).run s.1) s.2 (r, s'.1) s'.2

theorem runs_runState_iff {step : Answering J σ}
    {answer : (q : I.Question) → StateT τ (Program J) (I.Answer q)} {p : Program I α} {a : α}
    {t t' : τ} : Runs step ((p.run answer).run t) s (a, t') s' ↔
      Runs (viaState step answer) p (t, s) a (t', s') := by
  induction p generalizing s t with
  | pure b =>
    rw [run, StateT.run_pure, runs_pure_iff', runs_pure_iff, Prod.mk.injEq, Prod.mk.injEq,
      and_assoc]
  | ask q next ih =>
    rw [run, StateT.run_bind, runs_bind_iff, runs_ask_iff]
    constructor
    · rintro ⟨⟨r, t₁⟩, s₁, hq, h⟩
      exact ⟨r, (t₁, s₁), hq, (ih r).1 h⟩
    · rintro ⟨r, ⟨t₁, s₁⟩, hq, h⟩
      exact ⟨(r, t₁), s₁, hq, (ih r).2 h⟩

end

end ConditionalGet.Program
