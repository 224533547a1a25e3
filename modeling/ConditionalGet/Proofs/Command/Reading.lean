import ConditionalGet.Proofs.Checked
import ConditionalGet.Proofs.Command.Tokens
import Mathlib.Tactic.SplitIfs

/-!
# What the reading of a command line keeps

What holds of all that has been read of a command line goes by the states of the reader, one part of
the reading after another (`Keeps`). If it is only about values of options, there is nothing to do
but to look at how a value is taken (`Steady`, `Steady.readAll`). So a number of pages on a command
line is one that the reader can count to (`count_le`, `Arguments.maxPages_le`).
-/

set_option autoImplicit false

namespace ConditionalGet

open Checked Text

/-- An argument that gives an option by its long name, with or without a value. -/
def Names (argument name : String) : Prop :=
  argument = "--" ++ name ∨ ∃ value, argument = "--" ++ name ++ "=" ++ value

namespace ArgumentReader

/-! ## Parts of the reading -/

/-- A part of the reading that keeps what holds of all that has been read. -/
def Keeps (P : State → Prop) (f : State → Except ArgumentError State) : Prop :=
  ∀ s s', P s → f s = .ok s' → P s'

section
variable {P : State → Prop} {f g : State → Except ArgumentError State}

theorem Keeps.bind (hf : Keeps P f) (hg : Keeps P g) : Keeps P fun s => f s >>= g := by
  intro s s' hs h
  obtain ⟨s₁, hfs, hgs⟩ := bind_eq_ok_iff.1 h
  exact hg s₁ s' (hf s s₁ hs hfs) hgs

theorem Keeps.ite {flag : State → Bool} (hf : Keeps P f) (hg : Keeps P g) :
    Keeps P fun s => if flag s then f s else g s := by
  intro s s' hs h
  dsimp only at h
  split at h
  · exact hf s s' hs h
  · exact hg s s' hs h

theorem keeps_error (e : ArgumentError) : Keeps P fun _ => .error e := fun _ _ _ h => nomatch h

theorem keeps_ok {update : State → State} (h : ∀ s, P s → P (update s)) :
    Keeps P fun s => .ok (update s) := by
  rintro s s' hs ⟨⟩
  exact h s hs

end

/-! ## Values -/

/-- A value that is pending, or to come, is that of such an option. -/
def State.Awaits (allowed : CommandOption → Prop) (s : State) : Prop :=
  ∀ option text, s.pending = .value option text → allowed option

/-- What is only about the values that have been read, and is kept where the value of such an option
is taken. -/
structure Steady (P : State → Prop) (allowed : CommandOption → Prop) : Prop where
  awaits : ∀ s, P s → s.Awaits allowed
  frame : ∀ s s', P s → s'.maxPages = s.maxPages → s'.token = s.token → s'.Awaits allowed → P s'
  value : ∀ option, allowed option → ∀ text, Keeps P fun s => takeValue s option text

namespace Steady

section
variable {P : State → Prop} {allowed : CommandOption → Prop} (hP : Steady P allowed)
include hP

theorem takeFlag (option : CommandOption) : Keeps P fun s => takeFlag s option := by
  cases option with
  | allPages =>
    exact .ite (keeps_error _) (keeps_ok fun s hs => hP.frame s _ hs rfl rfl (hP.awaits s hs))
  | noCache =>
    exact .ite (keeps_error _) (keeps_ok fun s hs => hP.frame s _ hs rfl rfl (hP.awaits s hs))
  | help => exact keeps_error _
  | version => exact keeps_error _
  | _ => exact keeps_ok fun _ hs => hs

theorem settle : Keeps P settle := by
  intro s s' hs h
  have hnothing : ∀ s' : State, s'.pending = .nothing → s'.Awaits allowed := by
    intro s' hp option text he
    cases hp.symm.trans he
  unfold ArgumentReader.settle at h
  dsimp only at h
  split at h
  · cases h
    exact hs
  · split at h
    · cases h
      exact hP.frame s _ hs rfl rfl (hnothing _ rfl)
    · cases h
  · cases h
  · rename_i option text hpending
    exact hP.value option (hP.awaits s hs option _ hpending) text { s with pending := .nothing } s'
      (hP.frame s _ hs rfl rfl (hnothing _ rfl)) h

theorem takeLong {name : String}
    (hname : ∀ option, CommandOption.named? name = some option → allowed option)
    (value : Option String) : Keeps P fun s => takeLong s name value := by
  unfold ArgumentReader.takeLong
  cases hnamed : CommandOption.named? name with
  | none => exact keeps_error _
  | some option =>
    dsimp only
    cases option.takesValue <;> cases value
    · exact hP.settle.bind (hP.takeFlag option)
    · exact keeps_error _
    · refine hP.settle.bind (keeps_ok fun s hs => hP.frame s _ hs rfl rfl ?_)
      rintro _ text ⟨⟩
      exact hname option hnamed
    · exact hP.settle.bind (hP.value option (hname option hnamed) _)

theorem takeLetters (letters : List Char) : Keeps P fun s => takeLetters s letters := by
  induction letters with
  | nil => exact keeps_ok fun _ hs => hs
  | cons c cs ih =>
    unfold ArgumentReader.takeLetters
    cases CommandOption.ofLetter? c with
    | none => exact keeps_error _
    | some option => exact hP.settle.bind ((hP.takeFlag option).bind ih)

theorem takePlain (text : String) : Keeps P fun s => takePlain s text := by
  refine (keeps_error _).ite (hP.settle.bind (keeps_ok fun s hs => hP.frame s _ hs rfl rfl ?_))
  rintro option value ⟨⟩

/-- An argument that is no option is a value that is wanted, or it is taken by itself. -/
theorem takeValueOrPlain (argument : String) : Keeps P fun s =>
    match s.pending with
    | .value option none => .ok { s with pending := .value option (some argument) }
    | _ => ArgumentReader.takePlain s argument := by
  intro s s' hs h
  dsimp only at h
  split at h
  · rename_i option hpending
    cases h
    refine hP.frame s _ hs rfl rfl ?_
    rintro _ text ⟨⟩
    exact hP.awaits s hs option none hpending
  · exact hP.takePlain argument s s' hs h

theorem step {argument : String} (h : ∀ name option, CommandOption.named? name = some option →
    Names argument name → allowed option) : Keeps P fun s => step s argument := by
  unfold ArgumentReader.step
  refine (hP.takePlain argument).ite ?_
  split
  · exact keeps_ok fun s hs => hP.frame s _ hs rfl rfl (hP.awaits s hs)
  · rename_i rest _ hdashes
    -- with a value behind an equals sign, or without
    split
    · rename_i name value hcut
      refine hP.takeLong (fun option hnamed => h _ option hnamed (.inr ⟨String.ofList value, ?_⟩)) _
      obtain ⟨c, hc, rfl⟩ := cut?_eq_some_append hcut
      obtain rfl := of_decide_eq_true hc
      refine String.toList_inj.1 ?_
      rw [hdashes]
      simp only [String.toList_append, String.toList_ofList, List.append_assoc]
      rfl
    · refine hP.takeLong (fun option hnamed => h _ option hnamed (.inl (String.toList_inj.1 ?_))) _
      rw [hdashes, String.toList_append, @String.toList_ofList rest]
      rfl
  · exact hP.takeLetters _
  · exact hP.takeValueOrPlain argument

theorem foldlM {arguments : List String} (h : ∀ argument ∈ arguments, ∀ name option,
    CommandOption.named? name = some option → Names argument name → allowed option) :
    Keeps P fun s => arguments.foldlM ArgumentReader.step s := fun _ _ hs =>
  foldlM_kept (fun s argument hargument s' => hP.step (h argument hargument) s s') hs

/-- What holds before anything is read holds of a command line that is read. -/
theorem readAll {arguments : List String} (h : ∀ argument ∈ arguments, ∀ name option,
    CommandOption.named? name = some option → Names argument name → allowed option) {s : State}
    (hstart : P {}) (hs : readAll arguments = .ok s) : P s :=
  ((hP.foldlM h).bind hP.settle) {} s hstart hs

end

end Steady

/-! ## Numbers of pages -/

/-- The reader counts no further than it can. -/
theorem count_le {text : String} {n : Nat} (h : count text = .ok n) : n ≤ greatestCount := by
  unfold count at h
  dsimp only at h
  split_ifs at h
  refine foldlM_kept (P := (· ≤ greatestCount)) ?_ (Nat.zero_le _) h
  intro n c _ n' _ h
  split at h
  · cases h
  · split at h
    · cases h
      assumption
    · cases h

/-- A number of pages that has been read is one the reader can count to. -/
def State.Counted (s : State) : Prop := ∀ n, s.maxPages = some n → n ≤ greatestCount

theorem steady_counted : Steady State.Counted fun _ => True where
  awaits := fun _ _ _ _ _ => trivial
  frame := by
    intro s s' hs hcount _ _ n hn
    exact hs n (hcount.symm.trans hn)
  value := by
    intro option _ text
    cases option with
    | maxPages =>
      refine .ite (keeps_error _) ?_
      cases hcount : count text with
      | error reason => exact keeps_error _
      | ok n =>
        refine keeps_ok fun s _ => ?_
        rintro _ ⟨⟩
        exact count_le hcount
    | token => exact .ite (keeps_error _) (keeps_ok fun _ hs => hs)
    | _ => exact keeps_ok fun _ hs => hs

end ArgumentReader

/-- A number of pages on a command line is one the reader can count to. -/
theorem Arguments.maxPages_le {env : Environment} {arguments : List String} {a : Arguments}
    (h : parse env arguments = .ok a) {n : Nat} (hn : a.maxPages = some n) :
    n ≤ ArgumentReader.greatestCount := by
  rw [parse_eq] at h
  cases hread : ArgumentReader.readAll arguments with
  | error e =>
    rw [hread] at h
    cases h
  | ok s =>
    rw [hread] at h
    have h : s.toArguments (s.token.or (env Environment.tokenVariable)) = .ok a := h
    have hcounted : s.Counted := ArgumentReader.steady_counted.readAll
      (fun _ _ _ _ _ _ => trivial) (fun _ hn => nomatch hn) hread
    unfold ArgumentReader.State.toArguments at h
    split at h
    · cases h
    · cases h
      exact hcounted n hn

end ConditionalGet
