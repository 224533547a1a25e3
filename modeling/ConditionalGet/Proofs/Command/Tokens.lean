import ConditionalGet.Command.Arguments
import Mathlib.Logic.Function.Basic

/-!
# One token in place of another

A token comes from the command line or from a variable. Reading the command line goes the same way
whatever token is on it (`IgnoresToken`), and only the variables for tokens are looked at for one.
So a command line, or an environment, with another token in place of one leads to the same
arguments with another credential, and that credential can be sent if the former can
(`Swapped.begins`).
-/

set_option autoImplicit false

namespace ConditionalGet

open Text

/-! ## Reading the command line -/

namespace ArgumentReader

/-- What has been read, with this token in it. -/
def State.withToken (s : State) (token : String) : State := { s with token := some token }

/-- A part of the reading that goes the same way whatever the token is that has been read. -/
def IgnoresToken (f : State → Except ArgumentError State) : Prop :=
  ∀ (s : State) (a b : String), f (s.withToken b) = (f (s.withToken a)).map (·.withToken b)

/-- A part of the reading after which options are options as before. -/
structure Regular (f : State → Except ArgumentError State) : Prop where
  token : IgnoresToken f
  options : ∀ s s', f s = .ok s' → s'.onlyValues = s.onlyValues

section
variable {f g : State → Except ArgumentError State}

/-- A token that has been read is not replaced. -/
theorem IgnoresToken.eq_withToken (hf : IgnoresToken f) {s s' : State} {a : String}
    (h : f (s.withToken a) = .ok s') : s' = s'.withToken a := by
  have hself := hf s a a
  rw [h] at hself
  exact Except.ok.inj hself

theorem IgnoresToken.bind (hf : IgnoresToken f) (hg : IgnoresToken g) :
    IgnoresToken fun s => f s >>= g := by
  intro s a b
  show f (s.withToken b) >>= g = (f (s.withToken a) >>= g).map (·.withToken b)
  rw [hf s a b]
  cases hs : f (s.withToken a) with
  | error e => rfl
  | ok s' =>
    have hs' := hf.eq_withToken hs
    show g (s'.withToken b) = (g s').map (·.withToken b)
    rw [hg s' a b, ← hs']

theorem Regular.bind (hf : Regular f) (hg : Regular g) : Regular fun s => f s >>= g where
  token := hf.token.bind hg.token
  options := by
    intro s s' h
    cases hs : f s with
    | error e =>
      rw [hs] at h
      cases h
    | ok s₁ =>
      rw [hs] at h
      exact (hg.options s₁ s' h).trans (hf.options s s₁ hs)

theorem IgnoresToken.ite {flag : State → Bool} (hf : IgnoresToken f)
    (hflag : ∀ s a, flag (s.withToken a) = flag s) (hg : IgnoresToken g) :
    IgnoresToken fun s => if flag s then f s else g s := by
  intro s a b
  dsimp only
  rw [hflag, hflag]
  cases flag s with
  | true => exact hf s a b
  | false => exact hg s a b

theorem Regular.ite {flag : State → Bool} (hf : Regular f)
    (hflag : ∀ s a, flag (s.withToken a) = flag s) (hg : Regular g) :
    Regular fun s => if flag s then f s else g s where
  token := hf.token.ite hflag hg.token
  options := by
    intro s s' h
    split at h
    · exact hf.options s s' h
    · exact hg.options s s' h

theorem regular_error (e : ArgumentError) : Regular fun _ => .error e where
  token := fun _ _ _ => rfl
  options := fun _ _ h => nomatch h

theorem regular_ok {update : State → State}
    (htoken : ∀ s a, update (s.withToken a) = (update s).withToken a)
    (hoptions : ∀ s, (update s).onlyValues = s.onlyValues) :
    Regular fun s => .ok (update s) where
  token := by
    intro s a b
    simp only [htoken]
    rfl
  options := by
    rintro s s' ⟨⟩
    exact hoptions s

end

theorem regular_takeValue (option : CommandOption) (value : String) :
    Regular fun s => takeValue s option value := by
  cases option with
  | maxPages =>
    refine .ite (regular_error _) (fun _ _ => rfl) ?_
    cases count value with
    | error reason => exact regular_error _
    | ok n => exact regular_ok (fun _ _ => rfl) fun _ => rfl
  | token =>
    constructor
    · exact fun _ _ _ => rfl
    · rintro ⟨url, allPages, maxPages, _ | token, noCache, pending, urlGiven, onlyValues⟩ s' h
      · cases h
        rfl
      · cases h
  | _ => exact regular_ok (fun _ _ => rfl) fun _ => rfl

theorem regular_takeFlag (option : CommandOption) : Regular fun s => takeFlag s option := by
  cases option with
  | allPages =>
    exact .ite (regular_error _) (fun _ _ => rfl) (regular_ok (fun _ _ => rfl) fun _ => rfl)
  | noCache =>
    exact .ite (regular_error _) (fun _ _ => rfl) (regular_ok (fun _ _ => rfl) fun _ => rfl)
  | help => exact regular_error _
  | version => exact regular_error _
  | _ => exact regular_ok (fun _ _ => rfl) fun _ => rfl

theorem regular_settle : Regular settle := by
  constructor
  · rintro ⟨url, allPages, maxPages, token, noCache, pending, urlGiven, onlyValues⟩ a b
    rcases pending with _ | text | ⟨option, _ | text⟩
    · rfl
    · simp only [settle, State.withToken]
      cases Url.parse text <;> rfl
    · rfl
    · exact (regular_takeValue option text).token
        ⟨url, allPages, maxPages, token, noCache, .nothing, urlGiven, onlyValues⟩ a b
  · rintro ⟨url, allPages, maxPages, token, noCache, pending, urlGiven, onlyValues⟩ s' h
    rcases pending with _ | text | ⟨option, _ | text⟩
    · cases h
      rfl
    · simp only [settle] at h
      cases hu : Url.parse text with
      | error flaw => simp [hu] at h
      | ok url =>
        simp only [hu] at h
        cases h
        rfl
    · cases h
    · exact (regular_takeValue option text).options
        ⟨url, allPages, maxPages, token, noCache, .nothing, urlGiven, onlyValues⟩ s' h

theorem regular_takeLong (name : String) (value : Option String) :
    Regular fun s => takeLong s name value := by
  unfold takeLong
  cases CommandOption.named? name with
  | none => exact regular_error _
  | some option =>
    dsimp only
    cases option.takesValue <;> cases value
    · exact regular_settle.bind (regular_takeFlag option)
    · exact regular_error _
    · exact regular_settle.bind (regular_ok (fun _ _ => rfl) fun _ => rfl)
    · exact regular_settle.bind (regular_takeValue option _)

theorem regular_takeLetters (letters : List Char) :
    Regular fun s => takeLetters s letters := by
  induction letters with
  | nil => exact regular_ok (fun _ _ => rfl) fun _ => rfl
  | cons c cs ih =>
    unfold takeLetters
    cases CommandOption.ofLetter? c with
    | none => exact regular_error _
    | some option => exact regular_settle.bind ((regular_takeFlag option).bind ih)

theorem regular_takePlain (text : String) : Regular fun s => takePlain s text :=
  (regular_error _).ite (fun _ _ => rfl)
    (regular_settle.bind (regular_ok (fun _ _ => rfl) fun _ => rfl))

/-- An argument that is no option is a value that is wanted, or it is taken by itself. -/
theorem regular_takeValueOrPlain (argument : String) : Regular fun s =>
    match s.pending with
    | .value option none => .ok { s with pending := .value option (some argument) }
    | _ => takePlain s argument := by
  constructor
  · rintro ⟨url, allPages, maxPages, token, noCache, pending, urlGiven, onlyValues⟩ a b
    rcases pending with _ | text | ⟨option, _ | text⟩
    · exact (regular_takePlain argument).token _ a b
    · exact (regular_takePlain argument).token _ a b
    · rfl
    · exact (regular_takePlain argument).token _ a b
  · rintro ⟨url, allPages, maxPages, token, noCache, pending, urlGiven, onlyValues⟩ s' h
    rcases pending with _ | text | ⟨option, _ | text⟩
    · exact (regular_takePlain argument).options _ _ h
    · exact (regular_takePlain argument).options _ _ h
    · cases h
      rfl
    · exact (regular_takePlain argument).options _ _ h

theorem regular_step {argument : String} (h : argument ≠ "--") :
    Regular fun s => step s argument := by
  unfold step
  refine (regular_takePlain argument).ite (fun _ _ => rfl) ?_
  split
  · rename_i hdashes
    exact absurd (String.toList_inj.1 hdashes) h
  · split
    · exact regular_takeLong _ _
    · exact regular_takeLong _ _
  · exact regular_takeLetters _
  · exact regular_takeValueOrPlain argument

theorem ignoresToken_step (argument : String) : IgnoresToken fun s => step s argument := by
  by_cases h : argument = "--"
  · subst h
    exact (regular_takePlain "--").token.ite (fun _ _ => rfl) fun _ _ _ => rfl
  · exact (regular_step h).token

theorem ignoresToken_foldlM (arguments : List String) :
    IgnoresToken fun s => arguments.foldlM step s := by
  induction arguments with
  | nil => exact fun _ _ _ => rfl
  | cons argument arguments ih =>
    simp only [List.foldlM_cons]
    exact (ignoresToken_step argument).bind ih

theorem regular_foldlM {arguments : List String} (h : "--" ∉ arguments) :
    Regular fun s => arguments.foldlM step s := by
  induction arguments with
  | nil => exact regular_ok (fun _ _ => rfl) fun _ => rfl
  | cons argument arguments ih =>
    simp only [List.foldlM_cons]
    exact (regular_step (List.ne_of_not_mem_cons h).symm).bind (ih (List.not_mem_of_not_mem_cons h))

/-- What is read of a command line. -/
def readAll (arguments : List String) : Except ArgumentError State :=
  arguments.foldlM step {} >>= settle

/-- Readings with one token and with another: they fail alike, or they come to states that are alike
but for the token. -/
inductive SameButToken (a b : String) :
    Except ArgumentError State → Except ArgumentError State → Prop
  | failed (e : ArgumentError) : SameButToken a b (.error e) (.error e)
  | read (s : State) : SameButToken a b (.ok (s.withToken a)) (.ok (s.withToken b))

section
variable {a b : String}

theorem SameButToken.bind {x y : Except ArgumentError State} (h : SameButToken a b x y)
    {f : State → Except ArgumentError State} (hf : IgnoresToken f) :
    SameButToken a b (x >>= f) (y >>= f) := by
  cases h with
  | failed e => exact .failed e
  | read s =>
    show SameButToken a b (f (s.withToken a)) (f (s.withToken b))
    rw [hf s a b]
    cases hs : f (s.withToken a) with
    | error e => exact .failed e
    | ok s' =>
      have hread := SameButToken.read (a := a) (b := b) s'
      rwa [← hf.eq_withToken hs] at hread

theorem SameButToken.after {x : Except ArgumentError State}
    {f g : State → Except ArgumentError State}
    (h : ∀ s, x = .ok s → SameButToken a b (f s) (g s)) : SameButToken a b (x >>= f) (x >>= g) := by
  cases x with
  | error e => exact .failed e
  | ok s => exact h s rfl

theorem step_token {s : State} (h : s.onlyValues = false) (token : String) :
    step s ("--token=" ++ token) = settle s >>= fun s => takeValue s .token token := by
  have hlist : ("--token=" ++ token).toList =
      '-' :: '-' :: 't' :: 'o' :: 'k' :: 'e' :: 'n' :: '=' :: token.toList := by
    rw [String.toList_append]
    rfl
  have hcut : cut? (· = '=') ('t' :: 'o' :: 'k' :: 'e' :: 'n' :: '=' :: token.toList) =
      some (['t', 'o', 'k', 'e', 'n'], token.toList) := by
    simp [cut?]
  unfold step
  rw [h, hlist]
  simp only [hcut, Bool.false_eq_true, if_false, String.ofList_toList]
  rfl

/-- Another token is taken as the one is, if one can be taken. -/
theorem takeValue_token (s : State) :
    SameButToken a b (takeValue s .token a) (takeValue s .token b) := by
  cases ht : s.token with
  | none =>
    have htake : ∀ token, takeValue s .token token = .ok (s.withToken token) := by
      intro token
      rw [takeValue, ht]
      rfl
    rw [htake, htake]
    exact .read s
  | some token =>
    have htake : ∀ token, takeValue s .token token = .error (.repeated .token) := by
      intro token
      rw [takeValue, ht]
      rfl
    rw [htake, htake]
    exact .failed _

theorem readAll_token {before : List String} (h : "--" ∉ before) (after : List String) :
    SameButToken a b (readAll (before ++ ("--token=" ++ a) :: after))
      (readAll (before ++ ("--token=" ++ b) :: after)) := by
  simp only [readAll, List.foldlM_append, List.foldlM_cons, bind_assoc]
  refine .after fun s hs => ?_
  have hoptions : s.onlyValues = false := (regular_foldlM h).options {} s hs
  rw [step_token hoptions, step_token hoptions, bind_assoc, bind_assoc]
  refine .after fun s _ => ?_
  exact (takeValue_token s).bind ((ignoresToken_foldlM after).bind regular_settle.token)

end

end ArgumentReader

/-! ## Tokens that do the same -/

/-- Tokens that give a credential each, both or neither of which can be sent. -/
structure Interchangeable (a b : String) : Prop where
  left : isAllBlank a = false
  right : isAllBlank b = false
  sendable : (FieldValue.ofString? (trim a)).isSome = (FieldValue.ofString? (trim b)).isSome

/-- Credentials that differ by a token at most, and only if both or neither can be sent. -/
inductive Credential.Alike : Option Credential → Option Credential → Prop
  | same (c : Option Credential) : Alike c c
  | tokens {s t : String} :
      (FieldValue.ofString? s).isSome = (FieldValue.ofString? t).isSome →
      Alike (some (.bearer s)) (some (.bearer t))

theorem Credential.Alike.or {c c' d d' : Option Credential} (h : Alike c c') (h' : Alike d d') :
    Alike (c.or d) (c'.or d') := by
  cases h with
  | same =>
    cases c with
    | none => simpa only [Option.none_or] using h'
    | some c => exact .same _
  | tokens hs => exact .tokens hs

theorem Credential.Alike.isNone_eq {c c' : Option Credential} (h : Alike c c') :
    c.isNone = c'.isNone := by
  cases h <;> rfl

/-- A setting, and what it is where one token stands in place of another. -/
inductive Instead (a b : String) : Option String → Option String → Prop
  | same (setting : Option String) : Instead a b setting setting
  | swapped : Instead a b (some a) (some b)

section
variable {a b : String} {u v u' v' : Option String}

theorem Instead.or (h : Instead a b u v) (h' : Instead a b u' v') :
    Instead a b (u.or u') (v.or v') := by
  cases h with
  | same =>
    cases u with
    | none => simpa only [Option.none_or] using h'
    | some s => exact .same _
  | swapped => exact .swapped

theorem Environment.token?_some {s : String} (h : isAllBlank s = false) :
    token? (some s) = some (trim s) := by
  simp [token?, Option.filter, h]

theorem Instead.credential (hab : Interchangeable a b) (h : Instead a b u v) :
    Credential.Alike ((Environment.token? u).map .bearer) ((Environment.token? v).map .bearer) := by
  cases h with
  | same setting => exact .same _
  | swapped =>
    rw [Environment.token?_some hab.left, Environment.token?_some hab.right]
    exact .tokens hab.sendable

end

/-! ## Variables and arguments -/

/-- A variable that a token is looked for in. -/
def Environment.IsTokenVariable (name : String) : Prop :=
  name = tokenVariable ∨ ∃ host, name = hostVariable host

/-- Readings of command lines that fail alike, or give arguments that are alike but for a token. -/
inductive Arguments.Alike (a b : String) :
    Except ArgumentError Arguments → Except ArgumentError Arguments → Prop
  | failed (e : ArgumentError) : Alike a b (.error e) (.error e)
  | read (arguments : Arguments) {u v : Option String} : Instead a b u v →
      Alike a b (.ok { arguments with token := u }) (.ok { arguments with token := v })

namespace Environment

theorem IsTokenVariable.eq_append {name : String} (h : IsTokenVariable name) :
    ∃ rest, name = "FORGE_TOKEN" ++ rest := by
  obtain rfl | ⟨host, rfl⟩ := h
  · exact ⟨"", (String.append_empty).symm⟩
  · rw [hostVariable, String.append_assoc]
    exact ⟨_, rfl⟩

theorem IsTokenVariable.not_mem {name : String} (h : IsTokenVariable name) :
    name ∉ ["HOME", "XDG_CACHE_HOME", "RUST_LOG"] := by
  obtain ⟨rest, rfl⟩ := h.eq_append
  have hhead : ("FORGE_TOKEN" ++ rest).toList.head? = some 'F' := by
    rw [String.toList_append]
    rfl
  intro hm
  have hother : ∀ other ∈ ["HOME", "XDG_CACHE_HOME", "RUST_LOG"],
      other.toList.head? ≠ some 'F' := by decide
  exact hother _ hm hhead

end Environment

namespace Arguments

open Environment

theorem credential?_eq (arguments : Arguments) (env : Environment) :
    arguments.credential? env = ((token? arguments.token).map Credential.bearer).or
      (arguments.url.host?.bind fun host =>
        ((token? (env (hostVariable host))).map Credential.bearer).or
          ((token? (env tokenVariable)).map Credential.bearer)) := by
  unfold credential?
  cases token? arguments.token with
  | some token => rfl
  | none =>
    rw [Option.map_none, Option.none_or]
    refine congrArg arguments.url.host?.bind (funext fun host => ?_)
    rw [Environment.credential?_eq, Option.map_or]

end Arguments

section
variable {a b : String} {u v : Option String}

open Environment

/-- The arguments that have been read, with this token. -/
def ArgumentReader.State.toArguments (s : State) (token : Option String) :
    Except ArgumentError Arguments :=
  match s.url with
  | none => .error .missingUrl
  | some url => .ok ⟨url, s.allPages, s.maxPages, token, s.noCache⟩

theorem ArgumentReader.State.alike_toArguments (s : State) (h : Instead a b u v) :
    Arguments.Alike a b (s.toArguments u) (s.toArguments v) := by
  unfold toArguments
  cases s.url with
  | none => exact .failed _
  | some url => exact .read ⟨url, s.allPages, s.maxPages, none, s.noCache⟩ h

theorem ArgumentReader.SameButToken.toArguments {x y : Except ArgumentError State}
    (h : SameButToken a b x y) (fallback : Option String) :
    Arguments.Alike a b (x >>= fun s => s.toArguments (s.token.or fallback))
      (y >>= fun s => s.toArguments (s.token.or fallback)) := by
  cases h with
  | failed e => exact .failed e
  | read s => exact s.alike_toArguments .swapped

theorem Arguments.parse_eq (env : Environment) (arguments : List String) :
    parse env arguments = ArgumentReader.readAll arguments >>= fun s =>
      s.toArguments (s.token.or (env tokenVariable)) := by
  unfold ArgumentReader.readAll
  rw [bind_assoc]
  rfl

end

/-! ## Beginning with another token -/

namespace Command

open Environment in
/-- Environments and command lines of which the one pair has the token `b` where the other has `a`:
as an option, or in a variable. -/
inductive Swapped (a b : String) :
    Environment → List String → Environment → List String → Prop
  | option {env : Environment} {before after : List String} : "--" ∉ before →
      Swapped a b env (before ++ ("--token=" ++ a) :: after)
        env (before ++ ("--token=" ++ b) :: after)
  | setting {env : Environment} {arguments : List String} {name : String} :
      IsTokenVariable name → env name = some a →
      Swapped a b env arguments (Function.update env name (some b)) arguments

/-- What a run begins with, and with another token. -/
structure Begins (a b : String) (env : Environment) (arguments : List String) (env' : Environment)
    (arguments' : List String) : Prop where
  parsed : Arguments.Alike a b (Arguments.parse env arguments) (Arguments.parse env' arguments')
  settings : ∀ name, Instead a b (env name) (env' name)
  others : ∀ name ∈ ["HOME", "XDG_CACHE_HOME", "RUST_LOG"], env' name = env name

section
variable {a b : String} {env env' : Environment} {arguments arguments' : List String}
  {u v : Option String}

open Environment

theorem Swapped.begins (h : Swapped a b env arguments env' arguments') :
    Begins a b env arguments env' arguments' := by
  cases h with
  | @option before after hbefore =>
    refine ⟨?_, fun name => .same _, fun name _ => rfl⟩
    rw [Arguments.parse_eq, Arguments.parse_eq]
    exact (ArgumentReader.readAll_token hbefore after).toArguments _
  | @setting _ name hname hset =>
    have hsettings : ∀ n, Instead a b (env n) (Function.update env name (some b) n) := by
      intro n
      by_cases hn : n = name
      · subst hn
        rw [Function.update_self, hset]
        exact .swapped
      · rw [Function.update_of_ne hn]
        exact .same _
    refine ⟨?_, hsettings, fun n hn => ?_⟩
    · rw [Arguments.parse_eq, Arguments.parse_eq]
      cases ArgumentReader.readAll arguments with
      | error e => exact .failed e
      | ok s => exact s.alike_toArguments ((Instead.same s.token).or (hsettings tokenVariable))
    · refine Function.update_of_ne ?_ _ _
      rintro rfl
      exact hname.not_mem hn

/-- Another token makes another credential, which can be sent if the one can. -/
theorem Begins.credential (hab : Interchangeable a b)
    (h : Begins a b env arguments env' arguments') (base : Arguments) (huv : Instead a b u v) :
    Credential.Alike ({ base with token := u }.credential? env)
      ({ base with token := v }.credential? env') := by
  rw [Arguments.credential?_eq, Arguments.credential?_eq]
  refine (huv.credential hab).or ?_
  cases base.url.host? with
  | none => exact .same _
  | some host => exact ((h.settings _).credential hab).or ((h.settings _).credential hab)

end

end Command

end ConditionalGet
