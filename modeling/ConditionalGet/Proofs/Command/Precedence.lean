import ConditionalGet.Proofs.Command.Bearing
import ConditionalGet.Proofs.Command.Reading

/-!
# Which token wins

There are two orders. A credential looked up for a host comes from the variable for the host, and
from the one for all hosts only where that gives no token (`Environment.credential?_eq`). A run
takes the variable for all hosts for a token of its command line where there is none, and looks a
credential up only if that is blank. So without a token on the command line the token for all hosts
goes before the token for the host (`generic_token_first`), and the two orders agree if and only if
they need not choose.

That no token is on a command line is a fact about its arguments; that none is read there goes by
the states of the reader (`ReadsNoToken`), one part of the reading after another
(`steady_tokenless`).
-/

set_option autoImplicit false

namespace ConditionalGet

open Program Text

/-! ## Command lines without a token -/

theorem CommandOption.ne_token_of_named? {name : String} {option : CommandOption}
    (hname : name ≠ "token") (h : named? name = some option) : option ≠ .token := by
  rintro rfl
  unfold named? at h
  split at h <;> simp_all

/-- An argument that gives a token: it has one in it, or the next argument is one. -/
def IsTokenOption (argument : String) : Prop :=
  argument = "--token" ∨ ∃ token, argument = "--token=" ++ token

namespace ArgumentReader

/-- No token has been read, and none is on its way. -/
structure State.Tokenless (s : State) : Prop where
  token : s.token = none
  pending : ∀ text, s.pending ≠ .value .token text

theorem State.Tokenless.of_nothing {s : State} (htoken : s.token = none)
    (hpending : s.pending = .nothing) : s.Tokenless := by
  refine ⟨htoken, fun text he => ?_⟩
  cases hpending.symm.trans he

/-- A part of the reading in which no token is read. -/
def ReadsNoToken (f : State → Except ArgumentError State) : Prop :=
  ∀ s s', s.Tokenless → f s = .ok s' → s'.Tokenless

theorem steady_tokenless : Steady State.Tokenless (· ≠ .token) where
  awaits := by
    rintro s hs _ text hpending rfl
    exact hs.pending text hpending
  frame := by
    intro s s' hs _ htoken hawaits
    exact ⟨htoken.trans hs.token, fun text he => hawaits _ text he rfl⟩
  value := by
    intro option hoption text
    cases option with
    | maxPages =>
      refine .ite (keeps_error _) ?_
      cases count text with
      | error reason => exact keeps_error _
      | ok n => exact keeps_ok fun _ hs => ⟨hs.token, hs.pending⟩
    | token => exact absurd rfl hoption
    | _ => exact keeps_ok fun _ hs => hs

theorem readsNoToken_foldlM {arguments : List String}
    (h : ∀ argument ∈ arguments, ¬IsTokenOption argument) :
    ReadsNoToken fun s => arguments.foldlM step s := by
  refine steady_tokenless.foldlM fun argument hargument name option hnamed hnames => ?_
  refine CommandOption.ne_token_of_named? ?_ hnamed
  rintro rfl
  -- an argument that names the token is a token option, letter by letter
  exact h argument hargument hnames

/-- No token is read from a command line without one. -/
theorem token_eq_none_of_readAll {arguments : List String}
    (h : ∀ argument ∈ arguments, ¬IsTokenOption argument) {s : State}
    (hs : readAll arguments = .ok s) : s.token = none :=
  (Keeps.bind (readsNoToken_foldlM h) steady_tokenless.settle {} s (.of_nothing rfl rfl) hs).token

end ArgumentReader

/-! ## The two orders -/

section
variable {env : Environment} {arguments : List String} {a : Arguments} {host : String}

open Environment

theorem Credential.bearer_inj {s t : String} : bearer s = bearer t ↔ s = t := by
  rw [bearer, bearer, Credential.mk.injEq, String.append_right_inj]
  exact and_iff_right rfl

/-- The variable for all hosts stands in for the token of a command line without one. -/
theorem Arguments.token_of_parse (hplain : ∀ argument ∈ arguments, ¬IsTokenOption argument)
    (hargs : parse env arguments = .ok a) : a.token = env tokenVariable := by
  rw [parse_eq] at hargs
  cases hread : ArgumentReader.readAll arguments with
  | error e =>
    rw [hread] at hargs
    cases hargs
  | ok s =>
    rw [hread] at hargs
    have hargs : s.toArguments (s.token.or (env tokenVariable)) = .ok a := hargs
    rw [ArgumentReader.token_eq_none_of_readAll hplain hread, Option.none_or] at hargs
    unfold ArgumentReader.State.toArguments at hargs
    split at hargs
    · cases hargs
    · cases hargs
      rfl

/-- The credential for a host, where the variable for all hosts has been taken for a token. -/
theorem Arguments.credential?_of_parse
    (hplain : ∀ argument ∈ arguments, ¬IsTokenOption argument)
    (hargs : parse env arguments = .ok a) (hhost : a.url.host? = some host) :
    a.credential? env =
      ((token? (env tokenVariable)).or (token? (env (hostVariable host)))).map .bearer := by
  rw [credential?_eq, token_of_parse hplain hargs, hhost, Option.bind_some, Option.map_or]
  cases token? (env tokenVariable) with
  | none => rw [Option.map_none, Option.or_none]
  | some token => rfl

/-- Two settings give the same in either order where one of them gives nothing, or both the same. -/
theorem or_eq_or_swap_iff {α : Type} {x y : Option α} :
    x.or y = y.or x ↔ x = none ∨ y = none ∨ x = y := by
  cases x <;> cases y <;> simp

end

namespace Command

section
variable {env : Environment} {arguments : List String} {a : Arguments} {host : String}

open Environment

/-- **Without a token on the command line, the token for all hosts wins.** Whatever the variables
are, a run that is told to fetch from a host takes the token for all hosts, and the one for the host
only if there is none for all. That is the credential that is looked up for the host if and only if
one of the variables gives no token, or both give the same. All requests of the run carry this
credential and no other. -/
theorem generic_token_first (hplain : ∀ argument ∈ arguments, ¬IsTokenOption argument)
    (hargs : Arguments.parse env arguments = .ok a) (hhost : a.url.host? = some host) :
    a.credential? env =
        ((token? (env tokenVariable)).or (token? (env (hostVariable host)))).map .bearer ∧
      (a.credential? env = env.credential? host ↔
        token? (env tokenVariable) = none ∨ token? (env (hostVariable host)) = none ∨
          token? (env tokenVariable) = token? (env (hostVariable host))) ∧
      ∀ {φ : Type} (files : Answering Files.interface φ) (account : Option String) (f f' : φ)
        (ending : Ending) (sent : List Sent),
        Runs (world files) (run env account arguments) (f, []) ending (f', sent) →
          ∀ e ∈ sent, (e.request.headers.values .authorization).map FieldValue.bytes =
            ((a.credential? env).map fun c => Text.bytes c.value).toList := by
  have hcredential := Arguments.credential?_of_parse hplain hargs hhost
  refine ⟨hcredential, ?_, fun files account f f' ending sent hrun e he => ?_⟩
  · have hinjective : Function.Injective Credential.bearer := fun _ _ => Credential.bearer_inj.1
    rw [hcredential, Environment.credential?_eq, (Option.map_injective hinjective).eq_iff,
      or_eq_or_swap_iff]
  · exact (runs_belong hargs hrun e he).authorization fun c hc => name_of_credential? hc

end

/-! ### A host with a token of its own -/

namespace OwnToken

def arguments : List String := ["--no-cache", "http://api.example/x"]

def env : Environment := fun name =>
  if name = "FORGE_TOKEN" then some "t"
  else if name = "FORGE_TOKEN_API_EXAMPLE" then some "own"
  else none

def url : Url := ⟨"http", some ⟨"", none, .domain "api.example", none⟩, .steps ["x"], none, none⟩

def asked : Arguments := ⟨url, false, none, some "t", true⟩

/-- The run from its arguments on, where there are no files and the server has a page. -/
def outcome : Ending × (Tree × List Sent) :=
  ((runWith env none asked).run (serving fun _ => ⟨200, ⟨[]⟩, "[1]"⟩)).run (Tree.empty, [])

def sent : List Sent := outcome.2.2

theorem tokenless_arguments : ∀ argument ∈ arguments, ¬IsTokenOption argument := by
  have hlead : ∀ token, ("--token=" ++ token).toList.take 8 = "--token=".toList := by
    intro token
    rw [String.toList_append]
    rfl
  rintro argument hargument (rfl | ⟨token, rfl⟩)
  · revert hargument
    decide
  · have hother : ∀ other ∈ arguments, other.toList.take 8 ≠ "--token=".toList := by decide
    exact hother _ hargument (hlead token)

theorem asked_of_parse : Arguments.parse env arguments = .ok asked :=
  DiskStore.eq_ok_of_toOption (by decide +kernel)

theorem host?_asked : asked.url.host? = some "api.example" := by decide +kernel

theorem runs_sent :
    Runs (world Tree.faulty) (run env none arguments) (Tree.empty, []) outcome.1
      (outcome.2.1, sent) := by
  rw [run, asked_of_parse]
  exact runs_serving (runWith env none asked) rfl

/-- The one request of the run carries the token for all hosts. -/
theorem generic_token_first_sent :
    asked.credential? env = some (.bearer "t") ∧
      asked.credential? env ≠ env.credential? "api.example" ∧ sent.length = 1 ∧
      ∀ e ∈ sent, (e.request.headers.values .authorization).map FieldValue.bytes =
        [Text.bytes "Bearer t"] := by
  obtain ⟨hcredential, hagree, hsent⟩ :=
    generic_token_first tokenless_arguments asked_of_parse host?_asked
  have ht : asked.credential? env = some (.bearer "t") := hcredential.trans (by decide +kernel)
  refine ⟨ht, fun he => ?_, by decide +kernel, fun e he => ?_⟩
  · revert he
    rw [hagree]
    decide +kernel
  · rw [hsent Tree.faulty none _ _ _ _ runs_sent e he, ht]
    rfl

/-- A run takes another token than the one that is looked up for its host. -/
theorem own_token_unused :
    (∀ argument ∈ arguments, ¬IsTokenOption argument) ∧
      Arguments.parse env arguments = .ok asked ∧ asked.url.host? = some "api.example" ∧
      env.credential? "api.example" = some (.bearer "own") ∧
      asked.credential? env = some (.bearer "t") :=
  ⟨tokenless_arguments, asked_of_parse, host?_asked, by decide +kernel, by decide +kernel⟩

end OwnToken

end Command

end ConditionalGet
