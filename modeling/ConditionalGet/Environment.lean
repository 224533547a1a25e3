import ConditionalGet.Credential
import ConditionalGet.Text.Blank
import ConditionalGet.Text.Upper

/-!
# Tokens in the environment

A token is looked up in a variable for the host first and in a variable for all hosts then. A
variable that is blank counts as not set.
-/

set_option autoImplicit false

namespace ConditionalGet

open Text

/-- The variables of a process. -/
abbrev Environment := String → Option String

namespace Environment

/-- The variable with the token for all hosts. -/
def tokenVariable : String := "FORGE_TOKEN"

/-- The variable with the token for one host: dots and hyphens become underlines, letters
capitals. -/
def hostVariable (host : String) : String :=
  tokenVariable ++ "_" ++
    upper (String.ofList (host.toList.map fun c => if c = '.' || c = '-' then '_' else c))

/-- The token that a setting gives, blanks around it cut off; none if it is blank. -/
def token? (setting : Option String) : Option String :=
  (setting.filter fun s => !isAllBlank s).map trim

/-- The credential for a host, by whatever answers questions for variables: the second variable is
asked for only if the first gives no token. -/
def resolve {m : Type → Type} [Monad m] (ask : String → m (Option String)) (host : String) :
    m (Option Credential) := do
  match token? (← ask (hostVariable host)) with
  | some token => return some (Credential.bearer token)
  | none => return (token? (← ask tokenVariable)).map Credential.bearer

def credential? (env : Environment) (host : String) : Option Credential :=
  Id.run (resolve (fun name => pure (env name)) host)

/-- The token for the host goes before the token for all hosts. -/
theorem credential?_eq (env : Environment) (host : String) :
    env.credential? host =
      ((token? (env (hostVariable host))).or (token? (env tokenVariable))).map
        Credential.bearer := by
  cases h : token? (env (hostVariable host)) <;> simp [credential?, resolve, h]

end Environment

end ConditionalGet
