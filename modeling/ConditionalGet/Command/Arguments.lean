import ConditionalGet.Environment
import ConditionalGet.Url.Parser

/-!
# Arguments of the command

The command takes one URL and a few options, in any order. A value follows its option as the next
argument or after an equals sign; after `--` nothing is an option. Each option may be given once. A
value is read when the next argument that is not part of it comes, so that of two faults the earlier
one is reported.
-/

set_option autoImplicit false

namespace ConditionalGet

/-- What the command is told to do. -/
structure Arguments where
  url : Url
  /-- Follow the links to next pages. -/
  allPages : Bool
  /-- Follow them for this many pages at most. -/
  maxPages : Option Nat
  token : Option String
  /-- Do not keep responses. -/
  noCache : Bool
  deriving DecidableEq, Repr

inductive CommandOption where
  | allPages
  | maxPages
  | token
  | noCache
  | help
  | version
  deriving DecidableEq, Repr

namespace CommandOption

/-- The long names of the options. -/
def named? : String → Option CommandOption
  | "all-pages" => some .allPages
  | "max-pages" => some .maxPages
  | "token" => some .token
  | "no-cache" => some .noCache
  | "help" => some .help
  | "version" => some .version
  | _ => none

def ofLetter? : Char → Option CommandOption
  | 'h' => some .help
  | 'V' => some .version
  | _ => none

def takesValue : CommandOption → Bool
  | .maxPages | .token => true
  | _ => false

/-- How an option is shown, with its value. -/
def usage : CommandOption → String
  | .allPages => "--all-pages"
  | .maxPages => "--max-pages <MAX_PAGES>"
  | .token => "--token <TOKEN>"
  | .noCache => "--no-cache"
  | .help => "--help"
  | .version => "--version"

end CommandOption

/-- Why the command does not run. -/
inductive ArgumentError where
  | unknown (argument : String)
  | missingValue (option : CommandOption)
  | repeated (option : CommandOption)
  /-- A value that does not read as one, for what is shown as `target`. -/
  | invalidValue (value target reason : String)
  | needlessValue (value : String) (option : CommandOption)
  | missingUrl
  /-- Only help is wanted. -/
  | help
  /-- Only the version is wanted. -/
  | version
  deriving DecidableEq, Repr

namespace ArgumentError

/-- The first line of what is told about an error. -/
def message : ArgumentError → String
  | .unknown argument => "error: unexpected argument '" ++ argument ++ "' found"
  | .missingValue option =>
    "error: a value is required for '" ++ option.usage ++ "' but none was supplied"
  | .repeated option =>
    "error: the argument '" ++ option.usage ++ "' cannot be used multiple times"
  | .invalidValue value target reason =>
    "error: invalid value '" ++ value ++ "' for '" ++ target ++ "': " ++ reason
  | .needlessValue value option =>
    "error: unexpected value '" ++ value ++ "' for '" ++ option.usage ++
      "' found; no more were expected"
  | .missingUrl => "error: the following required arguments were not provided:"
  | .help | .version => ""

def exitCode : ArgumentError → Nat
  | .help | .version => 0
  | _ => 2

end ArgumentError

namespace ArgumentReader

/-- An argument whose value is still to be read, or to come. -/
inductive Pending where
  | nothing
  | url (text : String)
  | value (option : CommandOption) (text : Option String)
  deriving DecidableEq, Repr

/-- What has been read so far. -/
structure State where
  url : Option Url := none
  allPages : Bool := false
  maxPages : Option Nat := none
  token : Option String := none
  noCache : Bool := false
  pending : Pending := .nothing
  /-- Whether there has been a URL. -/
  urlGiven : Bool := false
  /-- Whether nothing is an option any more. -/
  onlyValues : Bool := false

/-! ## Values -/

/-- The greatest number of pages. -/
def greatestCount : Nat := 18446744073709551615

/-- A number of pages; a plus sign may stand before it. -/
def count (s : String) : Except String Nat :=
  let digits :=
    match s.toList with
    | '+' :: c :: rest => c :: rest
    | cs => cs
  if digits.isEmpty then .error "cannot parse integer from empty string"
  else
    digits.foldlM (fun n c =>
      match Text.digit? c with
      | none => .error "invalid digit found in string"
      | some d =>
        if n * 10 + d ≤ greatestCount then .ok (n * 10 + d)
        else .error "number too large to fit in target type") 0

def takeValue (s : State) (option : CommandOption) (value : String) :
    Except ArgumentError State :=
  match option with
  | .maxPages =>
    if s.maxPages.isSome then .error (.repeated option)
    else
      match count value with
      | .ok n => .ok { s with maxPages := some n }
      | .error reason => .error (.invalidValue value option.usage reason)
  | .token =>
    if s.token.isSome then .error (.repeated option) else .ok { s with token := some value }
  | _ => .ok s

/-- Takes an option without value. -/
def takeFlag (s : State) (option : CommandOption) : Except ArgumentError State :=
  match option with
  | .allPages =>
    if s.allPages then .error (.repeated option) else .ok { s with allPages := true }
  | .noCache => if s.noCache then .error (.repeated option) else .ok { s with noCache := true }
  | .help => .error .help
  | .version => .error .version
  | _ => .ok s

/-- Reads the value that is pending. -/
def settle (s : State) : Except ArgumentError State :=
  let free := { s with pending := .nothing }
  match s.pending with
  | .nothing => .ok s
  | .url text =>
    match Url.parse text with
    | .ok url => .ok { free with url := some url }
    | .error flaw => .error (.invalidValue text "<URL>" flaw.text)
  | .value option none => .error (.missingValue option)
  | .value option (some text) => takeValue free option text

/-! ## Arguments -/

/-- Takes an option by its long name, with the value after an equals sign if there is one. -/
def takeLong (s : State) (name : String) (value : Option String) : Except ArgumentError State :=
  match CommandOption.named? name with
  | none => .error (.unknown ("--" ++ name))
  | some option =>
    match option.takesValue, value with
    | true, some value => do takeValue (← settle s) option value
    | true, none => do
      let s ← settle s
      return { s with pending := .value option none }
    | false, some value => .error (.needlessValue value option)
    | false, none => do takeFlag (← settle s) option

/-- Takes options by their letters. -/
def takeLetters (s : State) : List Char → Except ArgumentError State
  | [] => .ok s
  | c :: cs =>
    match CommandOption.ofLetter? c with
    | none => .error (.unknown (String.ofList ['-', c]))
    | some option => do
      let s ← settle s
      takeLetters (← takeFlag s option) cs

/-- Takes an argument that is no option. -/
def takePlain (s : State) (text : String) : Except ArgumentError State :=
  if s.urlGiven then .error (.unknown text)
  else do
    let s ← settle s
    return { s with pending := .url text, urlGiven := true }

def step (s : State) (argument : String) : Except ArgumentError State :=
  if s.onlyValues then takePlain s argument
  else
    match argument.toList with
    | ['-', '-'] => .ok { s with onlyValues := true }
    | '-' :: '-' :: rest =>
      match Text.cut? (· = '=') rest with
      | some (name, value) => takeLong s (String.ofList name) (some (String.ofList value))
      | none => takeLong s (String.ofList rest) none
    | '-' :: c :: rest => takeLetters s (c :: rest)
    | _ =>
      match s.pending with
      | .value option none => .ok { s with pending := .value option (some argument) }
      | _ => takePlain s argument

end ArgumentReader

namespace Arguments

/-- The arguments of a command line. The token of the environment stands in for one that is not
given. -/
def parse (env : Environment) (arguments : List String) : Except ArgumentError Arguments := do
  let s ← ArgumentReader.settle (← arguments.foldlM ArgumentReader.step {})
  match s.url with
  | none => .error .missingUrl
  | some url =>
    return {
      url := url
      allPages := s.allPages
      maxPages := s.maxPages
      token := s.token.or (env Environment.tokenVariable)
      noCache := s.noCache }

/-- The credential for the URL: the given token, or else what the environment has for its host. -/
def credential? (a : Arguments) (env : Environment) : Option Credential :=
  match Environment.token? a.token with
  | some token => some (Credential.bearer token)
  | none => a.url.host?.bind env.credential?

end Arguments

end ConditionalGet
