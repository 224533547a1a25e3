import ConditionalGet.Config
import ConditionalGet.Decimal.Shortest
import ConditionalGet.Json.Value
import ConditionalGet.Text.Quoted
import ConditionalGet.Toml.Document

/-!
# Reading the configuration

A configuration is a TOML document. What it does not set keeps its default, and what it sets beyond
the known keys is passed over. Tables are read in the order of their keys. The table `cache` may
also be an array of its values, and a choice may be a table with the choice as its only key.
-/

set_option autoImplicit false

namespace ConditionalGet.Config

open Toml Decimal
open Text (ticked)

/-! ## Flaws -/

/-- What is wrong with a configuration. -/
inductive Flaw where
  | document (flaw : Toml.Flaw)
  /-- A value of another kind than the wanted one. -/
  | wrongKind (found wanted : String)
  /-- A number outside the wanted range. -/
  | wrongValue (found wanted : String)
  | unknownChoice (name : String) (choices : List String)
  /-- Something else stands where one of several names must be chosen. -/
  | noChoice
  /-- A number that no reader of numbers can take. -/
  | beyondRange
  deriving DecidableEq, Repr

/-- The names that may be chosen. -/
def choicesText : List String → String
  | [a] => ticked a
  | [a, b] => ticked a ++ " or " ++ ticked b
  | choices => "one of " ++ ", ".intercalate (choices.map ticked)

def Flaw.text : Flaw → String
  | .document .malformed => "malformed document"
  | .document .duplicateKey => "duplicate key"
  | .wrongKind found wanted => "invalid type: " ++ found ++ ", expected " ++ wanted
  | .wrongValue found wanted => "invalid value: " ++ found ++ ", expected " ++ wanted
  | .unknownChoice name choices =>
    "unknown variant " ++ ticked name ++ ", expected " ++ choicesText choices
  | .noChoice => "wanted a name or a table with one key"
  | .beyondRange => "number out of range"

/-! ## Values that do not fit -/

/-- A double without an exponent and with at least one decimal place. -/
def doubleText (x : Double) : String :=
  let d := Numeral.shortest .toEven x.magnitude
  let digits := d.digitChars
  let point : Int := Int.ofNat digits.length + d.exponent
  let body : List Char :=
    if x.magnitude.mantissa = 0 then ['0', '.', '0']
    else if 0 ≤ d.exponent then digits ++ List.replicate d.exponent.toNat '0' ++ ['.', '0']
    else if 0 < point then digits.take point.toNat ++ ['.'] ++ digits.drop point.toNat
    else ['0', '.'] ++ List.replicate (-point).toNat '0' ++ digits
  String.ofList (if x.negative then '-' :: body else body)

/-- The text of a number with a point or an exponent; none for one beyond range. -/
def fractionalText? : Fractional → Option String
  | .finite x => some (doubleText x)
  | .infinite negative => some (if negative then "-inf" else "inf")
  | .nan => some "NaN"
  | .beyond => none

/-- The size of the range of 64 bits. -/
def range64 : Int := 18446744073709551616

/-- The size of the range of 128 bits. -/
def range128 : Int := range64 * range64

/-- How an integer is named where none is wanted, and what is added if it does not fit 64 bits; none
for one that does not fit 128 bits either. -/
def integerName? (i : Int) : Option String :=
  let text := "integer " ++ ticked (String.ofList (Json.integerChars i))
  if -range64 ≤ 2 * i && i < range64 then some text
  else if -range128 ≤ 2 * i && 2 * i < range128 then some (text ++ " as i128")
  else if 0 ≤ i && i < range128 then some (text ++ " as u128")
  else none

/-- The flaw of a value of the wrong kind. -/
def misfit (wanted : String) : Value → Flaw
  | .string s => .wrongKind ("string " ++ Text.quoted s) wanted
  | .integer i =>
    match integerName? i with
    | some name => .wrongKind name wanted
    | none => .beyondRange
  | .float r =>
    match fractionalText? r with
    | some text => .wrongKind ("floating point " ++ ticked text) wanted
    | none => .beyondRange
  | .boolean b => .wrongKind ("boolean " ++ ticked (if b then "true" else "false")) wanted
  | .array .. => .wrongKind "sequence" wanted
  | .moment | .table .. => .wrongKind "map" wanted

mutual

/-- Passes over a value, which must have no number beyond range. -/
def ignore : Value → Except Flaw Unit
  | .integer i => if (integerName? i).isSome then .ok () else .error .beyondRange
  | .float .beyond => .error .beyondRange
  | .array _ items => ignoreItems items
  | .table _ entries => ignoreEntries entries
  | _ => .ok ()

/-- Passes over the items of an array. -/
def ignoreItems : List Value → Except Flaw Unit
  | [] => .ok ()
  | v :: vs => do ignore v; ignoreItems vs

/-- Passes over the values of a table. -/
def ignoreEntries : List (String × Value) → Except Flaw Unit
  | [] => .ok ()
  | e :: es => do ignore e.2; ignoreEntries es

end

/-! ## Values -/

/-- A whole number of 64 bits. -/
def readNumber (v : Value) : Except Flaw Nat :=
  match v with
  | .integer i =>
    if 0 ≤ i && i < range64 then .ok i.toNat
    else if -range64 ≤ 2 * i && i < 0 then
      .error (.wrongValue ("integer " ++ ticked (String.ofList (Json.integerChars i))) "u64")
    else .error (misfit "u64" v)
  | _ => .error (misfit "u64" v)

def readText (wanted : String) (v : Value) : Except Flaw String :=
  match v with
  | .string s => .ok s
  | _ => .error (misfit wanted v)

/-- One of several names. -/
def readChoice {α : Type} (choices : List (String × α)) (v : Value) : Except Flaw α :=
  let choose (name : String) : Except Flaw α :=
    match choices.find? (·.1 = name) with
    | some c => .ok c.2
    | none => .error (.unknownChoice name (choices.map Prod.fst))
  match v with
  | .string name => choose name
  | .table _ [(name, inner)] => do
    let choice ← choose name
    match inner with
    | .array _ [] | .table _ [] => .ok choice
    | _ => .error .noChoice
  | _ => .error .noChoice

def readVersion : Value → Except Flaw HttpVersion :=
  readChoice [("http1", .http1), ("http2", .http2)]

def readBackend : Value → Except Flaw Backend :=
  readChoice [("none", .none), ("memory", .memory), ("file", .file)]

/-- A directory. -/
def readDir : Value → Except Flaw String := readText "path string"

/-! ## Settings -/

/-- What is set of the table `cache`. -/
structure CacheSettings where
  backend : Option Backend := none
  dir : Option (Option String) := none
  deriving DecidableEq, Repr

/-- The settings with the default of each field that is not set. -/
def CacheSettings.filled (s : CacheSettings) : CacheConfig where
  backend := s.backend.getD .default
  dir := s.dir.getD none

/-- What is set of the configuration. -/
structure Settings where
  timeout : Option Nat := none
  connectTimeout : Option Nat := none
  userAgent : Option String := none
  httpVersion : Option HttpVersion := none
  cache : Option CacheConfig := none
  deriving DecidableEq, Repr

/-- The settings with the default of each field that is not set. -/
def Settings.filled (s : Settings) : Config where
  timeout := s.timeout.getD defaultTimeout
  connectTimeout := s.connectTimeout.getD defaultConnectTimeout
  userAgent := s.userAgent.getD defaultUserAgent
  httpVersion := s.httpVersion.getD .default
  cache := s.cache.getD .default

/-! ## Tables -/

/-- The entries of a table in the order of their keys. -/
def inOrder (entries : Entries) : Entries := entries.mergeSort fun a b => a.1 ≤ b.1

def readCacheEntry (s : CacheSettings) (entry : String × Value) : Except Flaw CacheSettings :=
  match entry.1 with
  | "backend" => do return { s with backend := some (← readBackend entry.2) }
  | "dir" => do return { s with dir := some (some (← readDir entry.2)) }
  | _ => do
    ignore entry.2
    return s

/-- The settings of the table `cache`, or of an array of its values. -/
def readCacheSettings (v : Value) : Except Flaw CacheSettings :=
  match v with
  | .table _ entries => (inOrder entries).foldlM readCacheEntry {}
  | .moment => .ok {}
  | .array _ [] => .ok {}
  | .array _ [backend] => do return { backend := some (← readBackend backend) }
  | .array _ (backend :: dir :: _) => do
    return { backend := some (← readBackend backend), dir := some (some (← readDir dir)) }
  | _ => .error (misfit "struct CacheConfig" v)

def readCache (v : Value) : Except Flaw CacheConfig := do return (← readCacheSettings v).filled

def readEntry (s : Settings) (entry : String × Value) : Except Flaw Settings :=
  match entry.1 with
  | "timeout_secs" => do return { s with timeout := some (← readNumber entry.2) }
  | "connect_timeout_secs" => do return { s with connectTimeout := some (← readNumber entry.2) }
  | "user_agent" => do return { s with userAgent := some (← readText "a string" entry.2) }
  | "http_version" => do return { s with httpVersion := some (← readVersion entry.2) }
  | "cache" => do return { s with cache := some (← readCache entry.2) }
  | _ => do
    ignore entry.2
    return s

/-- The configuration that a text gives. -/
def parse (text : String) : Except Flaw Config :=
  match Toml.parse text with
  | .ok entries => do return (← (inOrder entries).foldlM readEntry {}).filled
  | .error flaw => .error (.document flaw)

end ConditionalGet.Config
