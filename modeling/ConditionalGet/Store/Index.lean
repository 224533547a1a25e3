import ConditionalGet.Instant.Parser
import ConditionalGet.Json.Skip
import ConditionalGet.Store
import ConditionalGet.Table

/-!
# The index of a store on disk

The index says, for each URI, the validator, the file that holds the body, and when both were
stored. As a text it is a JSON object with a version. Reading it accepts what `Index.text` writes
and, for an object with fixed fields, also the array of their values; fields it does not know are
passed over.
-/

set_option autoImplicit false

namespace ConditionalGet

open Json

/-- What is on record for one URI. -/
structure IndexEntry where
  etag : String
  bodyFile : String
  storedAt : Instant
  deriving DecidableEq

/-- What is on record, by URI. -/
abbrev Index := Table String IndexEntry

namespace Index

def version : Nat := 1

/-! ## Writing -/

/-- An entry as a JSON object. -/
def entryValue (e : IndexEntry) : Value :=
  .object [("etag", .string e.etag), ("body_file", .string e.bodyFile),
    ("stored_at", .string e.storedAt.text)]

/-- The index as a JSON object. -/
def value (index : Index) : Value :=
  .object [("version", .number (.integer (Int.ofNat version))),
    ("entries", .object (index.entries.map fun e => (e.1, entryValue e.2)))]

def text (index : Index) : String := index.value.pretty

/-! ## Reading -/

open Reader

/-- A whole number of at most 32 bits. -/
def word32 : Reader Nat := do
  let accept (n : Number) : Reader Nat :=
    match n with
    | .integer i =>
      if 0 ≤ i && i < 4294967296 then pure i.toNat
      else settled (reject (.invalidValue (.number n) "u32"))
    | .double _ => settled (reject (.invalidType (.number n) "u32"))
  match ← token with
  | none => failAhead .endOfValue
  | some '-' => do skip; accept (← number true)
  | some c => if (Text.digit? c).isSome then do accept (← number false) else wrongKind "u32"

def plainText : Reader String := do
  match ← token with
  | none => failAhead .endOfValue
  | some '"' => string
  | some _ => wrongKind "a string"

/-- An instant, written as a string. -/
def instant : Reader Instant := do
  match ← token with
  | none => failAhead .endOfValue
  | some '"' => do
    match Instant.parse (← string) with
    | .ok t => pure t
    | .error flaw => settled (reject (.unreadable flaw.text))
  | some _ => wrongKind "an RFC 3339 formatted date and time string"

/-- A field that must be there. -/
def required {α : Type} (name : String) : Option α → Reader α
  | some a => pure a
  | none => reject (.missingField name)

/-- The fields of an entry read so far. -/
structure EntryFields where
  etag : Option String := none
  bodyFile : Option String := none
  storedAt : Option Instant := none

def entryField (fields : EntryFields) (name : String) : Reader EntryFields := do
  if name = "etag" then
    if fields.etag.isSome then reject (.duplicateField name)
    colon
    return { fields with etag := some (← plainText) }
  else if name = "body_file" then
    if fields.bodyFile.isSome then reject (.duplicateField name)
    colon
    return { fields with bodyFile := some (← plainText) }
  else if name = "stored_at" then
    if fields.storedAt.isSome then reject (.duplicateField name)
    colon
    return { fields with storedAt := some (← instant) }
  else
    colon
    ignore
    return fields

def entry : Reader IndexEntry := do
  let wanted := "struct IndexEntry"
  let short (n : Nat) : Reader Unit := reject (.invalidLength n (wanted ++ " with 3 elements"))
  match ← token with
  | none => failAhead .endOfValue
  | some '[' => bracketed do
      if !(← hasItem true) then short 0
      let etag ← plainText
      if !(← hasItem false) then short 1
      let bodyFile ← plainText
      if !(← hasItem false) then short 2
      let storedAt ← instant
      return ⟨etag, bodyFile, storedAt⟩
  | some '\x7b' => braced do
      let fields ← eachMember entryField {}
      let etag ← required "etag" fields.etag
      let bodyFile ← required "body_file" fields.bodyFile
      let storedAt ← required "stored_at" fields.storedAt
      return ⟨etag, bodyFile, storedAt⟩
  | some _ => wrongKind wanted

/-- The entries; of two for one URI the later wins. -/
def entries : Reader Index := do
  match ← token with
  | none => failAhead .endOfValue
  | some '\x7b' => braced (eachMember (fun index uri => do
      colon
      return index.insert uri (← entry)) Table.empty)
  | some _ => wrongKind "a map"

/-- The fields of an index read so far. -/
structure IndexFields where
  version : Option Nat := none
  entries : Option Index := none

def indexField (fields : IndexFields) (name : String) : Reader IndexFields := do
  if name = "version" then
    if fields.version.isSome then reject (.duplicateField name)
    colon
    return { fields with version := some (← word32) }
  else if name = "entries" then
    if fields.entries.isSome then reject (.duplicateField name)
    colon
    return { fields with entries := some (← entries) }
  else
    colon
    ignore
    return fields

/-- A version and the entries, of which there need not be any. -/
def versioned : Reader (Nat × Index) := do
  let wanted := "struct IndexFile"
  match ← token with
  | none => failAhead .endOfValue
  | some '[' => bracketed do
      if !(← hasItem true) then reject (.invalidLength 0 (wanted ++ " with 2 elements"))
      let version ← word32
      let index ← if ← hasItem false then entries else pure Table.empty
      return (version, index)
  | some '\x7b' => braced do
      let fields ← eachMember indexField {}
      let version ← required "version" fields.version
      return (version, fields.entries.getD Table.empty)
  | some _ => wrongKind wanted

def parse (text : String) : Except IndexFlaw Index :=
  match versioned.whole text with
  | .error complaint => .error (.unreadable complaint)
  | .ok (v, index) => if v = version then .ok index else .error (.unsupportedVersion v)

end Index

end ConditionalGet
