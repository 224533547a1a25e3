import ConditionalGet.Json.Reader

/-!
# Values that nobody asked for

Passes over a value without keeping it. Its tokens are checked, but numbers may be of any size,
escaped surrogates may stand alone, and nesting is not limited.
-/

set_option autoImplicit false

namespace ConditionalGet.Json.Reader

/-- Passes over the digits, of which there must be one, after a point or an exponent mark. -/
def skipDigits : Reader Unit := do
  match ← peek with
  | some c =>
    if (Text.digit? c).isSome then set (countDigits 0 (← get)).2 else failAhead .invalidNumber
  | none => failAhead .invalidNumber

/-- Passes over an exponent, if there is one. -/
def skipExponent : Reader Unit := do
  match ← peek with
  | some 'e' | some 'E' => do
    skip
    match ← peek with
    | some '+' | some '-' => skip
    | _ => pure ()
    skipDigits
  | _ => pure ()

/-- Passes over a number from its first digit on. -/
def skipNumber : Reader Unit := do
  match ← peek with
  | some '0' => do
    skip
    match ← peek with
    | some c => if (Text.digit? c).isSome then failAhead .invalidNumber else pure ()
    | none => pure ()
  | _ => skipDigits
  match ← peek with
  | some '.' => do skip; skipDigits
  | _ => pure ()
  skipExponent

/-- Passes over an escape, from after the backslash on. -/
def skipEscape : Reader Unit := do
  match ← peek with
  | none => fail .endOfString
  | some 'u' => do
    skip
    let _ ← fourDigits
  | some c =>
    if ['"', '\\', '/', 'b', 'f', 'n', 'r', 't'].contains c then skip else failAhead .invalidEscape

/-- Passes over the rest of a string after its opening quote. -/
def skipStringBody : Nat → Reader Unit
  | 0 => fail .endOfString
  | bound + 1 => do
    match ← peek with
    | none => fail .endOfString
    | some '"' => skip
    | some '\\' => do skip; skipEscape; skipStringBody bound
    | some c =>
      if c.toNat < 0x20 then failAhead .controlCharacter else do skip; skipStringBody bound

/-- Passes over a string from its opening quote on. -/
def skipString : Reader Unit := do
  skip
  let rest ← get
  skipStringBody (rest.length + 1)

/-- An array or object that is open. -/
inductive Frame where
  | array
  | object
  deriving DecidableEq, Repr

/-- What comes next while passing over a value: a value inside the open frames, or what follows a
value in the innermost one, where a comma may be allowed. -/
inductive SkipPlace where
  | value (outer : List Frame)
  | rest (frame : Frame) (outer : List Frame) (comma : Bool)

/-- One step, from one place to the next; `none` after the last. -/
def skipStep : SkipPlace → Reader (Option SkipPlace)
  | .value outer => do
    let done : Option SkipPlace :=
      match outer with
      | [] => none
      | f :: fs => some (.rest f fs true)
    match ← token with
    | none => failAhead .endOfValue
    | some 'n' => do word ['n', 'u', 'l', 'l']; pure done
    | some 't' => do word ['t', 'r', 'u', 'e']; pure done
    | some 'f' => do word ['f', 'a', 'l', 's', 'e']; pure done
    | some '-' => do skip; skipNumber; pure done
    | some '"' => do skipString; pure done
    | some '[' => do skip; pure (some (.rest .array outer false))
    | some '\x7b' => do skip; pure (some (.rest .object outer false))
    | some c =>
      if (Text.digit? c).isSome then do skipNumber; pure done else failAhead .expectedValue
  | .rest frame outer comma => do
    let next : Reader (Option SkipPlace) := do
      if frame = .object then
        match ← token with
        | some '"' => skipString
        | some _ => failAhead .keyIsNoString
        | none => failAhead .endOfObject
        colon
      pure (some (.value (frame :: outer)))
    let close : Reader (Option SkipPlace) := do
      skip
      match outer with
      | [] => pure none
      | f :: fs => pure (some (.rest f fs true))
    match ← token, frame with
    | some ']', .array => close
    | some '\x7d', .object => close
    | some c, _ =>
      if comma then
        if c = ',' then do skip; next
        else failAhead (if frame = .array then .expectedCommaInList else .expectedCommaInObject)
      else next
    | none, .array => failAhead .endOfList
    | none, .object => failAhead .endOfObject

/-- Steps until the value ends, at most as often as the first argument says. -/
def skipFrom : Nat → SkipPlace → Reader Unit
  | 0, _ => fail .endOfValue
  | bound + 1, place => do
    match ← skipStep place with
    | some place => skipFrom bound place
    | none => pure ()

/-- Passes over a value. -/
def ignore : Reader Unit := do
  let rest ← get
  skipFrom (2 * rest.length + 2) (.value [])

end ConditionalGet.Json.Reader
