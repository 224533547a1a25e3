import ConditionalGet.Json.Fault

/-!
# Reading JSON texts

`Reader α` reads a prefix of the text that is left and gives an `α`, or a fault. This module has
the tokens (words, numbers, strings) and the punctuation of arrays and objects.
-/

set_option autoImplicit false

namespace ConditionalGet.Json

open Decimal

/-- Reads from the text that is left. -/
abbrev Reader (α : Type) := StateT (List Char) (Except Fault) α

namespace Reader

variable {α β σ : Type}

/-- A fault before the next byte. -/
def fail (reason : Reason) : Reader α := fun rest => .error ⟨reason, rest, 0, true⟩

/-- A fault that the next byte shows. -/
def failAhead (reason : Reason) : Reader α := fun rest => .error ⟨reason, rest, 1, true⟩

/-- A fault of the value being read as a whole. -/
def reject (reason : Reason) : Reader α := fun rest => .error ⟨reason, rest, 0, false⟩

/-- The next character, left in place. -/
def peek : Reader (Option Char) := fun rest => .ok (rest.head?, rest)

/-- Passes over the next character. -/
def skip : Reader Unit := fun rest => .ok ((), rest.drop 1)

/-- White space between tokens. -/
def isBlank (c : Char) : Bool := c = ' ' || c = '\n' || c = '\t' || c = '\r'

/-- The next character that is no white space, left in place. -/
def token : Reader (Option Char) := fun rest =>
  let rest := rest.dropWhile isBlank
  .ok (rest.head?, rest)

/-- Gives an unsettled fault its place: where reading stands once `close` has read the end of the
value, as far as it can. -/
def settle (close : Reader Unit) (body : Reader α) : Reader α := fun rest =>
  match body rest with
  | .ok (a, rest) =>
    match close rest with
    | .ok (_, rest) => .ok (a, rest)
    | .error f => .error f
  | .error f =>
    if f.settled then .error f
    else
      match close f.rest with
      | .ok (_, rest) => .error { f with rest := rest, settled := true }
      | .error g => .error { f with rest := g.rest, settled := true }

/-- Gives an unsettled fault of a simple value the place right after it. -/
def settled (body : Reader α) : Reader α := settle (pure ()) body

/-! ## Words -/

/-- Passes over the given characters. -/
def word : List Char → Reader Unit
  | [] => pure ()
  | c :: cs => do
    match ← peek with
    | none => fail .endOfValue
    | some d => if d = c then do skip; word cs else failAhead .expectedWord

/-! ## Numbers -/

/-- Adds decimal digits to a significand as long as it fits 64 bits: the significand, how many
digits were added, and the text after them. -/
def gather : Nat → Nat → List Char → Nat × Nat × List Char
  | significand, n, [] => (significand, n, [])
  | significand, n, c :: cs =>
    match Text.digit? c with
    | none => (significand, n, c :: cs)
    | some d =>
      if significand * 10 + d < 18446744073709551616 then gather (significand * 10 + d) (n + 1) cs
      else (significand, n, c :: cs)

/-- Passes over decimal digits and counts them. -/
def countDigits : Nat → List Char → Nat × List Char
  | n, [] => (n, [])
  | n, c :: cs => if (Text.digit? c).isSome then countDigits (n + 1) cs else (n, c :: cs)

/-- The greatest exponent that is told apart from larger ones. -/
def exponentLimit : Nat := 2147483647

/-- Adds digits to an exponent; `none` when it passes the limit, then with the text after the digit
that did it. -/
def gatherExponent : Nat → List Char → Option Nat × List Char
  | exponent, [] => (some exponent, [])
  | exponent, c :: cs =>
    match Text.digit? c with
    | none => (some exponent, c :: cs)
    | some d =>
      if exponent * 10 + d ≤ exponentLimit then gatherExponent (exponent * 10 + d) cs
      else (none, cs)

/-- A double times `10 ^ exponent`, in steps of at most 308 places, each rounded; none beyond the
largest double. -/
def scale : Nat → Magnitude → Int → Option Magnitude
  | 0, x, _ => some x
  | steps + 1, x, e =>
    if e.natAbs ≤ 308 then do
      let p ← Magnitude.powerOfTen? e.natAbs
      if 0 ≤ e then x.mul? p else x.div? p
    else if x.mantissa = 0 then some x
    else if 0 ≤ e then none
    else do
      let p ← Magnitude.powerOfTen? 308
      scale steps (← x.div? p) (e + 308)

def finishDouble (negative : Bool) (significand : Nat) (exponent : Int) : Reader Number :=
  match (Magnitude.ofNat? significand).bind fun x => scale 8 x exponent with
  | some x => pure (.double ⟨negative, x⟩)
  | none => fail .numberOutOfRange

/-- Reads on after the `e` of a number. -/
def exponentPart (negative : Bool) (significand : Nat) (start : Int) : Reader Number := do
  skip
  let down ← do
    match ← peek with
    | some '+' => do skip; pure false
    | some '-' => do skip; pure true
    | _ => pure false
  match ← peek with
  | none => fail .endOfValue
  | some c =>
    if (Text.digit? c).isNone then failAhead .invalidNumber
    else
      let (exponent, rest) := gatherExponent 0 (← get)
      set rest
      match exponent with
      | some e =>
        finishDouble negative significand
          (if down then start - Int.ofNat e else start + Int.ofNat e)
      | none =>
        if significand ≠ 0 && !down then fail .numberOutOfRange
        else do
          set (countDigits 0 rest).2
          pure (.double ⟨negative, Magnitude.zero⟩)

/-- The end of a number with a fraction or more digits than fit: an exponent part or nothing. -/
def doubleEnd (negative : Bool) (significand : Nat) (exponent : Int) : Reader Number := do
  match ← peek with
  | some 'e' | some 'E' => exponentPart negative significand exponent
  | _ => finishDouble negative significand exponent

/-- Reads on after the point of a number. Digits that no longer fit are dropped. -/
def fractionPart (negative : Bool) (significand : Nat) (start : Int) : Reader Number := do
  skip
  let text ← get
  let (significand, n, rest) := gather significand 0 text
  let (dropped, rest) := countDigits 0 rest
  set rest
  if n = 0 && dropped = 0 then
    match ← peek with
    | some _ => failAhead .invalidNumber
    | none => failAhead .endOfValue
  else doubleEnd negative significand (start - Int.ofNat n)

/-- An integer, or minus zero and what does not fit 64 bits as a double. -/
def wholeNumber (negative : Bool) (significand : Nat) : Reader Number :=
  if negative then
    if significand = 0 || 9223372036854775808 < significand then finishDouble true significand 0
    else pure (.integer (-Int.ofNat significand))
  else pure (.integer (Int.ofNat significand))

def number (negative : Bool) : Reader Number := do
  match ← peek with
  | none => fail .endOfValue
  | some c =>
    if (Text.digit? c).isNone then failAhead .invalidNumber
    else if c = '0' then do
      skip
      match ← peek with
      | some '.' => fractionPart negative 0 0
      | some 'e' | some 'E' => exponentPart negative 0 0
      | some d =>
        if (Text.digit? d).isSome then failAhead .invalidNumber else wholeNumber negative 0
      | none => wholeNumber negative 0
    else do
      let (significand, _, rest) := gather 0 0 (← get)
      let (dropped, rest) := countDigits 0 rest
      set rest
      match ← peek with
      | some '.' => fractionPart negative significand (Int.ofNat dropped)
      | some 'e' | some 'E' => exponentPart negative significand (Int.ofNat dropped)
      | _ =>
        if dropped = 0 then wholeNumber negative significand
        else finishDouble negative significand (Int.ofNat dropped)

/-! ## Strings -/

/-- The value of the four hexadecimal digits after `\u`. They are taken by bytes, so a fault stands
after four bytes whatever characters they belong to. -/
def fourDigits : Reader Nat := fun rest =>
  match rest with
  | a :: b :: c :: d :: after =>
    match Text.hexDigit? a, Text.hexDigit? b, Text.hexDigit? c, Text.hexDigit? d with
    | some a, some b, some c, some d => .ok (((a * 16 + b) * 16 + c) * 16 + d, after)
    | _, _, _, _ => .error ⟨.invalidEscape, rest, 4, true⟩
  | _ =>
    if byteLength rest < 4 then .error ⟨.endOfString, [], 0, true⟩
    else .error ⟨.invalidEscape, rest, 4, true⟩

/-- The second half of a character written as two escapes. -/
def secondHalf (first : Nat) : Reader Char := do
  match ← peek with
  | none => fail .endOfString
  | some '\\' => do
    skip
    match ← peek with
    | none => fail .endOfString
    | some 'u' => do
      skip
      let second ← fourDigits
      if 0xDC00 ≤ second && second ≤ 0xDFFF then
        pure (Char.ofNat ((first - 0xD800) * 0x400 + (second - 0xDC00) + 0x10000))
      else fail .loneSurrogate
    | some _ => failAhead .unfinishedPair
  | some _ => failAhead .unfinishedPair

/-- The character of an escape, from after the backslash on. -/
def escape : Reader Char := do
  match ← peek with
  | none => fail .endOfString
  | some c =>
    match c with
    | '"' => do skip; pure '"'
    | '\\' => do skip; pure '\\'
    | '/' => do skip; pure '/'
    | 'b' => do skip; pure '\x08'
    | 'f' => do skip; pure '\x0c'
    | 'n' => do skip; pure '\n'
    | 'r' => do skip; pure '\r'
    | 't' => do skip; pure '\t'
    | 'u' => do
      skip
      let n ← fourDigits
      if 0xDC00 ≤ n && n ≤ 0xDFFF then fail .loneSurrogate
      else if 0xD800 ≤ n && n ≤ 0xDBFF then secondHalf n
      else pure (Char.ofNat n)
    | _ => failAhead .invalidEscape

/-- The rest of a string after its opening quote; characters read so far are in reverse order. The
first argument bounds how many characters there can be. -/
def stringBody : Nat → List Char → Reader (List Char)
  | 0, _ => fail .endOfString
  | bound + 1, read => do
    match ← peek with
    | none => fail .endOfString
    | some '"' => do skip; pure read.reverse
    | some '\\' => do
      skip
      let c ← escape
      stringBody bound (c :: read)
    | some c =>
      if c.toNat < 0x20 then failAhead .controlCharacter
      else do skip; stringBody bound (c :: read)

/-- A string, from its opening quote on. -/
def string : Reader String := do
  skip
  let rest ← get
  return String.ofList (← stringBody (rest.length + 1) [])

/-! ## Arrays and objects -/

/-- Whether another item follows, and passes over the comma before it. -/
def hasItem (first : Bool) : Reader Bool := do
  match ← token with
  | none => failAhead .endOfList
  | some ']' => pure false
  | some c =>
    if first then pure true
    else if c = ',' then do
      skip
      match ← token with
      | some ']' => failAhead .trailingComma
      | some _ => pure true
      | none => failAhead .endOfValue
    else failAhead .expectedCommaInList

/-- Passes over the closing bracket of an array. -/
def closeArray : Reader Unit := do
  match ← token with
  | some ']' => skip
  | some ',' => do
    skip
    match ← token with
    | some ']' => failAhead .trailingComma
    | _ => failAhead .trailingCharacters
  | some _ => failAhead .trailingCharacters
  | none => failAhead .endOfList

/-- Whether another member follows, and passes over the comma before it. -/
def hasMember (first : Bool) : Reader Bool := do
  match ← token with
  | none => failAhead .endOfObject
  | some '\x7d' => pure false
  | some c =>
    if first then
      if c = '"' then pure true else failAhead .keyIsNoString
    else if c = ',' then do
      skip
      match ← token with
      | some '"' => pure true
      | some '\x7d' => failAhead .trailingComma
      | some _ => failAhead .keyIsNoString
      | none => failAhead .endOfValue
    else failAhead .expectedCommaInObject

/-- Passes over the colon between a name and its value. -/
def colon : Reader Unit := do
  match ← token with
  | some ':' => skip
  | some _ => failAhead .expectedColon
  | none => failAhead .endOfObject

/-- Passes over the closing brace of an object. -/
def closeObject : Reader Unit := do
  match ← token with
  | some '\x7d' => skip
  | some ',' => failAhead .trailingComma
  | some _ => failAhead .trailingCharacters
  | none => failAhead .endOfObject

/-- Reads the items of an array one after another, from after its opening bracket. The first
argument bounds how many there can be. -/
def foldItems (step : σ → Reader σ) : Nat → Bool → σ → Reader σ
  | 0, _, _ => fail .endOfList
  | bound + 1, first, s => do
    if ← hasItem first then foldItems step bound false (← step s) else pure s

/-- Reads the members of an object one after another, from after its opening brace. Each step gets
the name and reads the rest from the colon on. -/
def foldMembers (step : σ → String → Reader σ) : Nat → Bool → σ → Reader σ
  | 0, _, _ => fail .endOfObject
  | bound + 1, first, s => do
    if ← hasMember first then
      let name ← string
      foldMembers step bound false (← step s name)
    else pure s

/-- What stands between the brackets of an array, from the opening one on. -/
def bracketed (body : Reader α) : Reader α := do
  skip
  settle closeArray body

/-- What stands between the braces of an object, from the opening one on. -/
def braced (body : Reader α) : Reader α := do
  skip
  settle closeObject body

/-- All items of an array, from after its opening bracket. -/
def eachItem (step : σ → Reader σ) (start : σ) : Reader σ := do
  let rest ← get
  foldItems step (rest.length + 1) true start

/-- All members of an object, from after its opening brace. -/
def eachMember (step : σ → String → Reader σ) (start : σ) : Reader σ := do
  let rest ← get
  foldMembers step (rest.length + 1) true start

/-- Reads what stands where a value of the kind `wanted` should and complains about its kind. -/
def wrongKind (wanted : String) : Reader α := do
  match ← peek with
  | some 'n' => do word ['n', 'u', 'l', 'l']; settled (reject (.invalidType .null wanted))
  | some 't' => do
    word ['t', 'r', 'u', 'e']
    settled (reject (.invalidType (.bool true) wanted))
  | some 'f' => do
    word ['f', 'a', 'l', 's', 'e']
    settled (reject (.invalidType (.bool false) wanted))
  | some '-' => do
    skip
    let n ← number true
    settled (reject (.invalidType (.number n) wanted))
  | some '"' => do
    let s ← string
    settled (reject (.invalidType (.string s) wanted))
  | some '[' => settled (reject (.invalidType .sequence wanted))
  | some '\x7b' => settled (reject (.invalidType .map wanted))
  | some c =>
    if (Text.digit? c).isSome then do
      let n ← number false
      settled (reject (.invalidType (.number n) wanted))
    else failAhead .expectedValue
  | none => failAhead .expectedValue

def whole (body : Reader α) (text : String) : Except Complaint α :=
  let chars := text.toList
  let all : Reader α := do
    let a ← settled body
    match ← token with
    | some _ => failAhead .trailingCharacters
    | none => pure a
  match all chars with
  | .ok (a, _) => .ok a
  | .error f => .error (f.complaint chars)

end Reader

end ConditionalGet.Json
