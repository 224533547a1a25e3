import ConditionalGet.Instant
import ConditionalGet.Toml.Value

/-!
# Numbers, truth values and dates of TOML

The values that are written without quotes or brackets.
-/

set_option autoImplicit false

namespace ConditionalGet.Toml

open Decimal Text

/-! ## Numbers -/

/-- The digits of a text, between any two of which one underline may stand. -/
def digitRun? (isDigit : Char → Bool) : List Char → Option (List Char)
  | [] => none
  | [c] => if isDigit c then some [c] else none
  | c :: '_' :: rest => if isDigit c then (digitRun? isDigit rest).map (c :: ·) else none
  | c :: d :: rest => if isDigit c then (digitRun? isDigit (d :: rest)).map (c :: ·) else none

def ofDigits (base : Nat) (cs : List Char) : Nat :=
  cs.foldl (fun n c => n * base + (hexDigit? c).getD 0) 0

def isDigitOf (base : Nat) (c : Char) : Bool := (hexDigit? c).any (· < base)

/-- Decimal digits without needless zeros in front. -/
def decimalRun? (cs : List Char) : Option (List Char) := do
  let digits ← digitRun? (isDigitOf 10) cs
  if 1 < digits.length && digits.head? = some '0' then none else some digits

/-- A sign in front, and the text after it. -/
def cutSign : List Char → Bool × List Char
  | '-' :: rest => (true, rest)
  | '+' :: rest => (false, rest)
  | cs => (false, cs)

/-- A whole number: decimal with a sign, or hexadecimal, octal or binary behind a mark. -/
def integer? (cs : List Char) : Option Int :=
  let inBase (base : Nat) (digits : List Char) : Option Int :=
    (digitRun? (isDigitOf base) digits).map fun ds => Int.ofNat (ofDigits base ds)
  match cs with
  | '0' :: 'x' :: digits => inBase 16 digits
  | '0' :: 'o' :: digits => inBase 8 digits
  | '0' :: 'b' :: digits => inBase 2 digits
  | _ =>
    let (negative, digits) := cutSign cs
    (decimalRun? digits).map fun ds =>
      if negative then -Int.ofNat (ofDigits 10 ds) else Int.ofNat (ofDigits 10 ds)

/-- No double has its first digit at a higher decimal place. -/
def highestPlace : Int := 310

/-- Whatever has its first digit below this decimal place is nearest to zero. -/
def lowestPlace : Int := -330

/-- The double nearest to `digits · 10 ^ exponent`. -/
def fractionalOf (negative : Bool) (digits : List Char) (exponent : Int) : Fractional :=
  let digits := digits.dropWhile (· = '0')
  let place := Int.ofNat digits.length + exponent
  if digits.isEmpty || place < lowestPlace then .finite ⟨negative, .zero⟩
  else if highestPlace < place then .beyond
  else
    match Magnitude.ofDecimal? (ofDigits 10 digits) exponent with
    | some x => .finite ⟨negative, x⟩
    | none => .beyond

/-- A number with a point, with an exponent or with both, or a name for one. -/
def fractional? (cs : List Char) : Option Fractional := do
  let (negative, cs) := cutSign cs
  if cs = ['i', 'n', 'f'] then return .infinite negative
  if cs = ['n', 'a', 'n'] then return .nan
  let isMark (c : Char) : Bool := c = 'e' || c = 'E'
  let mantissa := cs.takeWhile (!isMark ·)
  let exponent ←
    match cs.dropWhile (!isMark ·) with
    | [] => pure 0
    | _ :: rest =>
      let (negative, digits) := cutSign rest
      let n := ofDigits 10 (← digitRun? (isDigitOf 10) digits)
      pure (if negative then -Int.ofNat n else Int.ofNat n)
  let whole ← decimalRun? (mantissa.takeWhile (· ≠ '.'))
  match mantissa.dropWhile (· ≠ '.') with
  | [] => if mantissa.length < cs.length then some (fractionalOf negative whole exponent) else none
  | _ :: rest =>
    let places ← digitRun? (isDigitOf 10) rest
    some (fractionalOf negative (whole ++ places) (exponent - Int.ofNat places.length))

/-! ## Dates -/

/-- The number of `count` decimal digits, and the text after it. -/
def digits? (count : Nat) (cs : List Char) : Option (Nat × List Char) :=
  let ds := cs.take count
  if ds.length = count && ds.all (isDigitOf 10) then some (ofDigits 10 ds, cs.drop count) else none

/-- The text after a given character. -/
def after? (c : Char) : List Char → Option (List Char)
  | d :: rest => if d = c then some rest else none
  | [] => none

/-- The text after a day of the calendar. -/
def afterDate? (cs : List Char) : Option (List Char) := do
  let (year, cs) ← digits? 4 cs
  let (month, cs) ← digits? 2 (← after? '-' cs)
  let (day, cs) ← digits? 2 (← after? '-' cs)
  if isDate (Int.ofNat year) month day then some cs else none

/-- The text after a time of day; seconds may be left out. -/
def afterTime? (cs : List Char) : Option (List Char) := do
  let (hour, cs) ← digits? 2 cs
  let (minute, cs) ← digits? 2 (← after? ':' cs)
  if !isTime hour minute 0 0 then none
  else
    match cs with
    | ':' :: rest => do
      let (second, cs) ← digits? 2 rest
      if !isTime hour minute second 0 then none
      else
        match cs with
        | '.' :: places =>
          let rest := places.dropWhile (isDigitOf 10)
          if rest.length < places.length then some rest else none
        | _ => some cs
    | _ => some cs

/-- Whether a text is an offset from UTC. -/
def isOffset (cs : List Char) : Bool :=
  match cs with
  | ['Z'] | ['z'] => true
  | sign :: rest =>
    (sign = '+' || sign = '-') &&
      ((do
        let (hour, cs) ← digits? 2 rest
        let (minute, cs) ← digits? 2 (← after? ':' cs)
        return cs.isEmpty && hour < 24 && minute < 60) : Option Bool).getD false
  | [] => false

/-- Whether a text is a date, a time of day, or a date and a time with or without an offset. -/
def isMoment (cs : List Char) : Bool :=
  match afterDate? cs with
  | some [] => true
  | some (mark :: rest) =>
    (mark = 'T' || mark = 't' || mark = ' ') &&
      match afterTime? rest with
      | some rest => rest.isEmpty || isOffset rest
      | none => false
  | none => afterTime? cs = some []

/-! ## Values -/

/-- The value of a text without quotes and brackets. -/
def scalar? (cs : List Char) : Option Value :=
  if cs = ['t', 'r', 'u', 'e'] then some (.boolean true)
  else if cs = ['f', 'a', 'l', 's', 'e'] then some (.boolean false)
  else
    match integer? cs with
    | some i => some (.integer i)
    | none =>
      match fractional? cs with
      | some r => some (.float r)
      | none => if isMoment cs then some .moment else none

end ConditionalGet.Toml
