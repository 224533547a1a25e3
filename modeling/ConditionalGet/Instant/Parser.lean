import ConditionalGet.Instant
import ConditionalGet.Text.Blank

/-!
# Reading instants

Reads date, time and zone as `Instant.text` writes them, and with some freedom: blanks before each
number and each separator, a small letter or a blank for `T`, `UTC` for `Z`, offsets from UTC with
or without colon, and any number of digits of a second, of which nine count.
-/

set_option autoImplicit false

namespace ConditionalGet.Instant

open Text

/-- Why a text is no instant. -/
inductive Flaw where
  | outOfRange
  | impossible
  | invalid
  | tooShort
  | tooLong
  deriving DecidableEq, Repr

def Flaw.text : Flaw → String
  | .outOfRange => "input is out of range"
  | .impossible => "no possible date and time matching input"
  | .invalid => "input contains invalid characters"
  | .tooShort => "premature end of input"
  | .tooLong => "trailing input"

/-- The text without the blanks at its start. -/
def afterBlanks (cs : List Char) : List Char := cs.dropWhile isBlank

/-- The number that the first digits make, and the text after them. -/
def digits : Nat → List Char → Nat × List Char
  | n, [] => (n, [])
  | n, c :: cs =>
    match digit? c with
    | some d => digits (n * 10 + d) cs
    | none => (n, c :: cs)

/-- The greatest number that is told apart from what is out of range. -/
def greatestNumber : Nat := 9223372036854775807

/-- The number of at most `width` digits, at least one, that a text starts with. -/
def number (width : Nat) (cs : List Char) : Except Flaw (Nat × List Char) :=
  match cs with
  | [] => .error .tooShort
  | c :: _ =>
    if (digit? c).isNone then .error .invalid
    else
      let (n, rest) := digits 0 (cs.take width)
      if greatestNumber < n then .error .outOfRange else .ok (n, rest ++ cs.drop width)

/-- A number in a range, after blanks. -/
def bounded (least greatest : Nat) (cs : List Char) : Except Flaw (Nat × List Char) := do
  let (n, rest) ← number 2 (afterBlanks cs)
  if least ≤ n && n ≤ greatest then .ok (n, rest) else .error .outOfRange

/-- A year: up to four digits, or any number of digits after a sign. -/
def year (cs : List Char) : Except Flaw (Int × List Char) := do
  let cs := afterBlanks cs
  let (y, rest) ←
    match cs with
    | '-' :: after => (number after.length after).map fun (n, rest) => (-Int.ofNat n, rest)
    | '+' :: after => (number after.length after).map fun (n, rest) => (Int.ofNat n, rest)
    | _ => (number 4 cs).map fun (n, rest) => (Int.ofNat n, rest)
  if -2147483648 ≤ y && y < 2147483648 then .ok (y, rest) else .error .outOfRange

/-- Passes over a separator, after blanks. -/
def separator (c : Char) (cs : List Char) : Except Flaw (List Char) :=
  match afterBlanks cs with
  | [] => .error .tooShort
  | d :: rest => if d = c then .ok rest else .error .invalid

/-- The nanoseconds of a fraction, after the point: nine digits count. -/
def fraction (cs : List Char) : Except Flaw (Nat × List Char) := do
  let (n, rest) ← number 9 cs
  let read := cs.length - rest.length
  .ok (n * Nat.pow 10 (9 - read), rest.dropWhile fun c => (digit? c).isSome)

/-- The offset from UTC in minutes. -/
def offset (cs : List Char) : Except Flaw (Int × List Char) :=
  match cs with
  | 'Z' :: rest | 'z' :: rest => .ok (0, rest)
  | [] => .error .tooShort
  | sign :: rest => do
    let negative ←
      if sign = '+' then .ok false
      else if sign = '-' || sign = '−' then .ok true
      else .error .invalid
    let two (cs : List Char) : Except Flaw (Nat × Nat × List Char) :=
      match cs with
      | a :: b :: rest =>
        match digit? a, digit? b with
        | some a, some b => .ok (a, b, rest)
        | _, _ => .error .invalid
      | [c] => if c.utf8Size = 1 then .error .tooShort else .error .invalid
      | [] => .error .tooShort
    let (h1, h2, rest) ← two rest
    let (m1, m2, rest) ← two (rest.dropWhile fun c => c = ':' || isBlank c)
    if 6 ≤ m1 then .error .outOfRange
    else
      let minutes := Int.ofNat ((h1 * 10 + h2) * 60 + m1 * 10 + m2)
      .ok (if negative then -minutes else minutes, rest)

/-- The zone: an offset, or `UTC` in any case. -/
def zone (cs : List Char) : Except Flaw (Int × List Char) :=
  match cs with
  | a :: b :: c :: rest =>
    if a.toLower = 'u' && b.toLower = 't' && c.toLower = 'c' then .ok (0, rest) else offset cs
  | _ => offset cs

/-- The instant that a text gives. -/
def parse (s : String) : Except Flaw Instant := do
  let (year, cs) ← year s.toList
  let (month, cs) ← bounded 1 12 (← separator '-' cs)
  let (day, cs) ← bounded 1 31 (← separator '-' cs)
  let cs ←
    match cs with
    | 'T' :: rest | 't' :: rest | ' ' :: rest => .ok rest
    | _ :: _ => .error .invalid
    | [] => .error .tooShort
  let (hour, cs) ← bounded 0 23 cs
  let (minute, cs) ← bounded 0 59 (← separator ':' cs)
  let (second, cs) ← bounded 0 60 (← separator ':' cs)
  let (nanos, cs) ←
    match cs with
    | '.' :: rest => fraction rest
    | _ => .ok (0, cs)
  let (offset, cs) ← zone (afterBlanks cs)
  if !(afterBlanks cs).isEmpty then .error .tooLong
  else
    match Date.ofParts? year month day with
    | none => .error .outOfRange
    | some date =>
      if offset ≤ -1440 || 1440 ≤ offset then .error .outOfRange
      else
        match ofLocal? date hour minute second nanos offset with
        | none => .error .impossible
        | some t => .ok t

end ConditionalGet.Instant
