import ConditionalGet.Text.Ascii

/-!
# Instants

A moment by its civil date and time in UTC, to the nanosecond. A minute may have a sixtieth
second. `Instant.text` writes an instant with as many digits of a second as it needs, in groups of
three.
-/

set_option autoImplicit false

namespace ConditionalGet

/-! ## Dates -/

/-- Whether a year has a 29th of February. -/
def isLeapYear (year : Int) : Bool := year % 4 = 0 && (year % 100 ≠ 0 || year % 400 = 0)

def daysInMonth (year : Int) (month : Nat) : Nat :=
  match month with
  | 4 | 6 | 9 | 11 => 30
  | 2 => if isLeapYear year then 29 else 28
  | _ => 31

/-- The first year that dates are kept for. -/
def firstYear : Int := -262143

/-- The last year that dates are kept for. -/
def lastYear : Int := 262142

def isDate (year : Int) (month day : Nat) : Bool :=
  firstYear ≤ year && year ≤ lastYear && 1 ≤ month && month ≤ 12 && 1 ≤ day &&
    day ≤ daysInMonth year month

/-- A day of the calendar. -/
structure Date where
  year : Int
  month : Nat
  day : Nat
  valid : isDate year month day = true
  deriving DecidableEq

namespace Date

/-- The day with these numbers, if there is one. -/
def ofParts? (year : Int) (month day : Nat) : Option Date :=
  if h : isDate year month day = true then some ⟨year, month, day, h⟩ else none

/-- The day after. -/
def next? (d : Date) : Option Date :=
  if d.day < daysInMonth d.year d.month then ofParts? d.year d.month (d.day + 1)
  else if d.month < 12 then ofParts? d.year (d.month + 1) 1
  else ofParts? (d.year + 1) 1 1

/-- The day before. -/
def previous? (d : Date) : Option Date :=
  if 1 < d.day then ofParts? d.year d.month (d.day - 1)
  else if 1 < d.month then ofParts? d.year (d.month - 1) (daysInMonth d.year (d.month - 1))
  else ofParts? (d.year - 1) 12 31

end Date

/-! ## Instants -/

/-- Whether there is such a time of day. -/
def isTime (hour minute second nanos : Nat) : Bool :=
  hour < 24 && minute < 60 && second ≤ 60 && nanos < 1000000000

/-- A moment in UTC. -/
structure Instant where
  date : Date
  hour : Nat
  minute : Nat
  second : Nat
  nanos : Nat
  valid : isTime hour minute second nanos = true
  deriving DecidableEq

namespace Instant

open Text

/-- The moment with these numbers, if there is one. -/
def ofParts? (date : Date) (hour minute second nanos : Nat) : Option Instant :=
  if h : isTime hour minute second nanos = true then some ⟨date, hour, minute, second, nanos, h⟩
  else none

/-- The moment that reads `date` and the given time where clocks are `offset` minutes ahead of UTC,
less than a day. -/
def ofLocal? (date : Date) (hour minute second nanos : Nat) (offset : Int) : Option Instant := do
  let minutes : Int := Int.ofNat (hour * 60 + minute) - offset
  let day ←
    if minutes < 0 then date.previous?
    else if 1440 ≤ minutes then date.next?
    else some date
  let m := (minutes % 1440).toNat
  ofParts? day (m / 60) (m % 60) second nanos

/-- A year: four digits, or more with a sign. -/
def yearChars (year : Int) : List Char :=
  if 0 ≤ year && year ≤ 9999 then padded 4 year.toNat
  else if 0 ≤ year then '+' :: padded 4 year.toNat
  else '-' :: padded 4 (-year).toNat

/-- The fraction of a second: nothing, or three, six or nine digits after a point. -/
def fractionChars (nanos : Nat) : List Char :=
  if nanos = 0 then []
  else if nanos % 1000000 = 0 then '.' :: padded 3 (nanos / 1000000)
  else if nanos % 1000 = 0 then '.' :: padded 6 (nanos / 1000)
  else '.' :: padded 9 nanos

/-- Date and time without a zone. -/
def chars (t : Instant) : List Char :=
  yearChars t.date.year ++ ['-'] ++ padded 2 t.date.month ++ ['-'] ++ padded 2 t.date.day ++
    ['T'] ++ padded 2 t.hour ++ [':'] ++ padded 2 t.minute ++ [':'] ++ padded 2 t.second ++
    fractionChars t.nanos

/-- The text of an instant, its zone written `Z`. -/
def text (t : Instant) : String := String.ofList (t.chars ++ ['Z'])

/-- The text of an instant, its zone written as an offset. -/
def offsetText (t : Instant) : String :=
  String.ofList (t.chars ++ ['+', '0', '0', ':', '0', '0'])

/-! ## The count of seconds -/

/-- The day that lies `days` after the first of January 1970. -/
def dateOfDays (days : Int) : Option Date :=
  let z := days + 719468
  let era := z.fdiv 146097
  let doe := (z - era * 146097).toNat
  let yoe := (doe - doe / 1460 + doe / 36524 - doe / 146096) / 365
  let doy := doe - (365 * yoe + yoe / 4 - yoe / 100)
  let mp := (5 * doy + 2) / 153
  let day := doy - (153 * mp + 2) / 5 + 1
  let month := if mp < 10 then mp + 3 else mp - 9
  let year := Int.ofNat yoe + era * 400 + if month ≤ 2 then 1 else 0
  Date.ofParts? year month day

/-- The moment that lies `seconds` and `nanos` after the start of 1970. -/
def ofUnix? (seconds : Int) (nanos : Nat) : Option Instant := do
  let date ← dateOfDays (seconds.fdiv 86400)
  let s := (seconds.fmod 86400).toNat
  ofParts? date (s / 3600) (s / 60 % 60) (s % 60) nanos

end Instant

end ConditionalGet
