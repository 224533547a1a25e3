import ConditionalGet.Decimal.Double

/-!
# The fewest digits that read back

Of the decimals that round to a double, the one with the fewest digits is chosen, and of those
the nearest. For each number of digits the two neighbours of the value on that decimal grid are
tried; the first grid with a neighbour inside the rounding interval wins.
-/

set_option autoImplicit false

namespace ConditionalGet.Decimal

/-- `digits · 10 ^ exponent`. -/
structure Numeral where
  digits : Nat
  exponent : Int
  deriving DecidableEq, Repr

/-- What is chosen of two decimals equally near. -/
inductive Tie where
  | toEven
  | up
  deriving DecidableEq, Repr

namespace Numeral

/-- Cuts the zeros at the end of the digits. -/
def normalise : Nat → Numeral → Numeral
  | 0, d => d
  | fuel + 1, d =>
    if d.digits % 10 = 0 && d.digits ≠ 0 then normalise fuel ⟨d.digits / 10, d.exponent + 1⟩ else d

/-- Numerator and denominator of `num / den / 10 ^ k`. -/
def onGrid (num den : Nat) (k : Int) : Nat × Nat :=
  if 0 ≤ k then (num, den * Nat.pow 10 k.toNat) else (num * Nat.pow 10 (-k).toNat, den)

/-- The exponent of the first digit of `num / den`. -/
def leadingExponent (num den : Nat) : Int :=
  Int.ofNat (Nat.toDigits 10 (num * Nat.pow 10 400 / den)).length - 401

/-- The rounding interval of a double in quarters of its last place: both ends, and whether they
belong to it. Below a power of two the doubles stand twice as close. -/
def interval (x : Magnitude) : Nat × Nat × Bool :=
  let m := x.mantissa
  let isLeast := m = Magnitude.fullMantissa && Magnitude.leastExponent < x.exponent
  let low := if isLeast then 4 * m - 1 else 4 * m - 2
  (low, 4 * m + 2, m % 2 == 0)

/-- The decimal of `n` digits chosen for a positive double, if one rounds to it. -/
def withDigits? (tie : Tie) (x : Magnitude) (n : Nat) : Option Numeral :=
  let (num, den) := x.ratio
  let k := leadingExponent num den - Int.ofNat n + 1
  let (gn, gd) := onGrid num den k
  let q := gn / gd
  let (low, high, closed) := interval x
  -- the decimal `c` on the grid, compared with a bound of `b / (4 * mantissa)` times the value
  let above (c : Nat) : Bool :=
    let l := c * gd * (4 * x.mantissa); let r := low * gn
    if closed then r ≤ l else r < l
  let below (c : Nat) : Bool :=
    let l := c * gd * (4 * x.mantissa); let r := high * gn
    if closed then l ≤ r else l < r
  let lower := above q && q ≠ 0
  let upper := below (q + 1)
  let twice := 2 * (gn % gd)
  if lower && upper then
    if twice < gd then some ⟨q, k⟩
    else if twice = gd && tie = .toEven && q % 2 = 0 then some ⟨q, k⟩
    else some ⟨q + 1, k⟩
  else if lower then some ⟨q, k⟩
  else if upper then some ⟨q + 1, k⟩
  else none

/-- The shortest decimal that reads back as a double; zero is `0 · 10 ^ 0`. -/
def shortest (tie : Tie) (x : Magnitude) : Numeral :=
  if x.mantissa = 0 then ⟨0, 0⟩
  else
    match (List.range 17).findSome? fun i => withDigits? tie x (i + 1) with
    | some d => normalise 400 d
    | none => ⟨0, 0⟩

def digitChars (d : Numeral) : List Char := Nat.toDigits 10 d.digits

end Numeral

end ConditionalGet.Decimal
