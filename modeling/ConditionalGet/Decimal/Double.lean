/-!
# Doubles by their exact values

A finite binary floating-point number of 64 bits is `± mantissa · 2 ^ exponent` with a mantissa of
at most 53 bits. Arithmetic is exact on natural numbers and rounds once, to the nearest double and
to the even mantissa in the middle, as the hardware does.
-/

set_option autoImplicit false

namespace ConditionalGet.Decimal

/-- The natural number nearest to `num / den`, the even one in the middle. -/
def halfEven (num den : Nat) : Nat :=
  let q := num / den
  let twice := 2 * (num % den)
  if twice < den || (twice == den && q % 2 == 0) then q else q + 1

/-- A nonnegative finite double. -/
structure Magnitude where
  mantissa : Nat
  exponent : Int
  deriving DecidableEq, Repr

namespace Magnitude

/-- The exponent of the smallest doubles. -/
def leastExponent : Int := -1074

/-- The exponent of the largest doubles. -/
def greatestExponent : Int := 971

def zero : Magnitude := ⟨0, leastExponent⟩

/-- The least mantissa of 53 bits. -/
def fullMantissa : Nat := Nat.pow 2 52

/-- Numerator and denominator of the value. -/
def ratio (x : Magnitude) : Nat × Nat :=
  if 0 ≤ x.exponent then (x.mantissa * Nat.pow 2 x.exponent.toNat, 1)
  else (x.mantissa, Nat.pow 2 (-x.exponent).toNat)

/-- `num / den` divided by `2 ^ e`. -/
def shifted (num den : Nat) (e : Int) : Nat × Nat :=
  if 0 ≤ e then (num, den * Nat.pow 2 e.toNat) else (num * Nat.pow 2 (-e).toNat, den)

/-- The exponent at which `num / den` has a mantissa of 53 bits, or the least one. -/
def exponentFor (num den : Nat) : Int :=
  let e : Int := Int.ofNat num.log2 - Int.ofNat den.log2 - 52
  let (n, d) := shifted num den e
  max leastExponent (if n < d * fullMantissa then e - 1 else e)

/-- The double nearest to `num / den`, for a positive `den`; none beyond the largest. -/
def ofRatio? (num den : Nat) : Option Magnitude :=
  if num = 0 then some zero
  else
    let e := exponentFor num den
    let (n, d) := shifted num den e
    let m := halfEven n d
    let x : Magnitude := if m = 2 * fullMantissa then ⟨fullMantissa, e + 1⟩ else ⟨m, e⟩
    if x.exponent ≤ greatestExponent then some x else none

def ofNat? (n : Nat) : Option Magnitude := ofRatio? n 1

def mul? (x y : Magnitude) : Option Magnitude :=
  ofRatio? (x.ratio.1 * y.ratio.1) (x.ratio.2 * y.ratio.2)

/-- The quotient by a `y` above zero. -/
def div? (x y : Magnitude) : Option Magnitude :=
  ofRatio? (x.ratio.1 * y.ratio.2) (x.ratio.2 * y.ratio.1)

/-- The double nearest to a power of ten. -/
def powerOfTen? (n : Nat) : Option Magnitude := ofRatio? (Nat.pow 10 n) 1

/-- The double nearest to `digits · 10 ^ exponent`. -/
def ofDecimal? (digits : Nat) (exponent : Int) : Option Magnitude :=
  if 0 ≤ exponent then ofRatio? (digits * Nat.pow 10 exponent.toNat) 1
  else ofRatio? digits (Nat.pow 10 (-exponent).toNat)

end Magnitude

/-- A finite double with its sign; zero has both. -/
structure Double where
  negative : Bool
  magnitude : Magnitude
  deriving DecidableEq, Repr

end ConditionalGet.Decimal
