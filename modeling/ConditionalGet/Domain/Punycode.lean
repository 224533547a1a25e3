import ConditionalGet.Text.Ascii

/-!
# Punycode

Any text as ASCII letters, digits and hyphens. Its ASCII characters come first; each other
character is a number that says how far to count on, over places and code points together, from the
character inserted before. A number is written with digits of base 36, the lowest first; the
digit that ends it lies below a threshold that adapts to the numbers written so far.
-/

set_option autoImplicit false

namespace ConditionalGet.Punycode

/-! ## Digits -/

/-- The letter or digit for a value below 36. -/
def digitChar (n : Nat) : Char :=
  if n < 26 then Char.ofNat (97 + n) else Char.ofNat (48 + (n - 26))

def digitValue? (c : Char) : Option Nat :=
  if 'a' ≤ c && c ≤ 'z' then some (c.toNat - 97)
  else if 'A' ≤ c && c ≤ 'Z' then some (c.toNat - 65)
  else if '0' ≤ c && c ≤ '9' then some (c.toNat - 48 + 26)
  else none

theorem digitValue?_digitChar {n : Nat} (h : n < 36) : digitValue? (digitChar n) = some n := by
  have all : ∀ m ∈ List.range 36, digitValue? (digitChar m) = some m := by decide
  exact all n (List.mem_range.mpr h)

/-- The threshold of the digit at a position, which counts in steps of 36 from 36 on. -/
def threshold (position bias : Nat) : Nat := min 26 (max 1 (position - bias))

theorem threshold_pos (position bias : Nat) : 1 ≤ threshold position bias := by
  unfold threshold
  omega

/-- Divides by 35 until at most 455 is left: how often 36 was counted, and what is left. -/
def scaled (n counted : Nat) : Nat × Nat :=
  if 455 < n then scaled (n / 35) (counted + 36) else (counted, n)
termination_by n
decreasing_by omega

/-- The bias after a number, when so many characters are written. -/
def adapt (number characters : Nat) (first : Bool) : Nat :=
  let n := if first then number / 700 else number / 2
  let (counted, rest) := scaled (n + n / characters) 0
  counted + 36 * rest / (rest + 38)

/-! ## Writing -/

/-- The digits of a number from a position on. -/
def numberChars (bias position n : Nat) : List Char :=
  let t := threshold position bias
  if n < t then [digitChar n]
  else digitChar (t + (n - t) % (36 - t)) :: numberChars bias (position + 36) ((n - t) / (36 - t))
termination_by n
decreasing_by
  have := threshold_pos position bias
  have := Nat.div_le_self (n - threshold position bias) (36 - threshold position bias)
  omega

/-- What is written so far, the number counted so far, the bias, and how many characters are
written. -/
structure Writer where
  output : List Char
  delta : Nat
  bias : Nat
  written : Nat
  first : Bool

namespace Writer

/-- Comes to one character of the text while those of code point `m` are written: a lower one
counts as a place. -/
def meet (m : Nat) (w : Writer) (c : Char) : Writer :=
  if c.toNat < m then { w with delta := w.delta + 1 }
  else if c.toNat = m then
    { output := w.output ++ numberChars w.bias 36 w.delta
      delta := 0
      bias := adapt w.delta (w.written + 1) w.first
      written := w.written + 1
      first := false }
  else w

/-- Writes the characters of each code point in turn, the next possible one being `n`. -/
def writeAll (text : List Char) : List Nat → Nat → Writer → Writer
  | [], _, w => w
  | m :: ms, n, w =>
    let counted := { w with delta := w.delta + (m - n) * (w.written + 1) }
    let w := text.foldl (meet m) counted
    writeAll text ms (m + 1) { w with delta := w.delta + 1 }

end Writer

/-- The text as letters, digits and hyphens. -/
def encode (text : List Char) : List Char :=
  let basic := text.filter (·.toNat < 128)
  let others := ((text.map Char.toNat).filter (128 ≤ ·)).mergeSort.eraseDups
  let start : Writer := ⟨[], 0, 72, basic.length, true⟩
  (if basic.isEmpty then [] else basic ++ ['-']) ++ (Writer.writeAll text others 128 start).output

/-! ## Reading -/

/-- The text read so far, the code point and the place reached, the bias, and of the number being
read the place where it started, the weight of its next digit and the position of that digit. -/
structure State where
  output : List Char
  codePoint : Nat
  place : Nat
  bias : Nat
  start : Nat
  weight : Nat
  position : Nat

namespace State

/-- Whether no number is being read. -/
def between (s : State) : Bool := s.position = 36

/-- Reads one digit; none if what it makes is no character. -/
def step (s : State) (digit : Nat) : Option State :=
  let place := s.place + digit * s.weight
  let t := threshold s.position s.bias
  if t ≤ digit then
    some { s with place := place, weight := s.weight * (36 - t), position := s.position + 36 }
  else
    let length := s.output.length + 1
    let codePoint := s.codePoint + place / length
    let spot := place % length
    if h : codePoint.isValidChar then
      some
        { output := s.output.take spot ++ [Char.ofNatAux codePoint h] ++ s.output.drop spot
          codePoint := codePoint
          place := spot + 1
          bias := adapt (place - s.start) length (s.start = 0)
          start := spot + 1
          weight := 1
          position := 36 }
    else none

/-- Reads all digits. -/
def run : State → List Char → Option State
  | s, [] => some s
  | s, c :: cs =>
    match digitValue? c with
    | none => none
    | some d =>
      match s.step d with
      | none => none
      | some s => run s cs

end State

/-- The text that letters, digits and hyphens stand for. -/
def decode? (cs : List Char) : Option (List Char) := do
  let digits := (cs.reverse.takeWhile (· ≠ '-')).reverse
  let basic := cs.take (cs.length - digits.length - 1)
  let digits := if basic.isEmpty then cs else digits
  let s ← State.run ⟨basic, 128, 0, 72, 0, 1, 36⟩ digits
  if s.between && basic.all (·.toNat < 128) then some s.output else none

end ConditionalGet.Punycode
