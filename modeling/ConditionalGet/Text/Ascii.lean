/-!
# ASCII letters

Header names, link relations and log levels are compared without regard to the case of ASCII
letters; all other characters count as they are.
-/

set_option autoImplicit false

namespace ConditionalGet.Text

/-- The text with its ASCII capitals turned into small letters. -/
def lower (s : String) : String := String.ofList (s.toList.map Char.toLower)

/-- Whether two texts agree up to the case of ASCII letters. -/
def sameLetters (a b : String) : Bool := lower a == lower b

theorem sameLetters_iff {a b : String} : sameLetters a b ↔ lower a = lower b := by
  simp [sameLetters]

@[simp] theorem sameLetters_refl (a : String) : sameLetters a a = true := by
  simp [sameLetters]

theorem sameLetters_comm (a b : String) : sameLetters a b = sameLetters b a := by
  rw [Bool.eq_iff_iff, sameLetters_iff, sameLetters_iff, eq_comm]

/-- The value of a decimal digit. -/
def digit? (c : Char) : Option Nat :=
  if '0' ≤ c && c ≤ '9' then some (c.toNat - '0'.toNat) else none

/-- The value of a hexadecimal digit, in either case. -/
def hexDigit? (c : Char) : Option Nat :=
  if '0' ≤ c && c ≤ '9' then some (c.toNat - '0'.toNat)
  else if 'a' ≤ c && c ≤ 'f' then some (c.toNat - 'a'.toNat + 10)
  else if 'A' ≤ c && c ≤ 'F' then some (c.toNat - 'A'.toNat + 10)
  else none

/-- The hexadecimal digit of a value below sixteen, in small letters. -/
def hexDigit (n : Nat) : Char :=
  if n < 10 then Char.ofNat ('0'.toNat + n) else Char.ofNat ('a'.toNat + (n - 10))

/-- A number in hexadecimal, without leading zeros. -/
def hex (n : Nat) : List Char := (Nat.toDigits 16 n)

def hexByte (b : UInt8) : List Char := [hexDigit (b.toNat / 16), hexDigit (b.toNat % 16)]

/-- A number in decimal, with zeros in front up to `width` digits. -/
def padded (width n : Nat) : List Char :=
  let digits := Nat.toDigits 10 n
  List.replicate (width - digits.length) '0' ++ digits

end ConditionalGet.Text
