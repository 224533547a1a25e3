import ConditionalGet.Decimal.Shortest
import ConditionalGet.Text.Ascii

/-!
# JSON values

A JSON value with integers kept apart from doubles, and its texts: `Value.compact` without any
white space and `Value.pretty` with one item a line. The members of an object stand in the order of
their names, each name once.
-/

set_option autoImplicit false

namespace ConditionalGet.Json

open Decimal

/-- A number: an integer of 64 bits, signed or not, or a double. -/
inductive Number where
  | integer (value : Int)
  | double (value : Double)
  deriving DecidableEq, Repr

inductive Value where
  | null
  | bool (value : Bool)
  | number (value : Number)
  | string (value : String)
  | array (items : List Value)
  | object (members : List (String × Value))

/-- Puts a member at its place in the order of names; of two with one name the later stays. -/
def insertMember (name : String) (value : Value) : List (String × Value) → List (String × Value)
  | [] => [(name, value)]
  | m :: rest =>
    if name < m.1 then (name, value) :: m :: rest
    else if name = m.1 then (name, value) :: rest
    else m :: insertMember name value rest

/-! ## Numbers as text -/

/-- How a double is written: positionally while its first digit stands at an exponent from -5 to
15, otherwise with an exponent that shows its sign; a whole number keeps one decimal place. -/
def doubleChars (x : Double) : List Char :=
  let d := Numeral.shortest .toEven x.magnitude
  let digits := d.digitChars
  let point : Int := Int.ofNat digits.length + d.exponent
  let body : List Char :=
    if x.magnitude.mantissa = 0 then ['0', '.', '0']
    else if 0 ≤ d.exponent && point ≤ 16 then
      digits ++ List.replicate d.exponent.toNat '0' ++ ['.', '0']
    else if 0 < point && point ≤ 16 then
      digits.take point.toNat ++ ['.'] ++ digits.drop point.toNat
    else if -5 < point && point ≤ 0 then
      ['0', '.'] ++ List.replicate (-point).toNat '0' ++ digits
    else
      let e := point - 1
      digits.take 1 ++ (if digits.length = 1 then [] else '.' :: digits.drop 1) ++ ['e'] ++
        (if 0 ≤ e then '+' :: Nat.toDigits 10 e.toNat else '-' :: Nat.toDigits 10 (-e).toNat)
  if x.negative then '-' :: body else body

/-- An integer in decimal. -/
def integerChars (i : Int) : List Char :=
  if 0 ≤ i then Nat.toDigits 10 i.toNat else '-' :: Nat.toDigits 10 (-i).toNat

def Number.chars : Number → List Char
  | .integer i => integerChars i
  | .double x => doubleChars x

/-! ## Strings as text -/

/-- How one character of a string is written. -/
def escaped (c : Char) : List Char :=
  if c = '"' then ['\\', '"']
  else if c = '\\' then ['\\', '\\']
  else if c = '\x08' then ['\\', 'b']
  else if c = '\t' then ['\\', 't']
  else if c = '\n' then ['\\', 'n']
  else if c = '\x0c' then ['\\', 'f']
  else if c = '\r' then ['\\', 'r']
  else if c.toNat < 0x20 then
    ['\\', 'u', '0', '0', Text.hexDigit (c.toNat / 16), Text.hexDigit (c.toNat % 16)]
  else [c]

/-- A string between double quotes. -/
def stringChars (s : String) : List Char := ['"'] ++ s.toList.flatMap escaped ++ ['"']

/-! ## Values as text -/

def joined (separator : List Char) : List (List Char) → List Char
  | [] => []
  | [x] => x
  | x :: y :: rest => x ++ separator ++ joined separator (y :: rest)

mutual

/-- The text without white space. -/
def Value.compactChars : Value → List Char
  | .null => ['n', 'u', 'l', 'l']
  | .bool true => ['t', 'r', 'u', 'e']
  | .bool false => ['f', 'a', 'l', 's', 'e']
  | .number n => n.chars
  | .string s => stringChars s
  | .array items => ['['] ++ joined [','] (compactItems items) ++ [']']
  | .object members => ['\x7b'] ++ joined [','] (compactMembers members) ++ ['\x7d']

/-- The texts of the items of an array. -/
def compactItems : List Value → List (List Char)
  | [] => []
  | v :: vs => v.compactChars :: compactItems vs

/-- The texts of the members of an object. -/
def compactMembers : List (String × Value) → List (List Char)
  | [] => []
  | m :: ms => (stringChars m.1 ++ [':'] ++ m.2.compactChars) :: compactMembers ms

end

/-- A new line, indented by two blanks for each level. -/
def newLine (level : Nat) : List Char := '\n' :: List.replicate (2 * level) ' '

mutual

/-- The text with one item a line, for a value that stands at a level of nesting. -/
def Value.prettyChars (level : Nat) : Value → List Char
  | .array [] => ['[', ']']
  | .array (v :: vs) =>
    ['['] ++ newLine (level + 1) ++
      joined (',' :: newLine (level + 1)) (prettyItems (level + 1) (v :: vs)) ++
      newLine level ++ [']']
  | .object [] => ['\x7b', '\x7d']
  | .object (m :: ms) =>
    ['\x7b'] ++ newLine (level + 1) ++
      joined (',' :: newLine (level + 1)) (prettyMembers (level + 1) (m :: ms)) ++ newLine level ++
      ['\x7d']
  | .null => ['n', 'u', 'l', 'l']
  | .bool true => ['t', 'r', 'u', 'e']
  | .bool false => ['f', 'a', 'l', 's', 'e']
  | .number n => n.chars
  | .string s => stringChars s

/-- The texts of the items of an array at a level. -/
def prettyItems (level : Nat) : List Value → List (List Char)
  | [] => []
  | v :: vs => v.prettyChars level :: prettyItems level vs

/-- The texts of the members of an object at a level. -/
def prettyMembers (level : Nat) : List (String × Value) → List (List Char)
  | [] => []
  | m :: ms => (stringChars m.1 ++ [':', ' '] ++ m.2.prettyChars level) :: prettyMembers level ms

end

/-- The text without white space. -/
def Value.compact (v : Value) : String := String.ofList v.compactChars

/-- The text with one item a line and two blanks of indentation a level. -/
def Value.pretty (v : Value) : String := String.ofList (v.prettyChars 0)

end ConditionalGet.Json
