import ConditionalGet.Text.Ascii
import ConditionalGet.Text.Utf8

/-!
# Percent encoding

A byte may be written as a percent sign and two hexadecimal digits. Which characters must be
written so differs from part to part of a URL; those beyond ASCII always are.
-/

set_option autoImplicit false

namespace ConditionalGet.Percent

/-- Controls and whatever is not ASCII. -/
def inOpaque (c : Char) : Bool := c.toNat < 0x20 || 0x7F ≤ c.toNat

/-- What is encoded in a fragment. -/
def inFragment (c : Char) : Bool := inOpaque c || [' ', '"', '<', '>', '\x60'].contains c

/-- What is encoded in a path. -/
def inPath (c : Char) : Bool := inFragment c || ['#', '?', '\x7b', '\x7d'].contains c

/-- What is encoded in a user name or a password. -/
def inUser (c : Char) : Bool :=
  inPath c || ['/', ':', ';', '=', '@', '[', '\\', ']', '^', '|'].contains c

/-- What is encoded in a query. -/
def inQuery (c : Char) : Bool := inOpaque c || [' ', '"', '#', '<', '>'].contains c

/-- What is encoded in the query of a well-known scheme. -/
def inKnownQuery (c : Char) : Bool := inQuery c || c = '\x27'

/-- One byte, encoded in capitals. -/
def byteChars (b : UInt8) : List Char := '%' :: (Text.hexByte b).map Char.toUpper

/-- A text with the characters of a set encoded. -/
def encode (set : Char → Bool) (cs : List Char) : List Char :=
  cs.flatMap fun c => if set c then (Text.bytes (String.ofList [c])).flatMap byteChars else [c]

/-- The bytes of a text in which bytes may be encoded; a percent sign without two digits stands for
itself. -/
def decode : List UInt8 → List UInt8
  | [] => []
  | 0x25 :: a :: b :: rest =>
    match Text.hexDigit? (Char.ofNat a.toNat), Text.hexDigit? (Char.ofNat b.toNat) with
    | some x, some y => UInt8.ofNat (x * 16 + y) :: decode rest
    | _, _ => 0x25 :: decode (a :: b :: rest)
  | a :: rest => a :: decode rest

end ConditionalGet.Percent
