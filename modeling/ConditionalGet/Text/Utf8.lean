/-!
# Reading bytes as UTF-8

`decode?` accepts exactly the well-formed byte sequences. `decodeLossy` reads any bytes: each
longest ill-formed start of a character becomes one replacement character.
-/

set_option autoImplicit false

namespace ConditionalGet.Text

/-- The text of well-formed bytes. -/
def decode? (bytes : ByteArray) : Option String := String.fromUTF8? bytes

def encode (s : String) : ByteArray := s.toUTF8

def bytes (s : String) : List UInt8 := (encode s).data.toList

theorem decode?_encode (s : String) : decode? (encode s) = some s := by
  simp only [decode?, encode, String.fromUTF8?, String.toUTF8_eq_toByteArray, dif_pos s.isValidUTF8]
  rfl

theorem decode?_bytes (s : String) : decode? ⟨(bytes s).toArray⟩ = some s := decode?_encode s

theorem bytes_injective {s t : String} (h : bytes s = bytes t) : s = t := by
  have he : encode s = encode t := by
    apply ByteArray.ext
    exact Array.ext' h
  have hd := congrArg decode? he
  rw [decode?_encode, decode?_encode] at hd
  exact Option.some.inj hd

theorem bytes_append (s t : String) : bytes (s ++ t) = bytes s ++ bytes t := by
  simp [bytes, encode, String.toUTF8_eq_toByteArray, String.toByteArray_append]

/-- How many bytes follow a first byte, the bounds of the one right after it, and the payload of
the first byte. -/
def leadByte? (b : UInt8) : Option (Nat × UInt8 × UInt8 × Nat) :=
  if 0xC2 ≤ b && b ≤ 0xDF then some (1, 0x80, 0xBF, b.toNat - 0xC0)
  else if b = 0xE0 then some (2, 0xA0, 0xBF, 0)
  else if b = 0xED then some (2, 0x80, 0x9F, 0xD)
  else if 0xE1 ≤ b && b ≤ 0xEF then some (2, 0x80, 0xBF, b.toNat - 0xE0)
  else if b = 0xF0 then some (3, 0x90, 0xBF, 0)
  else if 0xF1 ≤ b && b ≤ 0xF3 then some (3, 0x80, 0xBF, b.toNat - 0xF0)
  else if b = 0xF4 then some (3, 0x80, 0x8F, 4)
  else none

/-- The character that stands for bytes that are no character. -/
def replacement : Char := '\uFFFD'

/-- What a lossy reader has before the next byte: nothing, or a character begun, of which `missing`
bytes are still to come, the next between `low` and `high`. -/
inductive Pending where
  | none
  | begun (missing : Nat) (low high : UInt8) (value : Nat)

/-- Reads on, from a state between two bytes. A byte that cannot continue the character begun ends
it with a replacement and is then read as a first byte. -/
def readLossy : Pending → List UInt8 → List Char
  | .none, [] => []
  | .begun .., [] => [replacement]
  | .none, b :: bs =>
    if b < 0x80 then Char.ofNat b.toNat :: readLossy .none bs
    else match leadByte? b with
      | some (n, low, high, v) => readLossy (.begun n low high v) bs
      | none => replacement :: readLossy .none bs
  | .begun missing low high v, b :: bs =>
    if low ≤ b && b ≤ high then
      let v := v * 64 + (b.toNat - 0x80)
      if missing ≤ 1 then Char.ofNat v :: readLossy .none bs
      else readLossy (.begun (missing - 1) 0x80 0xBF v) bs
    else if b < 0x80 then replacement :: Char.ofNat b.toNat :: readLossy .none bs
    else match leadByte? b with
      | some (n, low, high, v) => replacement :: readLossy (.begun n low high v) bs
      | none => replacement :: replacement :: readLossy .none bs

/-- The text of any bytes, ill-formed parts replaced. -/
def decodeLossy (bytes : List UInt8) : String := String.ofList (readLossy .none bytes)

end ConditionalGet.Text
