import ConditionalGet.Domain
import ConditionalGet.Url.Percent

/-!
# Hosts

Who a URL addresses: a domain name or an address of the internet protocol, version 4 or 6. The
texts of addresses have many forms; each has one in which it is written.
-/

set_option autoImplicit false

namespace ConditionalGet

open Text

/-- The host of a URL. An empty one stands where a scheme gets along without. -/
inductive Host where
  | empty
  | domain (name : String)
  | ipv4 (address : UInt32)
  /-- Eight groups of sixteen bits. -/
  | ipv6 (groups : List Nat)
  deriving DecidableEq, Repr

inductive UrlFlaw where
  | emptyHost
  | invalidDomain
  | invalidPort
  | invalidIpv4
  | invalidIpv6
  | invalidHostCharacter
  /-- A relative reference stands alone. -/
  | noBase
  /-- A relative reference stands against a URL that has no hierarchy. -/
  | opaqueBase
  deriving DecidableEq, Repr

def UrlFlaw.text : UrlFlaw → String
  | .emptyHost => "empty host"
  | .invalidDomain => "invalid international domain name"
  | .invalidPort => "invalid port number"
  | .invalidIpv4 => "invalid IPv4 address"
  | .invalidIpv6 => "invalid IPv6 address"
  | .invalidHostCharacter => "invalid domain character"
  | .noBase => "relative URL without a base"
  | .opaqueBase => "relative URL with a cannot-be-a-base base"

namespace Host

/-! ## Version 4 -/

def numberOf? (base : Nat) (cs : List Char) : Option Nat :=
  cs.foldlM (fun n c => do
    let d ← hexDigit? c
    if d < base then some (n * base + d) else none) 0

/-- A part of an address: hexadecimal after `0x`, octal after `0`, otherwise decimal. -/
def ipv4Part? : List Char → Option Nat
  | [] => none
  | '0' :: 'x' :: digits | '0' :: 'X' :: digits => numberOf? 16 digits
  | '0' :: d :: digits => numberOf? 8 (d :: digits)
  | digits => numberOf? 10 digits

/-- Whether the last label of a name, an empty one after it aside, is a number. -/
def endsInNumber (name : List Char) : Bool :=
  let labels := (pieces (· = '.') name).reverse
  let last := match labels with
    | [] :: label :: _ => label
    | label :: _ => label
    | [] => []
  !last.isEmpty && (last.all (fun c => (digit? c).isSome) || (ipv4Part? last).isSome)

/-- The address of parts: each but the last is a byte, and the last fills the bytes that are left. -/
def ipv4OfParts? (parts : List Nat) : Option UInt32 :=
  match parts.reverse with
  | [] => none
  | last :: before =>
    let room := Nat.pow 256 (4 - before.length)
    if 4 < parts.length || before.any (255 < ·) || room ≤ last then none
    else some (UInt32.ofNat (before.reverse.foldl (fun n b => n * 256 + b) 0 * room + last))

/-- The address that a name which ends in a number gives. -/
def ipv4? (name : List Char) : Option UInt32 := do
  let parts := pieces (· = '.') name
  let parts := if parts.getLast? = some [] then parts.dropLast else parts
  if 4 < parts.length then none else ipv4OfParts? (← parts.mapM ipv4Part?)

/-- The four bytes of an address. -/
def ipv4Chars (address : UInt32) : List Char :=
  let n := address.toNat
  List.intercalate ['.']
    ([n / 16777216, n / 65536 % 256, n / 256 % 256, n % 256].map (Nat.toDigits 10 ·))

/-! ## Version 6 -/

/-- A group: one to four hexadecimal digits. -/
def group? (cs : List Char) : Option Nat :=
  if cs.isEmpty || 4 < cs.length then none else numberOf? 16 cs

/-- A byte in decimal without leading zeros. -/
def byte? (cs : List Char) : Option Nat := do
  let n ← numberOf? 10 cs
  if cs.isEmpty || 255 < n || (1 < cs.length && cs.head? = some '0') then none else some n

/-- Two groups written as four bytes between points. -/
def dotted? (cs : List Char) : Option (List Nat) := do
  match ← (pieces (· = '.') cs).mapM byte? with
  | [a, b, c, d] => some [a * 256 + b, c * 256 + d]
  | _ => none

/-- The groups between colons; the last two may be written as four bytes if `tail` allows it. -/
def groups? (tail : Bool) : List (List Char) → Option (List Nat)
  | [] => some []
  | [last] => if tail && last.contains '.' then dotted? last else (group? last).map ([·])
  | g :: rest => do
    let g ← group? g
    let rest ← groups? tail rest
    some (g :: rest)

/-- Splits at the first double colon. -/
def cutGap : List Char → Option (List Char × List Char)
  | ':' :: ':' :: rest => some ([], rest)
  | c :: rest => (cutGap rest).map fun (a, b) => (c :: a, b)
  | [] => none

/-- The groups of one side of a double colon; nothing there is none. -/
def sideGroups? (tail : Bool) (cs : List Char) : Option (List Nat) :=
  if cs.isEmpty then some [] else groups? tail (pieces (· = ':') cs)

/-- The eight groups of an address. A double colon stands for at least one group of zeros. -/
def ipv6? (cs : List Char) : Option (List Nat) :=
  match cutGap cs with
  | none => do
    let groups ← sideGroups? true cs
    if groups.length = 8 then some groups else none
  | some (left, right) => do
    let before ← sideGroups? false left
    let after ← sideGroups? true right
    if 7 < before.length + after.length then none
    else some (before ++ List.replicate (8 - before.length - after.length) 0 ++ after)

/-- Where the longest run of zeros starts, the first of several, and how long it is. -/
def longestZeros (groups : List Nat) : Nat × Nat :=
  let run (i : Nat) := ((groups.drop i).takeWhile (· = 0)).length
  (List.range groups.length).foldl (fun best i => if best.2 < run i then (i, run i) else best)
    (0, 0)

/-- The groups with the longest run of two zeros or more as a double colon. -/
def ipv6Chars (groups : List Nat) : List Char :=
  let (start, length) := longestZeros groups
  let side (gs : List Nat) := List.intercalate [':'] (gs.map hex)
  if length < 2 then side groups
  else side (groups.take start) ++ [':', ':'] ++ side (groups.drop (start + length))

/-! ## Hosts -/

def text : Host → String
  | .empty => ""
  | .domain name => name
  | .ipv4 address => String.ofList (ipv4Chars address)
  | .ipv6 groups => String.ofList (['['] ++ ipv6Chars groups ++ [']'])

/-- The address between brackets. -/
def bracketed (inside : List Char) : Except UrlFlaw Host :=
  if inside.getLast? ≠ some ']' then .error .invalidIpv6
  else
    match ipv6? inside.dropLast with
    | some groups => .ok (.ipv6 groups)
    | none => .error .invalidIpv6

/-- The host of a URL with a well-known scheme. -/
def ofKnown (cs : List Char) : Except UrlFlaw Host :=
  match cs with
  | '[' :: inside => bracketed inside
  | _ =>
    match Domain.ofBytes? (Percent.decode (bytes (String.ofList cs))) with
    | none => .error .invalidDomain
    | some name =>
      if name.isEmpty then .error .emptyHost
      else if endsInNumber name.toList then
        match ipv4? name.toList with
        | some address => .ok (.ipv4 address)
        | none => .error .invalidIpv4
      else .ok (.domain name)

/-- The characters that the host of a URL with an unknown scheme may not have. -/
def isForbidden (c : Char) : Bool :=
  ['\x00', '\t', '\n', '\r', ' ', '#', '/', ':', '<', '>', '?', '@', '[', '\\', ']', '^',
    '|'].contains c

/-- The host of a URL with an unknown scheme. -/
def ofUnknown (cs : List Char) : Except UrlFlaw Host :=
  match cs with
  | [] => .ok .empty
  | '[' :: inside => bracketed inside
  | _ =>
    if cs.any isForbidden then .error .invalidHostCharacter
    else .ok (.domain (String.ofList (Percent.encode Percent.inOpaque cs)))

end Host

end ConditionalGet
