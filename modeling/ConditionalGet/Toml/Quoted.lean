import ConditionalGet.Text.Ascii

/-!
# Strings of TOML

A string stands between quotes, one or three on each side: double ones, inside which a backslash
escapes, or single ones, inside which everything stands for itself. Between three quotes it may run
over several lines.
-/

set_option autoImplicit false

namespace ConditionalGet.Toml.Quoted

open Text

/-- Whether a character may stand for itself, given the one after it: no control but the tab, and
line ends where several lines are allowed. -/
def isPlain (lines : Bool) (c : Char) (next : Option Char) : Bool :=
  c = '\t' || (0x20 ≤ c.toNat && c.toNat ≠ 0x7F) ||
    (lines && (c = '\n' || (c = '\r' && next = some '\n')))

/-- Whether every character stands for itself. -/
def allPlain (lines : Bool) : List Char → Bool
  | [] => true
  | c :: cs => isPlain lines c cs.head? && allPlain lines cs

/-! ## Escapes -/

/-- Where the reader of escapes stands. -/
inductive Place where
  | plain
  /-- After a backslash. -/
  | escape
  /-- Inside the digits of a code point. -/
  | code (missing value : Nat)
  /-- In blanks after a backslash, which a line end must follow. -/
  | beforeLineEnd
  /-- In blanks and line ends after a backslash at the end of a line. -/
  | skipping
  deriving DecidableEq, Repr

/-- The character of a code point. -/
def charOf? (n : Nat) : Option Char :=
  if h : n.isValidChar then some (Char.ofNatAux n h) else none

def letterEscape? : Char → Option Char
  | 'b' => some '\x08'
  | 't' => some '\t'
  | 'n' => some '\n'
  | 'f' => some '\x0c'
  | 'r' => some '\r'
  | 'e' => some '\x1b'
  | '"' => some '"'
  | '\\' => some '\\'
  | _ => none

/-- Whether a character is a blank or a tab. -/
def isSpace (c : Char) : Bool := c = ' ' || c = '\t'

namespace Place

/-- Reads a character outside escapes: what it gives, and the place after it. -/
def stepPlain (lines : Bool) (c : Char) (next : Option Char) : Option (List Char × Place) :=
  if c = '\\' then some ([], .escape)
  else if isPlain lines c next then some ([c], .plain) else none

/-- Reads one character, given the one after it. -/
def step (lines : Bool) (place : Place) (c : Char) (next : Option Char) :
    Option (List Char × Place) :=
  let isLineEnd : Bool := c = '\n' || (c = '\r' && next = some '\n')
  match place with
  | .plain => stepPlain lines c next
  | .escape =>
    match letterEscape? c with
    | some d => some ([d], .plain)
    | none =>
      if c = 'x' then some ([], .code 2 0)
      else if c = 'u' then some ([], .code 4 0)
      else if c = 'U' then some ([], .code 8 0)
      else if lines && isSpace c then some ([], .beforeLineEnd)
      else if lines && isLineEnd then some ([], .skipping)
      else none
  | .code missing value => do
    let value := value * 16 + (← hexDigit? c)
    if missing ≤ 1 then some ([← charOf? value], .plain) else some ([], .code (missing - 1) value)
  | .beforeLineEnd =>
    if isSpace c then some ([], .beforeLineEnd)
    else if isLineEnd then some ([], .skipping) else none
  | .skipping =>
    if isSpace c || isLineEnd then some ([], .skipping) else stepPlain lines c next

end Place

/-- The characters that a text with escapes stands for. -/
def unescape (lines : Bool) : Place → List Char → Option (List Char)
  | .plain, [] | .skipping, [] => some []
  | _, [] => none
  | place, c :: cs => do
    let (out, place) ← place.step lines c cs.head?
    (unescape lines place cs).map (out ++ ·)

/-! ## Delimiters -/

/-- Whether a character loses its meaning after a backslash. -/
def isShielded (c : Char) : Bool := c = '\\' || c = '"'

/-- What stands before the closing quote of a string on one line, and the text after it. The second
part says whether there is a closing quote; without one the string ends with the line. `shield` is
set after a backslash that escapes. -/
def cutLine (quote : Char) : (shield : Bool) → List Char → List Char × Bool × List Char
  | _, [] => ([], false, [])
  | shield, c :: cs =>
    if shield && isShielded c then
      let (body, closed, rest) := cutLine quote false cs
      (c :: body, closed, rest)
    else if c = quote then ([], true, cs)
    else if c = '\n' then ([], false, c :: cs)
    else
      let (body, closed, rest) := cutLine quote (quote = '"' && c = '\\') cs
      (c :: body, closed, rest)

/-- What stands before the three closing quotes of a string on several lines, and the text after
them. Up to two quotes more belong to the string. -/
def cutLines (quote : Char) : (shield : Bool) → List Char → List Char × Bool × List Char
  | _, [] => ([], false, [])
  | shield, c :: cs =>
    if shield && isShielded c then
      let (body, closed, rest) := cutLines quote false cs
      (c :: body, closed, rest)
    else if c = quote && cs.take 2 = [quote, quote] then
      let extra := ((cs.drop 2).take 2).takeWhile (· = quote)
      (extra, true, cs.drop (2 + extra.length))
    else
      let (body, closed, rest) := cutLines quote (quote = '"' && c = '\\') cs
      (c :: body, closed, rest)

def withoutFirstLineEnd : List Char → List Char
  | '\n' :: rest => rest
  | '\r' :: '\n' :: rest => rest
  | cs => cs

/-- The string that a text between quotes stands for. -/
def contents? (lines : Bool) (quote : Char) (body : List Char) : Option String :=
  let body := if lines then withoutFirstLineEnd body else body
  if quote = '"' then (unescape lines .plain body).map String.ofList
  else if allPlain lines body then some (String.ofList body) else none

/-- The string that starts with a quote, and the text after it; none if what stands between the
quotes is no string or the closing quote is missing. -/
def read (quote : Char) (cs : List Char) : Option String × List Char :=
  let lines : Bool := cs.take 2 = [quote, quote]
  let (body, closed, rest) :=
    if lines then cutLines quote false (cs.drop 2) else cutLine quote false cs
  (if closed then contents? lines quote body else none, rest)

end ConditionalGet.Toml.Quoted
