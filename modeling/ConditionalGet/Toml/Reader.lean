import ConditionalGet.Toml.Quoted
import ConditionalGet.Toml.Scalar

/-!
# Reading the lines of a TOML document

A document is a sequence of lines that are headers or assignments. What they mean together is not
decided here: a key or a value that does not read as one is kept as such, and so are repeated keys.
-/

set_option autoImplicit false

namespace ConditionalGet.Toml

open Text

/-- A part of a key, without its quotes; none if it is no key. -/
abbrev KeyPart := Option String

/-- A value as it is written. -/
inductive Written where
  /-- A string, a number, a truth value or a date. -/
  | simple (value : Value)
  /-- What does not read as a value. -/
  | invalid
  | array (items : List Written)
  | braces (assignments : List (List KeyPart × Written))

inductive Line where
  | header (ofArray : Bool) (path : List KeyPart)
  | assignment (path : List KeyPart) (value : Written)

/-- Reads from the text that is left. -/
abbrev Reader (α : Type) := StateT (List Char) (Except Flaw) α

namespace Reader

/-- The text does not follow the grammar. -/
def fail {α : Type} : Reader α := throw .malformed

/-- The next character, left in place. -/
def peek : Reader (Option Char) := return (← get).head?

/-- Passes over the given character, if it is the next one. -/
def accept (c : Char) : Reader Bool := do
  match ← get with
  | d :: rest => if d = c then set rest; return true else return false
  | [] => return false

/-- Passes over the given character. -/
def expect (c : Char) : Reader Unit := do
  if !(← accept c) then fail

/-- Passes over blanks and tabs. -/
def spaces : Reader Unit := modify (·.dropWhile Quoted.isSpace)

def lineEnd : Reader Bool := do
  match ← get with
  | '\n' :: rest => set rest; return true
  | '\r' :: '\n' :: rest => set rest; return true
  | _ => return false

/-- Passes over a comment, if there is one. -/
def comment : Reader Unit := do
  match ← get with
  | '#' :: rest =>
    let body := rest.takeWhile (· ≠ '\n')
    let after := rest.dropWhile (· ≠ '\n')
    let body := if !after.isEmpty && body.getLast? = some '\r' then body.dropLast else body
    if Quoted.allPlain false body then set after else fail
  | _ => pure ()

/-- Passes over what may stand between the parts of a line to its end. -/
def restOfLine : Reader Unit := do
  spaces
  comment
  if !(← lineEnd) && !(← get).isEmpty then fail

/-- Passes over blanks, comments and line ends, at most as many lines as the first argument says. -/
def gapFrom : Nat → Reader Unit
  | 0 => pure ()
  | n + 1 => do
    spaces
    comment
    if ← lineEnd then gapFrom n

/-- Passes over blanks, comments and line ends. -/
def gap : Reader Unit := do gapFrom ((← get).length + 1)

/-! ## Keys -/

/-- Whether a character may stand in a key without quotes. -/
def isBare (c : Char) : Bool :=
  ('a' ≤ c && c ≤ 'z') || ('A' ≤ c && c ≤ 'Z') || ('0' ≤ c && c ≤ '9') || c = '-' || c = '_'

/-- Whether a character ends a key or a value without quotes. -/
def isDelimiter (c : Char) : Bool :=
  ['.', '=', ',', '[', ']', '\x7b', '\x7d', ' ', '\t', '#', '\r', '\n'].contains c

def keyPart : Reader KeyPart := do
  match ← get with
  | [] => fail
  | c :: rest =>
    if c = '"' || c = '\x27' then
      let (text, after) := Quoted.read c rest
      set after
      return if rest.take 2 = [c, c] then none else text
    else
      let bare := (c :: rest).takeWhile (!isDelimiter ·)
      if bare.isEmpty then fail
      set ((c :: rest).drop bare.length)
      return if bare.all isBare then some (String.ofList bare) else none

/-- The parts of a key between points, at most as many as the first argument says. -/
def keyFrom : Nat → Reader (List KeyPart)
  | 0 => fail
  | n + 1 => do
    spaces
    let part ← keyPart
    spaces
    if ← accept '.' then return part :: (← keyFrom n) else return [part]

def key : Reader (List KeyPart) := do keyFrom ((← get).length + 1)

/-! ## Values -/

/-- The most arrays and braces that may stand inside one another. -/
def deepest : Nat := 80

/-- Whether a text looks like a date, which a time may follow after a blank. -/
def looksLikeDate (cs : List Char) : Bool :=
  match cs with
  | [a, b, c, d, '-', e, f, '-', g, h] => [a, b, c, d, e, f, g, h].all (isDigitOf 10)
  | _ => false

/-- A value without quotes and brackets. -/
def bareValue : Reader Written := do
  let endsBare (c : Char) : Bool := isDelimiter c && c ≠ '.'
  let cs ← get
  let first := cs.takeWhile (!endsBare ·)
  let after := cs.drop first.length
  let second :=
    match after with
    | ' ' :: d :: rest =>
      if looksLikeDate first && isDigitOf 10 d then ' ' :: (d :: rest).takeWhile (!endsBare ·)
      else []
    | _ => []
  if first.isEmpty then fail
  set (after.drop second.length)
  match scalar? (first ++ second) with
  | some v => return .simple v
  | none => return .invalid

mutual

/-- A value at a depth of nesting. The first argument bounds the steps taken. -/
def value (bound depth : Nat) : Reader Written := do
  match bound with
  | 0 => fail
  | bound + 1 =>
    match ← get with
    | [] => fail
    | c :: rest =>
      if c = '"' || c = '\x27' then
        let (text, after) := Quoted.read c rest
        set after
        match text with
        | some s => return .simple (.string s)
        | none => return .invalid
      else if c = '[' || c = '\x7b' then
        if deepest ≤ depth then fail
        set rest
        gap
        if c = '[' then return .array (← items bound (depth + 1))
        else return .braces (← assignments bound (depth + 1))
      else bareValue

/-- The items of an array up to its closing bracket. -/
def items (bound depth : Nat) : Reader (List Written) := do
  match bound with
  | 0 => fail
  | bound + 1 =>
    if ← accept ']' then return []
    let item ← value bound depth
    gap
    if ← accept ']' then return [item]
    expect ','
    gap
    return item :: (← items bound depth)

/-- The assignments between braces up to the closing one. -/
def assignments (bound depth : Nat) : Reader (List (List KeyPart × Written)) := do
  match bound with
  | 0 => fail
  | bound + 1 =>
    if ← accept '\x7d' then return []
    let path ← key
    expect '='
    spaces
    let item ← value bound depth
    gap
    if ← accept '\x7d' then return [(path, item)]
    expect ','
    gap
    return (path, item) :: (← assignments bound depth)

end

/-! ## Lines -/

/-- A header, after its first bracket. -/
def header : Reader Line := do
  let ofArray ← accept '['
  let path ← key
  expect ']'
  if ofArray then expect ']'
  return .header ofArray path

def assignment : Reader Line := do
  let path ← key
  expect '='
  spaces
  let cs ← get
  return .assignment path (← value (2 * cs.length + 2) 0)

/-- One line; an empty one gives nothing. -/
def line : Reader (List Line) := do
  spaces
  match ← peek with
  | none | some '#' | some '\n' | some '\r' => do
    restOfLine
    return []
  | some '[' => do
    expect '['
    let line ← header
    restOfLine
    return [line]
  | some _ => do
    let line ← assignment
    restOfLine
    return [line]

/-- All lines, at most as many as the first argument says. -/
def linesFrom : Nat → Reader (List Line)
  | 0 => return []
  | n + 1 => do
    if (← get).isEmpty then return []
    let line ← line
    return line ++ (← linesFrom n)

end Reader

/-- The lines of a text, which may start with a byte order mark. -/
def readLines (text : String) : Except Flaw (List Line) :=
  let cs :=
    match text.toList with
    | '\ufeff' :: rest => rest
    | cs => cs
  (Reader.linesFrom (cs.length + 1) cs).map Prod.fst

end ConditionalGet.Toml
