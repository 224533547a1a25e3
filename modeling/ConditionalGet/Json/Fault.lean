import ConditionalGet.Json.Value
import ConditionalGet.Text.Quoted

/-!
# Faults of a JSON text

What is wrong with a text, and where. A place is counted as a line and as the bytes on that line;
a fault is noticed either before or after the byte that shows it.
-/

set_option autoImplicit false

namespace ConditionalGet.Json

/-- The kind of a value that stands where another kind is wanted. -/
inductive Found where
  | null
  | bool (value : Bool)
  | number (value : Number)
  | string (value : String)
  | sequence
  | map

/-- How a found value is named. -/
def Found.name : Found → String
  | .null => "null"
  | .bool b => "boolean " ++ Text.ticked (if b then "true" else "false")
  | .number (.integer i) => "integer " ++ Text.ticked (String.ofList (integerChars i))
  | .number (.double x) => "floating point " ++ Text.ticked (String.ofList (doubleChars x))
  | .string s => "string " ++ Text.quoted s
  | .sequence => "sequence"
  | .map => "map"

/-- What is wrong with a text. -/
inductive Reason where
  | endOfValue
  | endOfList
  | endOfObject
  | endOfString
  | expectedValue
  | expectedWord
  | expectedColon
  | expectedCommaInList
  | expectedCommaInObject
  | keyIsNoString
  | trailingComma
  | trailingCharacters
  | invalidNumber
  | numberOutOfRange
  | invalidEscape
  | unfinishedPair
  | loneSurrogate
  | controlCharacter
  | tooDeep
  /-- A value of another kind than the wanted one. -/
  | invalidType (found : Found) (wanted : String)
  /-- A value of the right kind, but none of the wanted ones. -/
  | invalidValue (found : Found) (wanted : String)
  /-- An array with too few items. -/
  | invalidLength (length : Nat) (wanted : String)
  | missingField (name : String)
  | duplicateField (name : String)
  /-- A string that does not read as what it should stand for. -/
  | unreadable (complaint : String)

def Reason.text : Reason → String
  | .endOfValue => "EOF while parsing a value"
  | .endOfList => "EOF while parsing a list"
  | .endOfObject => "EOF while parsing an object"
  | .endOfString => "EOF while parsing a string"
  | .expectedValue => "expected value"
  | .expectedWord => "expected ident"
  | .expectedColon => "expected " ++ Text.ticked ":"
  | .expectedCommaInList => "expected " ++ Text.ticked "," ++ " or " ++ Text.ticked "]"
  | .expectedCommaInObject => "expected " ++ Text.ticked "," ++ " or " ++ Text.ticked "\x7d"
  | .keyIsNoString => "key must be a string"
  | .trailingComma => "trailing comma"
  | .trailingCharacters => "trailing characters"
  | .invalidNumber => "invalid number"
  | .numberOutOfRange => "number out of range"
  | .invalidEscape => "invalid escape"
  | .unfinishedPair => "unexpected end of hex escape"
  | .loneSurrogate => "lone leading surrogate in hex escape"
  | .controlCharacter => "control character (\\u0000-\\u001F) found while parsing a string"
  | .tooDeep => "recursion limit exceeded"
  | .invalidType found wanted => "invalid type: " ++ found.name ++ ", expected " ++ wanted
  | .invalidValue found wanted => "invalid value: " ++ found.name ++ ", expected " ++ wanted
  | .invalidLength n wanted => "invalid length " ++ toString n ++ ", expected " ++ wanted
  | .missingField name => "missing field " ++ Text.ticked name
  | .duplicateField name => "duplicate field " ++ Text.ticked name
  | .unreadable complaint => complaint

/-- A fault: the reason, the text not yet read when it was noticed, and how many bytes of that
text show it. An unsettled fault concerns a whole value and gets its place at the end of it. -/
structure Fault where
  reason : Reason
  rest : List Char
  ahead : Nat
  settled : Bool

/-- A place in a text. -/
structure Location where
  line : Nat
  column : Nat
  deriving DecidableEq, Repr

/-- The length of a text in bytes. -/
def byteLength (cs : List Char) : Nat := cs.foldl (fun n c => n + c.utf8Size) 0

/-- The place after the first `offset` bytes, counted on from a place. -/
def Location.advance : Location → Nat → List Char → Location
  | place, _, [] => place
  | place, offset, c :: cs =>
    if offset < c.utf8Size then { place with column := place.column + offset }
    else
      Location.advance
        (if c = '\n' then ⟨place.line + 1, 0⟩
          else { place with column := place.column + c.utf8Size })
        (offset - c.utf8Size) cs

def Fault.location (text : List Char) (f : Fault) : Location :=
  Location.advance ⟨1, 0⟩ (byteLength text - byteLength f.rest + f.ahead) text

/-- A complaint about a text: what is wrong and where. -/
structure Complaint where
  reason : Reason
  location : Location

def Fault.complaint (text : List Char) (f : Fault) : Complaint := ⟨f.reason, f.location text⟩

def Complaint.message (c : Complaint) : String :=
  c.reason.text ++ " at line " ++ toString c.location.line ++ " column " ++
    toString c.location.column

end ConditionalGet.Json
