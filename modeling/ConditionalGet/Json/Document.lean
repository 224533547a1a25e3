import ConditionalGet.Json.Reader

/-!
# JSON documents

Reads a text as any value, as an object or as an array. Arrays and objects may be nested 127 deep.
-/

set_option autoImplicit false

namespace ConditionalGet.Json

namespace Reader

/-- How deep arrays and objects may be nested. -/
def nestingLimit : Nat := 127

/-- A value in which arrays and objects may be nested `depth` deep. -/
def value (depth : Nat) : Reader Value := do
  match ← token with
  | none => failAhead .endOfValue
  | some 'n' => do word ['n', 'u', 'l', 'l']; pure .null
  | some 't' => do word ['t', 'r', 'u', 'e']; pure (.bool true)
  | some 'f' => do word ['f', 'a', 'l', 's', 'e']; pure (.bool false)
  | some '-' => do skip; return .number (← number true)
  | some '"' => return .string (← string)
  | some '[' =>
    match depth with
    | 0 => failAhead .tooDeep
    | depth + 1 => do
      let items ← bracketed (eachItem (fun items => return (← value depth) :: items) [])
      pure (.array items.reverse)
  | some '\x7b' =>
    match depth with
    | 0 => failAhead .tooDeep
    | depth + 1 => do
      let members ← braced (eachMember (fun members name => do
        colon
        return insertMember name (← value depth) members) [])
      pure (.object members)
  | some c =>
    if (Text.digit? c).isSome then return .number (← number false) else failAhead .expectedValue

/-- An object and nothing else. -/
def members : Reader (List (String × Value)) := do
  match ← token with
  | none => failAhead .endOfValue
  | some '\x7b' => braced (eachMember (fun members name => do
      colon
      return insertMember name (← value (nestingLimit - 1)) members) [])
  | some _ => wrongKind "a map"

/-- An array and nothing else. -/
def items : Reader (List Value) := do
  match ← token with
  | none => failAhead .endOfValue
  | some '[' =>
    List.reverse <$>
      bracketed (eachItem (fun items => return (← value (nestingLimit - 1)) :: items) [])
  | some _ => wrongKind "a sequence"

end Reader

def parse (text : String) : Except Complaint Value := (Reader.value Reader.nestingLimit).whole text

def parseObject (text : String) : Except Complaint (List (String × Value)) :=
  Reader.members.whole text

def parseArray (text : String) : Except Complaint (List Value) := Reader.items.whole text

end ConditionalGet.Json
