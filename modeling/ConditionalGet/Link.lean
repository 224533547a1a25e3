import ConditionalGet.Text.Ascii
import ConditionalGet.Text.Blank

/-!
# Links of a collection

The `Link` header names other resources, each by a target between angle brackets and parameters
after it; of the parameters only the relation types count. `Link.scan` reads the characters one
by one and keeps its place in a `Link.Place`, so that reading a text in two parts is reading it at
once (`scan_append`).
-/

set_option autoImplicit false

namespace ConditionalGet

open Text

/-- One link: where it leads, and its relation types in small letters. -/
structure Link where
  target : String
  relations : List String
  deriving DecidableEq, Repr

namespace Link

/-- Whether a link has the relation type `rel`, in any ASCII case. -/
def hasRelation (link : Link) (rel : String) : Bool := link.relations.any (sameLetters · rel)

/-! ## Parameters -/

/-- The relation types that one parameter gives: the words of its value if its name is `rel`. -/
def relationsOf (parameter : List Char) : List String :=
  match cut? (· = '=') parameter with
  | none => []
  | some (name, value) =>
    if sameLetters (String.ofList (trimChars name)) "rel" then
      (words (trimWhere (· = '"') (trimChars value))).map fun w => lower (String.ofList w)
    else []

/-- The relation types of all parameters of a link, which semicolons separate. -/
def relationsIn (parameters : List Char) : List String :=
  (pieces (· = ';') parameters).flatMap relationsOf

/-- The link of a target text and a parameter text. -/
def ofParts (target parameters : List Char) : Link :=
  { target := String.ofList (trimChars target), relations := relationsIn parameters }

/-! ## Reading -/

/-- Where the reader stands. Characters gathered so far are in reverse order. -/
inductive Place where
  /-- Before the opening bracket of the next link. -/
  | outside
  /-- Between the brackets. -/
  | inTarget (target : List Char)
  /-- After the closing bracket; `quoted` after an odd number of double quotes. -/
  | inParameters (target parameters : List Char) (quoted : Bool)
  deriving DecidableEq, Repr

namespace Place

/-- The place after one more character, and the link that the character completes, if any. A link
ends at the first comma outside double quotes. -/
def step : Place → Char → Place × Option Link
  | .outside, c => (if c = '<' then .inTarget [] else .outside, none)
  | .inTarget target, c =>
    (if c = '>' then .inParameters target [] false else .inTarget (c :: target), none)
  | .inParameters target parameters quoted, c =>
    if c = ',' && !quoted then (.outside, some (ofParts target.reverse parameters.reverse))
    else (.inParameters target (c :: parameters) (quoted != (c == '"')), none)

/-- The link that the end of the text completes: an open bracket gives none. -/
def finish : Place → List Link
  | .inParameters target parameters _ => [ofParts target.reverse parameters.reverse]
  | _ => []

def after (place : Place) (text : List Char) : Place := text.foldl (fun p c => (p.step c).1) place

end Place

/-- The links completed while reading a text from a place, in order. -/
def scan : Place → List Char → List Link
  | _, [] => []
  | place, c :: cs => (place.step c).2.toList ++ scan (place.step c).1 cs

/-- The links of a header value. What is outside brackets and their parameters is skipped. -/
def parseChars (text : List Char) : List Link :=
  scan .outside text ++ (Place.after .outside text).finish

def parse (value : String) : List Link := parseChars value.toList

theorem scan_append (place : Place) (a b : List Char) :
    scan place (a ++ b) = scan place a ++ scan (place.after a) b := by
  induction a generalizing place with
  | nil => rfl
  | cons c cs ih => simp [scan, ih, Place.after]

theorem Place.after_append (place : Place) (a b : List Char) :
    place.after (a ++ b) = (place.after a).after b := by
  simp [Place.after]

/-- A text is closed if reading it ends neither between brackets nor inside double quotes. -/
def Closed (text : List Char) : Prop :=
  match Place.after .outside text with
  | .outside => True
  | .inTarget _ => False
  | .inParameters _ _ quoted => quoted = false

end Link

end ConditionalGet
