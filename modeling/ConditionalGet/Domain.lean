import ConditionalGet.Domain.Punycode
import ConditionalGet.Text.Blank
import ConditionalGet.Text.Composition
import ConditionalGet.Text.Folding
import ConditionalGet.Text.Joining
import ConditionalGet.Text.Utf8

/-!
# Domain names

A domain name is a sequence of labels between points. Any text is brought into the ASCII form in
which names are looked up: letters folded and composed, and a label that is not ASCII written in
Punycode behind `xn--`. In a name with characters that go from right to left, each label must read
in one direction.
-/

set_option autoImplicit false

namespace ConditionalGet.Domain

open Text

/-- What stands in front of a label in Punycode. -/
def tag : List Char := ['x', 'n', '-', '-']

/-- The ASCII characters that no name has. -/
def isForbidden (c : Char) : Bool :=
  c.toNat ≤ 0x20 || c.toNat = 0x7F ||
    ['%', '#', '/', ':', '<', '>', '?', '@', '[', '\\', ']', '^', '|'].contains c

/-- The characters that say whether letters join: one to part them, one to join them. -/
def isJoiner (c : Char) : Bool := c = '\u200c' || c = '\u200d'

/-- Whether a character beyond ASCII may stand in a label. -/
def isLabelChar (c : Char) : Bool := isVisible c && c ≠ '\ufffc' && c ≠ '\ufffd'

/-- The class of the marks that join letters to a cluster. -/
def clusterMark : Nat := 9

/-- Whether a joiner may stand between two texts, the first given backwards: after a mark that joins
letters to a cluster, or, to part letters, between two that would join. -/
def joinerFits (before : List Char) (joiner : Char) (after : List Char) : Bool :=
  before.head?.any (markClass · = clusterMark) || (joiner = '\u200c' && joinsAcross before after)

/-- Whether all joiners of a text may stand where they do, given the text before it backwards. -/
def joinersFit : (before : List Char) → List Char → Bool
  | _, [] => true
  | before, c :: cs => (!isJoiner c || joinerFits before c cs) && joinersFit (c :: before) cs

/-- Whether a folded and composed label may be used. -/
def isLabel (label : List Char) : Bool :=
  label.all (fun c => if c.toNat < 128 then !isForbidden c else isJoiner c || isLabelChar c) &&
    !label.head?.any needsBase && joinersFit [] label

def isAscii (c : Char) : Bool := c.toNat < 128

/-- A label: as it is read, and as it is looked up. -/
structure Label where
  text : List Char
  ascii : List Char

/-- The label of a folded and composed text. If that is in Punycode already, it must stand for a
usable one that Punycode is needed for. -/
def label? (cs : List Char) : Option Label :=
  if tag.isPrefixOf cs then do
    let text ← Punycode.decode? (cs.drop tag.length)
    if text.all isAscii || compose (fold text) ≠ text || !isLabel text || !cs.all isAscii then none
    else some ⟨text, cs⟩
  else if !isLabel cs then none
  else some ⟨cs, if cs.all isAscii then cs else tag ++ Punycode.encode cs⟩

/-- The ASCII form of a name. -/
def ofChars? (cs : List Char) : Option (List Char) := do
  let labels ← (pieces (· = '.') (compose (fold cs))).mapM label?
  if labels.any (fun l => goesLeft l.text) && !labels.all (fun l => readsOneWay l.text) then none
  else some (List.intercalate ['.'] (labels.map Label.ascii))

/-- The ASCII form of a name that comes as bytes. -/
def ofBytes? (bytes : List UInt8) : Option String := do
  let text ← decode? ⟨bytes.toArray⟩
  (ofChars? text.toList).map String.ofList

end ConditionalGet.Domain
