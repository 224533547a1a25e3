import ConditionalGet.Text.Ascii
import ConditionalGet.Text.Printable

/-!
# Quoted display

A text between double quotes, written so that every character can be seen: the quote and the
backslash are escaped, common controls have their letter, and what shows nothing of its own is
written by its code point.
-/

set_option autoImplicit false

namespace ConditionalGet.Text

def codePointEscape (c : Char) : List Char := ['\\', 'u', '\x7b'] ++ hex c.toNat ++ ['\x7d']

/-- How one character stands between quotes. -/
def quotedChar (c : Char) : List Char :=
  if c = '\x00' then ['\\', '0']
  else if c = '\t' then ['\\', 't']
  else if c = '\r' then ['\\', 'r']
  else if c = '\n' then ['\\', 'n']
  else if c = '"' then ['\\', '"']
  else if c = '\\' then ['\\', '\\']
  else if isExtending c || !isVisible c then codePointEscape c
  else [c]

/-- The text between backticks. -/
def ticked (s : String) : String := "\x60" ++ s ++ "\x60"

/-- The text between double quotes. -/
def quoted (s : String) : String :=
  String.ofList (['"'] ++ s.toList.flatMap quotedChar ++ ['"'])

end ConditionalGet.Text
