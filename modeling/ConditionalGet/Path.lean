import ConditionalGet.Text.Blank

/-!
# Paths

A path is a text of names between slashes. Joining two paths, the directory a path is in, and its
name with another extension.
-/

set_option autoImplicit false

namespace ConditionalGet.Path

/-- Whether a path starts at the root. -/
def isAbsolute (path : String) : Bool := path.toList.head? = some '/'

/-- A path below another one; an absolute path stands for itself. -/
def join (base path : String) : String :=
  if isAbsolute path || base.isEmpty then path
  else if base.toList.getLast? = some '/' then base ++ path
  else base ++ "/" ++ path

/-- The names between the slashes of a path, empty ones included. -/
def names (path : String) : List String :=
  (Text.pieces (· = '/') path.toList).map String.ofList

/-- A file name with another extension: what follows its last point, if the point is not its first
character, gives way to `extension`. -/
def nameWithExtension (name extension : List Char) : List Char :=
  let stem := name.reverse.dropWhile (· ≠ '.')
  match stem with
  | '.' :: before =>
    if before.isEmpty then name ++ '.' :: extension else before.reverse ++ '.' :: extension
  | _ => name ++ '.' :: extension

/-- A path whose last name has another extension. -/
def withExtension (path extension : String) : String :=
  let cs := path.toList.reverse
  let name := (cs.takeWhile (· ≠ '/')).reverse
  let parent := (cs.dropWhile (· ≠ '/')).reverse
  String.ofList (parent ++ nameWithExtension name extension.toList)

end ConditionalGet.Path
