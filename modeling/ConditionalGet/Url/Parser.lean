import ConditionalGet.Url

/-!
# Reading URLs

`Url.parse` reads a URL that stands alone, `Url.join` a reference that may be relative to another
URL. The text is read from left to right: a scheme, an authority after two slashes, a path up to a
question mark, a query up to a number sign, and a fragment. Well-known schemes take a backslash for
a slash, need a host and read it as a domain name or an address.
-/

set_option autoImplicit false

namespace ConditionalGet

open Text

/-! ## Schemes -/

/-- How the rest of a URL is read. -/
inductive SchemeKind where
  | file
  /-- A well-known scheme other than `file`. -/
  | known
  | unknown
  deriving DecidableEq, Repr

namespace SchemeKind

def of (scheme : String) : SchemeKind :=
  if scheme = "file" then .file
  else if ["http", "https", "ws", "wss", "ftp"].contains scheme then .known
  else .unknown

/-- Whether a character separates the names of a path. -/
def isSlash (kind : SchemeKind) (c : Char) : Bool := c = '/' || (c = '\\' && kind ≠ .unknown)

/-- The characters to encode in a query. -/
def querySet (kind : SchemeKind) : Char → Bool :=
  if kind = .unknown then Percent.inQuery else Percent.inKnownQuery

end SchemeKind

def usualPort? (scheme : String) : Option Nat :=
  if scheme = "http" || scheme = "ws" then some 80
  else if scheme = "https" || scheme = "wss" then some 443
  else if scheme = "ftp" then some 21
  else none

namespace UrlReader

/-- Whether a character is an ASCII letter. -/
def isLetter (c : Char) : Bool := ('a' ≤ c && c ≤ 'z') || ('A' ≤ c && c ≤ 'Z')

/-- Whether a character may stand in a scheme after its first letter. -/
def isSchemeChar (c : Char) : Bool :=
  isLetter c || (digit? c).isSome || c = '+' || c = '-' || c = '.'

/-- The scheme before a colon, in small letters, and the text after it. -/
def scheme? (cs : List Char) : Option (String × List Char) :=
  match cutWhile cs with
  | (name, ':' :: rest) =>
    if name.head?.any isLetter then some (lower (String.ofList name), rest) else none
  | _ => none
where
  cutWhile (cs : List Char) : List Char × List Char :=
    (cs.takeWhile isSchemeChar, cs.dropWhile isSchemeChar)

/-- The text to read: controls and blanks at the ends do not count, nor do tabs and line ends
anywhere. -/
def cleaned (s : String) : List Char :=
  (trimWhere (·.toNat ≤ 0x20) s.toList).filter fun c => c ≠ '\t' && c ≠ '\n' && c ≠ '\r'

/-! ## Query and fragment -/

def endsPath (c : Char) : Bool := c = '?' || c = '#'

/-- The query and the fragment that a text starting with their marks gives. -/
def queryAndFragment (kind : SchemeKind) (cs : List Char) : Option String × Option String :=
  let query (cs : List Char) := String.ofList (Percent.encode kind.querySet cs)
  let fragment (cs : List Char) := String.ofList (Percent.encode Percent.inFragment cs)
  match cs with
  | '?' :: rest =>
    match cut? (· = '#') rest with
    | some (q, f) => (some (query q), some (fragment f))
    | none => (some (query rest), none)
  | '#' :: rest => (none, some (fragment rest))
  | _ => (none, none)

/-- A URL up to its path, and the text after it. -/
def withRest (kind : SchemeKind) (scheme : String) (authority : Option Authority) (path : UrlPath)
    (rest : List Char) : Url :=
  let (query, fragment) := queryAndFragment kind rest
  ⟨scheme, authority, path, query, fragment⟩

/-! ## Paths -/

/-- Whether a name is a point, which stands for the path it is in. -/
def isSingleDot (name : String) : Bool := [".", "%2e"].contains (lower name)

/-- Whether a name is two points, which stand for the path above. -/
def isDoubleDot (name : String) : Bool :=
  ["..", ".%2e", "%2e.", "%2e%2e"].contains (lower name)

/-- Whether a text is the letter of a drive and a colon or a bar. -/
def isDrive (cs : List Char) : Bool :=
  match cs with
  | [letter, mark] => isLetter letter && (mark = ':' || mark = '|')
  | _ => false

/-- Whether a text starts with the letter of a drive that a path can go on from. -/
def startsWithDrive (cs : List Char) : Bool :=
  isDrive (cs.take 2) &&
    match cs.drop 2 with
    | [] => true
    | c :: _ => ['/', '\\', '?', '#'].contains c

/-- The path above. The letter of a drive is never left. -/
def above (kind : SchemeKind) (names : List String) : List String :=
  match names.getLast? with
  | some last => if kind = .file && isDrive last.toList then names else names.dropLast
  | none => []

/-- Adds one encoded name to a path; `isLast` if no slash follows. -/
def addName (kind : SchemeKind) (names : List String) (name : String) (isLast : Bool) :
    List String :=
  if isDoubleDot name then
    if isLast then above kind names ++ [""] else above kind names
  else if isSingleDot name then
    if isLast then names ++ [""] else names
  else if kind = .file && names.isEmpty && isDrive name.toList then
    [String.ofList (name.toList.take 1 ++ [':'])]
  else names ++ [name]

/-- Adds the names of a text to a path. -/
def addNames (kind : SchemeKind) : List String → List (List Char) → List String
  | names, [] => names
  | names, [name] => addName kind names (String.ofList (Percent.encode Percent.inPath name)) true
  | names, name :: rest =>
    addNames kind
      (addName kind names (String.ofList (Percent.encode Percent.inPath name)) false) rest

/-- The path without the empty names that a file path starts with. -/
def withoutEmptyStart : List String → List String
  | "" :: name :: rest => withoutEmptyStart (name :: rest)
  | names => names

/-- The path below the given names that a text gives, and the text after it. -/
def path (kind : SchemeKind) (names : List String) (cs : List Char) : UrlPath × List Char :=
  let names := addNames kind names (pieces kind.isSlash (cs.takeWhile (!endsPath ·)))
  (.steps (if kind = .file then withoutEmptyStart names else names), cs.dropWhile (!endsPath ·))

/-- The path after an authority, and the text after it. Only the path of an unknown scheme can be
empty. -/
def pathAfterAuthority (kind : SchemeKind) (cs : List Char) : UrlPath × List Char :=
  match cs with
  | c :: rest =>
    if kind.isSlash c then path kind [] rest
    else if kind = .unknown && endsPath c then (.steps [], cs)
    else path kind [] cs
  | [] => if kind = .unknown then (.steps [], []) else (.steps [""], [])

/-! ## Authorities -/

/-- Splits at the last `@`. -/
def cutUser (cs : List Char) : Option (List Char × List Char) :=
  (cut? (· = '@') cs.reverse).map fun (after, before) => (before.reverse, after.reverse)

/-- The user and the password, if any; an empty password counts as none. -/
def user (cs : List Char) : String × Option String :=
  let encode (cs : List Char) := String.ofList (Percent.encode Percent.inUser cs)
  match cut? (· = ':') cs with
  | none => (encode cs, none)
  | some (name, []) => (encode name, none)
  | some (name, password) => (encode name, some (encode password))

/-- The characters before the first colon outside brackets, and the text from there. -/
def cutPort : (inside : Bool) → List Char → List Char × List Char
  | _, [] => ([], [])
  | inside, c :: cs =>
    if c = ':' && !inside then ([], c :: cs)
    else
      let (host, rest) := cutPort (if c = '[' then true else if c = ']' then false else inside) cs
      (c :: host, rest)

def greatestPort : Nat := 65535

/-- A port, after its colon, and the text after it. No digits are the usual port. -/
def port (scheme : String) (cs : List Char) : Except UrlFlaw (Option Nat × List Char) := do
  let digits := cs.takeWhile (· ≠ '\\')
  let n ← digits.foldlM (fun n c =>
    match digit? c with
    | some d => if n * 10 + d ≤ greatestPort then .ok (n * 10 + d) else .error .invalidPort
    | none => .error .invalidPort) 0
  let usual := digits.isEmpty || some n = usualPort? scheme
  .ok (if usual then none else some n, cs.dropWhile (· ≠ '\\'))

def endsAuthority (kind : SchemeKind) (c : Char) : Bool := kind.isSlash c || endsPath c

/-- Host and port, and the text after them. -/
def hostAndPort (kind : SchemeKind) (scheme : String) (cs : List Char) :
    Except UrlFlaw (Host × Option Nat × List Char) := do
  let (host, rest) := cutPort false cs
  if host.isEmpty && (kind ≠ .unknown || !rest.isEmpty) then .error .emptyHost
  else
    let host ← if kind = .unknown then Host.ofUnknown host else Host.ofKnown host
    match rest with
    | [] => .ok (host, none, [])
    | _ :: digits => .ok (host, ← port scheme digits)

def fromAuthority (kind : SchemeKind) (scheme : String) (cs : List Char) : Except UrlFlaw Url := do
  let text := cs.takeWhile (!endsAuthority kind ·)
  let rest := cs.dropWhile (!endsAuthority kind ·)
  let (user, password, place) := match cutUser text with
    | some (before, place) =>
      let (name, password) := user before
      (name, password, place)
    | none => ("", none, text)
  if text = ['@'] && !rest.isEmpty then .error .emptyHost
  else
    let (host, port, between) ← hostAndPort kind scheme place
    if host = .empty && (!user.isEmpty || password.isSome) then .error .emptyHost
    else
      let (path, rest) := pathAfterAuthority kind (between ++ rest)
      .ok (withRest kind scheme (some ⟨user, password, host, port⟩) path rest)

/-! ## Files -/

def fileAuthority (host : Host) : Option Authority := some ⟨"", none, host, none⟩

def fromFileHost (cs : List Char) : Except UrlFlaw Url := do
  let text := cs.takeWhile (!endsAuthority .file ·)
  let rest := cs.dropWhile (!endsAuthority .file ·)
  if isDrive text then
    let (path, rest) := path .file [] cs
    .ok (withRest .file "file" (fileAuthority .empty) path rest)
  else
    let host ← if text.isEmpty then .ok Host.empty else Host.ofKnown text
    let host := if host = .domain "localhost" then .empty else host
    let (path, rest) := pathAfterAuthority .file rest
    let drive := match path with
      | .steps (name :: _) => isDrive name.toList
      | _ => false
    .ok (withRest .file "file" (fileAuthority (if drive then .empty else host)) path rest)

/-- The names of a path up to the letter of its drive. -/
def driveOf : UrlPath → List String
  | .steps (name :: _) => if isDrive name.toList then [name] else []
  | _ => []

/-- A file URL after one slash: on the drive or the host of the base. -/
def fromFileSlash (base : Option Url) (cs : List Char) : Url :=
  let (names, host) :=
    match base with
    | some b =>
      if startsWithDrive cs then ([], Host.empty)
      else if (driveOf b.path).isEmpty then ([], (b.authority.map Authority.host).getD .empty)
      else (driveOf b.path, .empty)
    | none => ([], .empty)
  let (path, rest) := path .file names cs
  withRest .file "file" (fileAuthority host) path rest

/-- A file URL without two slashes and without a base to be relative to. -/
def fromFilePath (cs : List Char) : Url :=
  let (path, rest) := path .file [] cs
  withRest .file "file" (fileAuthority .empty) path rest

/-! ## References -/

def namesOf : UrlPath → List String
  | .steps names => names
  | .flat _ => []

/-- A reference relative to a URL with hierarchy, in all cases but a path that starts with a
slash. -/
def relative (kind : SchemeKind) (base : Url) (cs : List Char) : Url :=
  match cs with
  | [] => { base with fragment := none }
  | '?' :: _ =>
    let (query, fragment) := queryAndFragment kind cs
    { base with query := query, fragment := fragment }
  | '#' :: _ => { base with fragment := (queryAndFragment kind cs).2 }
  | _ =>
    let (path, rest) := path kind (above kind (namesOf base.path)) cs
    withRest kind base.scheme base.authority path rest

/-- A reference relative to a file URL, or a file URL without scheme. -/
def fromFile (base : Option Url) (cs : List Char) : Except UrlFlaw Url :=
  match cs with
  | c :: rest =>
    if c = '/' || c = '\\' then
      match rest with
      | d :: host =>
        if d = '/' || d = '\\' then fromFileHost host else .ok (fromFileSlash base rest)
      | [] => .ok (fromFileSlash base rest)
    else
      match base with
      | some b => if startsWithDrive cs then .ok (fromFilePath cs) else .ok (relative .file b cs)
      | none => .ok (fromFilePath cs)
  | [] =>
    match base with
    | some b => .ok (relative .file b [])
    | none => .ok (fromFilePath [])

/-- Whether a character is a slash or a backslash. -/
def isAnySlash (c : Char) : Bool := c = '/' || c = '\\'

/-- A reference relative to a URL that is no file. -/
def fromRelative (kind : SchemeKind) (base : Url) (cs : List Char) : Except UrlFlaw Url :=
  match cs with
  | c :: rest =>
    if isAnySlash c then
      if 2 ≤ (cs.takeWhile isAnySlash).length then
        match cs with
        | '/' :: '/' :: rest => fromAuthority kind base.scheme rest
        | _ => fromAuthority kind base.scheme (cs.dropWhile isAnySlash)
      else
        let (path, rest) := path kind [] rest
        .ok (withRest kind base.scheme base.authority path rest)
    else .ok (relative kind base cs)
  | [] => .ok (relative kind base [])

def fromScheme (base : Option Url) (scheme : String) (cs : List Char) : Except UrlFlaw Url :=
  match SchemeKind.of scheme with
  | .file => fromFile (base.filter (·.scheme = "file")) cs
  | .known =>
    match base with
    | some b =>
      if b.scheme = scheme && (cs.takeWhile isAnySlash).length < 2 then fromRelative .known b cs
      else fromAuthority .known scheme (cs.dropWhile isAnySlash)
    | none => fromAuthority .known scheme (cs.dropWhile isAnySlash)
  | .unknown =>
    match cs with
    | '/' :: '/' :: rest => fromAuthority .unknown scheme rest
    | '/' :: rest =>
      let (path, rest) := path .unknown [] rest
      .ok (withRest .unknown scheme none path rest)
    | _ =>
      let text := Percent.encode Percent.inOpaque (cs.takeWhile (!endsPath ·))
      .ok (withRest .unknown scheme none (.flat (String.ofList text)) (cs.dropWhile (!endsPath ·)))

/-- A URL or a reference without a scheme, against a base. -/
def fromBase (base : Url) (cs : List Char) : Except UrlFlaw Url :=
  let kind := SchemeKind.of base.scheme
  match cs, base.path with
  | '#' :: _, _ => .ok { base with fragment := (queryAndFragment kind cs).2 }
  | _, .flat _ => .error .opaqueBase
  | _, .steps _ => if kind = .file then fromFile (some base) cs else fromRelative kind base cs

/-- A URL, or a reference if there is a base. -/
def read (base : Option Url) (s : String) : Except UrlFlaw Url :=
  let cs := cleaned s
  match scheme? cs with
  | some (scheme, rest) => fromScheme base scheme rest
  | none =>
    match base with
    | some b => fromBase b cs
    | none => .error .noBase

end UrlReader

namespace Url

/-- The URL that a text gives. -/
def parse (s : String) : Except UrlFlaw Url := UrlReader.read none s

/-- The URL that a reference gives where it stands in a resource at `base`. -/
def join (base : Url) (reference : String) : Except UrlFlaw Url :=
  UrlReader.read (some base) reference

end Url

end ConditionalGet
