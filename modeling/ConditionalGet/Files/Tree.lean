import ConditionalGet.Files
import ConditionalGet.Path
import ConditionalGet.Table
import ConditionalGet.Text.Utf8

/-!
# A tree of files

A model of a file system: files and directories by the names that lead to them from the root, and
a working directory where relative paths start. `Tree.perform` answers every file operation; a
failing one leaves the tree as it is, except that `createAll` keeps what it has made so far.
-/

set_option autoImplicit false

namespace ConditionalGet

/-- What stands at a place of the tree. -/
inductive Node where
  | file (bytes : ByteArray)
  | directory

def Node.isDirectory : Node → Bool
  | .file _ => false
  | .directory => true

/-- Files and directories by the names on the way from the root. -/
structure Tree where
  nodes : Table (List String) Node
  /-- The directory where relative paths start. -/
  working : List String

namespace Tree

/-- How many bytes a name may have. -/
def longestName : Nat := 255

/-- How many bytes a path may have. -/
def longestPath : Nat := 4095

/-- What stands at a place; the root is a directory. -/
def node? (t : Tree) (place : List String) : Option Node :=
  if place = [] then some .directory else t.nodes.find? place

def isDirectory (t : Tree) (place : List String) : Bool :=
  (t.node? place).any Node.isDirectory

/-- Whether there is a file or a directory at a place. -/
def occupied (t : Tree) (place : List String) : Bool := (t.node? place).isSome

def set (t : Tree) (place : List String) (node : Node) : Tree :=
  { t with nodes := t.nodes.insert place node }

def erase (t : Tree) (place : List String) : Tree := { t with nodes := t.nodes.erase place }

/-! ## Finding a place -/

/-- Goes on from a directory along the names of a path, all of which but the last must lead to
directories. Empty names and points stay; two points lead to the directory above. The flag says
that the path ends where only a directory may stand. -/
def walk (t : Tree) : List String → List String → Except IoFault (List String × Bool)
  | here, [] => .ok (here, true)
  | here, name :: rest =>
    if name = "" || name = "." then walk t here rest
    else if name = ".." then walk t here.dropLast rest
    else if longestName < name.utf8ByteSize then .error .nameTooLong
    else
      let place := here ++ [name]
      if rest = [] then .ok (place, false)
      else
        match t.node? place with
        | none => if rest.all (· = "") then .ok (place, true) else .error .notFound
        | some (.file _) => .error .notDirectory
        | some .directory => walk t place rest

/-- The place that a path leads to, and whether only a directory may stand there. -/
def locate (t : Tree) (path : String) : Except IoFault (List String × Bool) :=
  if path.toList.contains '\x00' then .error .nulInName
  else if path.isEmpty then .error .notFound
  else if longestPath < path.utf8ByteSize then .error .nameTooLong
  else t.walk (if Path.isAbsolute path then [] else t.working) (Path.names path)

/-! ## Operations -/

def readBytes (t : Tree) (path : String) : Except IoFault ByteArray := do
  let (place, directory) ← t.locate path
  match t.node? place with
  | none => .error .notFound
  | some .directory => .error .isDirectory
  | some (.file bytes) => if directory then .error .notDirectory else .ok bytes

/-- The text of a file. -/
def read (t : Tree) (path : String) : Except IoFault String := do
  match Text.decode? (← t.readBytes path) with
  | some text => .ok text
  | none => .error .notText

/-- Makes a file of bytes, or replaces the bytes of a file. -/
def writeBytes (t : Tree) (path : String) (bytes : ByteArray) : Except IoFault Tree := do
  let (place, directory) ← t.locate path
  match t.node? place with
  | some .directory => .error .isDirectory
  | some (.file _) => if directory then .error .notDirectory else .ok (t.set place (.file bytes))
  | none =>
    if !t.isDirectory place.dropLast then .error .notFound
    else if directory then .error .isDirectory
    else .ok (t.set place (.file bytes))

/-- Moves a file, or a directory with all in it. -/
def rename (t : Tree) (source target : String) : Except IoFault Tree := do
  let (a, aDirectory) ← t.locate source
  let (b, bDirectory) ← t.locate target
  match t.node? a, t.node? b with
  | none, _ => .error .notFound
  | some (.file _), some .directory => .error .isDirectory
  | some (.file bytes), _ =>
    if aDirectory || bDirectory then .error .notDirectory
    else if !t.isDirectory b.dropLast then .error .notFound
    else .ok ((t.erase a).set b (.file bytes))
  | some .directory, some (.file _) => .error .notDirectory
  | some .directory, there =>
    if !t.isDirectory b.dropLast then .error .notFound
    else if there.isSome && t.nodes.keys.any (fun k => b.isPrefixOf k && k ≠ b) then
      .error .notEmpty
    else
      .ok { t with nodes := Table.ofList (t.nodes.entries.map fun e =>
        (if a.isPrefixOf e.1 then b ++ e.1.drop a.length else e.1, e.2)) }

/-- Removes a file. -/
def remove (t : Tree) (path : String) : Except IoFault Tree := do
  let (place, directory) ← t.locate path
  match t.node? place with
  | none => .error .notFound
  | some .directory => .error .isDirectory
  | some (.file _) => if directory then .error .notDirectory else .ok (t.erase place)

/-- Goes along the names of a path and makes the directories that are missing. -/
def descend : Tree → List String → List String → Tree × Except IoFault Unit
  | t, _, [] => (t, .ok ())
  | t, here, name :: rest =>
    if name = "" || name = "." then descend t here rest
    else if name = ".." then descend t here.dropLast rest
    else if longestName < name.utf8ByteSize then (t, .error .nameTooLong)
    else
      let place := here ++ [name]
      match t.node? place with
      | some .directory => descend t place rest
      | some (.file _) =>
        (t, .error (if rest.all (fun n => n = "" || n = ".") then .exists else .notDirectory))
      | none => descend (t.set place .directory) place rest

/-- Makes a directory and those it is in. -/
def createAll (t : Tree) (path : String) : Tree × Except IoFault Unit :=
  if path.isEmpty then (t, .ok ())
  else if path.toList.contains '\x00' then (t, .error .nulInName)
  else if longestPath < path.utf8ByteSize then (t, .error .nameTooLong)
  else t.descend (if Path.isAbsolute path then [] else t.working) (Path.names path)

/-- The tree after an operation that gives a new tree or fails. -/
def settle (t : Tree) : Except IoFault Tree → Except IoFault Unit × Tree
  | .ok t' => (.ok (), t')
  | .error e => (.error e, t)

/-- The answer to a file operation and the tree after it. -/
def perform (t : Tree) : (op : Files.Operation) → Except IoFault op.Result × Tree
  | .read path => (t.read path, t)
  | .write path text => t.settle (t.writeBytes path (Text.encode text))
  | .rename source target => t.settle (t.rename source target)
  | .remove path => t.settle (t.remove path)
  | .createAll path =>
    let (t', result) := t.createAll path
    (result, t')

/-- File operations answered by a tree. -/
def answer (op : Files.Operation) : StateM Tree (Except IoFault op.Result) := fun t => t.perform op

def run {α : Type} (p : FileProgram α) (t : Tree) : α × Tree := Program.run answer p t

def empty : Tree := ⟨Table.empty, []⟩

end Tree

end ConditionalGet
