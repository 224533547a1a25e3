import ConditionalGet.Notice
import ConditionalGet.Path
import ConditionalGet.Sha256
import ConditionalGet.Store.Index
import ConditionalGet.Text.Utf8

/-!
# The store on disk

A directory with an index and one file for each body:

* `index.json` says for each URI the validator and the body file;
* `bodies/` holds the body files, named by a digest.

Every response goes to a fresh body file, and only then does the index name it, so that no entry
ever names a body of another one. Each file is written under another name first and renamed. The
body file of the entry that was replaced is removed last.
-/

set_option autoImplicit false

namespace ConditionalGet

/-- A store on disk that is open: where it is, the index it works with, and how many responses it
has been given. -/
structure DiskStore where
  dir : String
  index : Index
  sequence : UInt64

/-- A program on files that may fail as a store does. -/
abbrev StoreProgram := ExceptT StoreError (Program Files.interface)

namespace DiskStore

def indexPath (dir : String) : String := Path.join dir "index.json"

/-- Where the body files are. -/
def bodiesPath (dir : String) : String := Path.join dir "bodies"

def bodyPath (s : DiskStore) (bodyFile : String) : String := Path.join (bodiesPath s.dir) bodyFile

/-- A file operation on a path whose failure is a failure of the store. -/
def orFail {α : Type} (path : String) (p : FileProgram (Except IoFault α)) : StoreProgram α :=
  ExceptT.mk ((Except.mapError (StoreError.io path)) <$> p)

/-- Writes a text under another name and renames the file. -/
def writeAtomic (path text : String) : StoreProgram Unit := do
  let temporary := Path.withExtension path "tmp"
  orFail temporary (FileProgram.write temporary text)
  orFail path (FileProgram.rename temporary path)

/-! ## Opening -/

/-- Opens the store in a directory, which is made if it does not exist. Without an index file the
store is empty. -/
def openAt (dir : String) : StoreProgram DiskStore := do
  orFail (bodiesPath dir) (FileProgram.createAll (bodiesPath dir))
  match ← (FileProgram.read (indexPath dir) : StoreProgram (Except IoFault String)) with
  | .ok text =>
    match Index.parse text with
    | .ok index => return ⟨dir, index, 0⟩
    | .error flaw => throw (.corruptIndex (indexPath dir) flaw)
  | .error .notFound => return ⟨dir, Table.empty, 0⟩
  | .error fault => throw (.io (indexPath dir) fault)

/-! ## Looking up -/

/-- How many URIs have an entry. -/
def size (s : DiskStore) : Nat := s.index.size

/-- When the entry of a URI was stored. -/
def storedAt? (s : DiskStore) (uri : String) : Option Instant :=
  (s.index.find? uri).map IndexEntry.storedAt

/-- What is on record for a URI. A body file that does not exist leaves the validator alone; any
other failure to read it is an error. This is a lookup that no other call to the same store
interrupts: the entry is not replaced before its body file is read, so there is no looking again for
a file that is gone with its entry. -/
def lookup (s : DiskStore) (uri : String) : StoreProgram Lookup := do
  match s.index.find? uri with
  | none => return .miss
  | some entry =>
    let path := s.bodyPath entry.bodyFile
    match ← (FileProgram.read path : StoreProgram (Except IoFault String)) with
    | .ok body => return .hit ⟨entry.etag, body⟩
    | .error .notFound => return .etagOnly entry.etag
    | .error fault => throw (.io path fault)

/-! ## Storing -/

/-- What is digested for the name of a body file. -/
def nameSeed (uri etag : String) (now : Instant) (sequence : UInt64) : List UInt8 :=
  Text.bytes uri ++ [0] ++ Text.bytes etag ++ [0] ++ Text.bytes now.offsetText ++
    (Sha256.bigEndian 8 sequence.toNat).reverse

/-- The name of the body file of a response: the digest of its URI, its validator, the time and its
number. -/
def bodyName (uri etag : String) (now : Instant) (sequence : UInt64) : String :=
  String.ofList ((Sha256.digest (nameSeed uri etag now sequence)).flatMap Text.hexByte) ++ ".json"

/-- Writes an index in place of the one on disk. -/
def persist (s : DiskStore) (index : Index) : StoreProgram Unit :=
  writeAtomic (indexPath s.dir) index.text

/-- Removes the body file of a replaced entry; that it is gone already is no reason for a notice. -/
def discard (path : String) : FileProgram (Option Notice) := do
  match ← FileProgram.remove path with
  | .ok () | .error .notFound => return none
  | .error fault => return some (.leftover path fault)

/-- Stores a response at the moment `now`. The index changes only once it is on disk; if that
fails, the new body file is removed again. -/
def store (s : DiskStore) (now : Instant) (uri etag body : String) :
    FileProgram (DiskStore × Except StoreError (Option Notice)) := do
  let bodyFile := bodyName uri etag now s.sequence
  let bodyPath := s.bodyPath bodyFile
  let counted := { s with sequence := s.sequence + 1 }
  match ← (writeAtomic bodyPath body).run with
  | .error e => return (counted, .error e)
  | .ok () =>
    let index := s.index.insert uri ⟨etag, bodyFile, now⟩
    match ← (counted.persist index).run with
    | .error e => do
      let _ ← FileProgram.remove bodyPath
      return (counted, .error e)
    | .ok () =>
      let changed := { counted with index := index }
      match s.index.find? uri with
      | none => return (changed, .ok none)
      | some previous => return (changed, .ok (← discard (s.bodyPath previous.bodyFile)))

/-- The store that keeps its index in the state of `m`, on files and with a clock that are actions
of `m`. -/
def shared {m : Type → Type} [Monad m] [MonadStateOf DiskStore m]
    (files : (op : Files.Operation) → m (Except IoFault op.Result)) (now : m Instant)
    (notify : Notice → m Unit) : Store m where
  lookup uri := do Program.run files ((← getThe DiskStore).lookup uri).run
  store uri etag body := do
    let (changed, result) ← Program.run files ((← getThe DiskStore).store (← now) uri etag body)
    set changed
    match result with
    | .error e => return .error e
    | .ok none => return .ok ()
    | .ok (some notice) => do
      notify notice
      return .ok ()

end DiskStore

end ConditionalGet
