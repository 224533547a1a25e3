import ConditionalGet.Proofs.Runs
import ConditionalGet.Files.Tree
import ConditionalGet.Store.Disk
import ConditionalGet.Store.Memory

/-!
# Calls to a store

The calls that can be made to any store (`Store.Call`) and what comes of them (`Store.Reply`).
`Memory.replies` are those of a store in memory, `DiskStore.replies` those of a store on disk that
may be opened anew at any point, on a `Machine` with a tree of files and a clock. `run_store`,
`run_lookup` and `run_reopen` bring what is done on disk down to a run of the program behind it.
-/

set_option autoImplicit false

namespace ConditionalGet

open Program

/-! ## Calls and replies -/

inductive Store.Call where
  | store (uri etag body : String)
  | lookup (uri : String)
  | etagOf (uri : String)
  | bodyOf (uri : String)
  | size
  | isEmpty

inductive Store.Reply where
  | stored
  | found (lookup : Lookup)
  | text (text : Option String)
  | size (n : Nat)
  | isEmpty (b : Bool)
  | failed (e : StoreError)

/-- The reply that a result gives. -/
def Store.Reply.of {α : Type} (reply : α → Store.Reply) : Except StoreError α → Store.Reply
  | .ok a => reply a
  | .error e => .failed e

/-- A file operation failed. -/
def Store.Reply.IoFailure : Store.Reply → Prop
  | .failed (.io _ _) => True
  | _ => False

/-- Makes a call to a store that keeps a response of type `ρ` for each URI in its state. -/
def Store.Call.make {m : Type → Type} [Monad m] {ρ : Type} (store : Store m)
    (content : m (Table String ρ)) : Store.Call → m Store.Reply
  | .store uri etag body => Reply.of (fun _ => .stored) <$> store.store uri etag body
  | .lookup uri => Reply.of .found <$> store.lookup uri
  | .etagOf uri => Reply.of .text <$> store.etag? uri
  | .bodyOf uri => Reply.of .text <$> store.body? uri
  | .size => (fun t => .size t.size) <$> content
  | .isEmpty => (fun t => .isEmpty t.isEmpty) <$> content

/-- What happens to a store on disk: a call, or the directory is opened anew. -/
inductive DiskStore.Event where
  | call (c : Store.Call)
  | reopen

def DiskStore.Event.call? : DiskStore.Event → Option Store.Call
  | .call c => some c
  | .reopen => none

/-! ## In memory -/

def Memory.make (c : Store.Call) : StateM Memory Store.Reply := c.make Memory.shared get

def Memory.replies : List Store.Call → StateM Memory (List Store.Reply)
  | [] => return []
  | c :: rest => return (← Memory.make c) :: (← Memory.replies rest)

/-! ## On disk -/

/-- A tree of files with a clock, and how often the clock was read. -/
structure Machine where
  tree : Tree
  readings : Nat

namespace Machine

def files (op : Files.Operation) : StateM Machine (Except IoFault op.Result) := fun w =>
  let (r, tree) := w.tree.perform op
  (r, { w with tree })

def now (clock : Nat → Instant) : StateM Machine Instant := fun w =>
  (clock w.readings, { w with readings := w.readings + 1 })

end Machine

namespace DiskStore

abbrev OnMachine := StateT DiskStore (StateM Machine)

def files (op : Files.Operation) : OnMachine (Except IoFault op.Result) := Machine.files op

def onMachine (clock : Nat → Instant) : Store OnMachine :=
  DiskStore.shared files (Machine.now clock) fun _ => pure ()

def make (clock : Nat → Instant) (c : Store.Call) : OnMachine Store.Reply :=
  c.make (onMachine clock) do return (← getThe DiskStore).index

/-- Opens the directory of the store anew. -/
def reopen : OnMachine (Except StoreError Unit) := do
  match ← Program.run files (openAt (← getThe DiskStore).dir).run with
  | .ok disk =>
    set disk
    return .ok ()
  | .error e => return .error e

/-- The replies of the store on disk; one that cannot be opened anew says so. -/
def replies (clock : Nat → Instant) : List Event → OnMachine (List Store.Reply)
  | [] => return []
  | .call c :: rest => return (← make clock c) :: (← replies clock rest)
  | .reopen :: rest => do
    match ← reopen with
    | .ok () => replies clock rest
    | .error e => return .failed e :: (← replies clock rest)

/-- The replies of a store that is opened in a directory of a tree; if it cannot be opened, that is
the only one. -/
def repliesIn (clock : Nat → Instant) (t : Tree) (dir : String) (events : List Event) :
    List Store.Reply :=
  match t.run (openAt dir).run with
  | (.ok disk, t') => (((replies clock events).run disk).run ⟨t', 0⟩).1.1
  | (.error e, _) => [.failed e]

/-- The names of the body files that the calls of a sequence write, from a reading of the clock and
a number of responses on. -/
def bodyNames (clock : Nat → Instant) : Nat → UInt64 → List Event → List String
  | _, _, [] => []
  | n, sequence, .call (.store uri etag _) :: rest =>
    bodyName uri etag (clock n) sequence :: bodyNames clock (n + 1) (sequence + 1) rest
  | n, sequence, .call _ :: rest => bodyNames clock n sequence rest
  | n, _, .reopen :: rest => bodyNames clock n 0 rest

/-! ## The programs behind the calls -/

theorem run_files {α : Type} (p : FileProgram α) (disk : DiskStore) (w : Machine) :
    ((p.run files).run disk).run w =
      (((w.tree.run p).1, disk), { w with tree := (w.tree.run p).2 }) := by
  induction p generalizing w with
  | pure a => rfl
  | ask op next ih => exact ih _ _

theorem run_files_bind {α β : Type} (p : FileProgram α) (f : α → OnMachine β) (disk : DiskStore)
    (w : Machine) :
    ((p.run files >>= f).run disk).run w =
      ((f (w.tree.run p).1).run disk).run { w with tree := (w.tree.run p).2 } := by
  rw [StateT.run_bind]
  exact congrArg (fun y => ((f y.1.1).run y.1.2).run y.2) (run_files p disk w)

variable (clock : Nat → Instant) (disk : DiskStore) (w : Machine)

/-- A program that is told the time. -/
theorem run_now_files_bind {α β : Type} (p : DiskStore → Instant → FileProgram α)
    (f : α → OnMachine β) :
    (((do
      let disk ← getThe DiskStore
      let now ← (Machine.now clock : OnMachine Instant)
      (p disk now).run files >>= f : OnMachine β).run disk).run w) =
      ((f (w.tree.run (p disk (clock w.readings))).1).run disk).run
        ⟨(w.tree.run (p disk (clock w.readings))).2, w.readings + 1⟩ :=
  run_files_bind (p disk (clock w.readings)) f disk ⟨w.tree, w.readings + 1⟩

theorem run_lookup (uri : String) :
    (((onMachine clock).lookup uri).run disk).run w =
      (((w.tree.run (disk.lookup uri).run).1, disk),
        { w with tree := (w.tree.run (disk.lookup uri).run).2 }) :=
  run_files _ _ _

/-- What is said of a stored response. -/
def outcome : Except StoreError (Option Notice) → Except StoreError Unit
  | .ok _ => .ok ()
  | .error e => .error e

/-- What the store does with what has come of storing a response. -/
def settled (x : DiskStore × Except StoreError (Option Notice)) :
    OnMachine (Except StoreError Unit) := do
  set x.1
  match x.2 with
  | .error e => return .error e
  | .ok none => return .ok ()
  | .ok (some _) => do
    pure ()
    return .ok ()

theorem run_store (uri etag body : String) :
    (((onMachine clock).store uri etag body).run disk).run w =
      let y := w.tree.run (disk.store (clock w.readings) uri etag body)
      ((outcome y.1.2, y.1.1), ⟨y.2, w.readings + 1⟩) := by
  have hstore : (onMachine clock).store uri etag body = (do
      let disk ← getThe DiskStore
      let now ← (Machine.now clock : OnMachine Instant)
      (disk.store now uri etag body).run files >>= settled) := rfl
  rw [hstore, run_now_files_bind clock disk w fun disk now => disk.store now uri etag body]
  obtain ⟨⟨changed, e | notice⟩, tree⟩ := w.tree.run (disk.store (clock w.readings) uri etag body)
  · rfl
  · cases notice <;> rfl

theorem run_map {α β : Type} (f : α → β) (x : OnMachine α) :
    ((f <$> x).run disk).run w =
      ((f ((x.run disk).run w).1.1, ((x.run disk).run w).1.2), ((x.run disk).run w).2) := rfl

/-- What the store does with what has come of opening the directory. -/
def reopened : Except StoreError DiskStore → OnMachine (Except StoreError Unit)
  | .ok disk => do
    set disk
    return .ok ()
  | .error e => return .error e

theorem run_reopen :
    (reopen.run disk).run w =
      ((reopened (w.tree.run (openAt disk.dir).run).1).run disk).run
        { w with tree := (w.tree.run (openAt disk.dir).run).2 } := by
  have hreopen : reopen = (do
      let disk ← getThe DiskStore
      (openAt disk.dir).run.run files >>= reopened) := rfl
  rw [hreopen]
  exact run_files_bind (openAt disk.dir).run reopened disk w

/-! ## Reply by reply -/

section
variable {clock : Nat → Instant} {disk : DiskStore} {w : Machine} {rest : List Event}

theorem replies_call (c : Store.Call) :
    (((replies clock (.call c :: rest)).run disk).run w).1.1 =
      (((make clock c).run disk).run w).1.1 ::
        (((replies clock rest).run (((make clock c).run disk).run w).1.2).run
          (((make clock c).run disk).run w).2).1.1 := rfl

theorem replies_reopen_of_ok {disk' : DiskStore} {w' : Machine}
    (h : (reopen.run disk).run w = ((.ok (), disk'), w')) :
    (((replies clock (.reopen :: rest)).run disk).run w).1.1 =
      (((replies clock rest).run disk').run w').1.1 := by
  rw [replies, StateT.run_bind, StateT.run_bind, h]
  rfl

theorem failed_mem_replies {e : StoreError} (h : ((reopen.run disk).run w).1.1 = .error e) :
    .failed e ∈ (((replies clock (.reopen :: rest)).run disk).run w).1.1 := by
  rw [replies, StateT.run_bind, StateT.run_bind]
  generalize (reopen.run disk).run w = z at h
  obtain ⟨⟨x, disk'⟩, w'⟩ := z
  cases h
  exact List.mem_cons_self

end

end DiskStore

end ConditionalGet
