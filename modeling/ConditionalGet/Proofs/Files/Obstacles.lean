import ConditionalGet.Proofs.Files.Faults

/-!
# Why a file is not read

What reading a file and making a directory come to, said of what is in the tree: a path that leads
to a file with a text (`Tree.Holds`), one on which something is missing (`Tree.Missing`), and one
along which directories are or can be made (`Tree.Makeable`). By `read_eq_ok_iff`,
`read_eq_notFound_iff` and `createAll_ok_iff` the operations tell these from all else that there may
be. `Tree.Obstacles` stand in the way of operations for reasons that are not in the tree.
-/

set_option autoImplicit false

namespace ConditionalGet.Tree

open ConditionalGet.Path

variable {t t' : Tree} {path text : String}

/-! ## Reading -/

/-- A path leads to a file with a text. -/
def Holds (t : Tree) (path text : String) : Prop :=
  ∃ place bytes, t.locate path = .ok (place, false) ∧ t.node? place = some (.file bytes) ∧
    Text.decode? bytes = some text

/-- From a directory, the names lead to nothing: what one of them should lead to is not there, and
those before it lead to directories. -/
def Lost (t : Tree) : List String → List String → Prop
  | here, [] => t.node? here = none
  | here, name :: rest =>
    if name = "" || name = "." then Lost t here rest
    else if name = ".." then Lost t here.dropLast rest
    else name.utf8ByteSize ≤ longestName ∧ (t.node? (here ++ [name]) = none ∨
      t.node? (here ++ [name]) = some .directory ∧ Lost t (here ++ [name]) rest)

/-- A path on which something is missing, the file or a directory it should be in. -/
def Missing (t : Tree) (path : String) : Prop :=
  '\x00' ∉ path.toList ∧ (path = "" ∨
    path.utf8ByteSize ≤ longestPath ∧ t.Lost (origin t.working path) (names path))

theorem read_eq_ok_iff : t.read path = .ok text ↔ t.Holds path text := by
  constructor
  · intro h
    obtain ⟨bytes, hb, hd⟩ := readBytes_of_read h
    obtain ⟨directory, hl, h⟩ := bind_locate_eq_ok hb
    dsimp only at h
    split at h
    · cases h
    · cases h
    · rename_i hn
      split at h
      · cases h
      rename_i hfile
      cases h
      rw [Bool.not_eq_true] at hfile
      rw [hfile] at hl
      exact ⟨_, bytes, hl, hn, hd⟩
  · intro ⟨place, bytes, hl, hn, hd⟩
    rw [read, readBytes, hl]
    simp only [bind, Except.bind, hn, hd, Bool.false_eq_true, if_false]

/-- A walk leads to nothing if it fails for a missing directory or ends where nothing is. -/
theorem walk_lost_iff {here names : List String} :
    (t.walk here names = .error .notFound ∨
      ∃ place directory, t.walk here names = .ok (place, directory) ∧ t.node? place = none) ↔
      t.Lost here names := by
  induction names generalizing here with
  | nil => simp [walk, Lost]
  | cons name rest ih =>
    simp only [walk, Lost]
    split
    · exact ih
    split
    · exact ih
    split
    · rename_i hlong
      simp [Nat.not_le.2 hlong]
    rename_i hlong
    simp only [Nat.not_lt.1 hlong, true_and]
    cases hn : t.node? (here ++ [name]) with
    | none =>
      -- whether the walk stops here or fails, there is nothing
      simp only [true_or, iff_true]
      split
      · exact .inr ⟨_, _, rfl, hn⟩
      split
      · exact .inr ⟨_, _, rfl, hn⟩
      · exact .inl rfl
    | some node =>
      cases node with
      | file bytes =>
        split <;> simp [hn]
      | directory =>
        simp only [reduceCtorEq, false_or, true_and]
        split
        · rename_i hrest
          rw [hrest]
          simp [Lost, hn]
        · exact ih

/-- Reading finds nothing if a walk along the path leads to nothing. -/
theorem read_eq_notFound_iff_locate : t.read path = .error .notFound ↔
    t.locate path = .error .notFound ∨
      ∃ place directory, t.locate path = .ok (place, directory) ∧ t.node? place = none := by
  rw [read, readBytes]
  cases hl : t.locate path with
  | error e => simp [bind, Except.bind]
  | ok found =>
    obtain ⟨place, directory⟩ := found
    simp only [bind, Except.bind]
    cases hn : t.node? place with
    | none => simp [hn]
    | some node =>
      cases node with
      | directory => simp [hn]
      | file bytes =>
        cases directory with
        | true => simp [hn]
        | false =>
          cases hd : Text.decode? bytes <;> simp [hn, hd]

/-- **Reading a file finds nothing exactly when something on its path is missing.** -/
theorem read_eq_notFound_iff : t.read path = .error .notFound ↔ t.Missing path := by
  rw [read_eq_notFound_iff_locate, Missing, locate, ← walk_lost_iff, origin]
  by_cases hnul : '\x00' ∈ path.toList
  · simp [hnul]
  by_cases hempty : path = ""
  · simp [hempty]
  by_cases hlong : longestPath < path.utf8ByteSize
  · simp [hnul, hempty, hlong, Nat.not_le.2 hlong]
  · simp [hnul, hempty, hlong, Nat.not_lt.1 hlong]

/-! ## Making directories -/

/-- From a directory, no name leads to a file. -/
def Free (t : Tree) : List String → List String → Prop
  | _, [] => True
  | here, name :: rest =>
    if name = "" || name = "." then Free t here rest
    else if name = ".." then Free t here.dropLast rest
    else name.utf8ByteSize ≤ longestName ∧ t.file? (here ++ [name]) = none ∧
      Free t (here ++ [name]) rest

/-- A path along which directories are or can be made. -/
def Makeable (t : Tree) (path : String) : Prop :=
  '\x00' ∉ path.toList ∧ path.utf8ByteSize ≤ longestPath ∧
    t.Free (origin t.working path) (names path)

theorem Free.congr (hf : ∀ q, t'.file? q = t.file? q) {here names : List String} :
    t'.Free here names ↔ t.Free here names := by
  induction names generalizing here with
  | nil => rfl
  | cons name rest ih => simp only [Free, ih, hf]

theorem descend_ok_iff {here names : List String} :
    (t.descend here names).2 = .ok () ↔ t.Free here names := by
  induction names generalizing t here with
  | nil => simp [descend, Free]
  | cons name rest ih =>
    simp only [descend, Free]
    split
    · exact ih
    split
    · exact ih
    split
    · rename_i hlong
      simp [Nat.not_le.2 hlong]
    rename_i hlong
    simp only [Nat.not_lt.1 hlong, true_and]
    cases hn : t.node? (here ++ [name]) with
    | none =>
      -- the directory that is made is no file either
      have hset : ∀ q, (t.set (here ++ [name]) .directory).file? q = t.file? q := by
        intro q
        apply file?_of_added
        rw [node?_set (ne_nil_of_none hn)]
        by_cases hq : q = here ++ [name]
        · exact .inr ⟨hq ▸ hn, if_pos hq⟩
        · exact .inl (if_neg hq)
      have hfile : t.file? (here ++ [name]) = none := by rw [file?, hn]
      simp only [hfile, true_and]
      exact ih.trans (Free.congr hset)
    | some node =>
      cases node with
      | file bytes => simp [file?_eq_some_iff.2 hn]
      | directory =>
        have hfile : t.file? (here ++ [name]) = none := by rw [file?, hn]
        simp only [hfile, true_and]
        exact ih

theorem createAll_ok_iff : (t.createAll path).2 = .ok () ↔ t.Makeable path := by
  rw [createAll, Makeable, ← descend_ok_iff, origin]
  by_cases hempty : path = ""
  · subst hempty
    have hnames : names "" = [""] := by decide
    simp [hnames, descend]
  by_cases hnul : '\x00' ∈ path.toList
  · simp [hempty, hnul]
  by_cases hlong : longestPath < path.utf8ByteSize
  · simp [hempty, hnul, hlong, Nat.not_le.2 hlong]
  · simp [hempty, hnul, hlong, Nat.not_lt.1 hlong]

/-! ## Obstacles -/

/-- What stands in the way of operations beside the tree. None of it is that something is missing;
directories may be made up to some name before making them fails. -/
structure Obstacles where
  fault : Files.Operation → Option IoFault
  made : String → Nat
  other : ∀ op, fault op ≠ some .notFound

namespace Obstacles

variable (b : Obstacles)

/-- The tree after an operation that an obstacle makes fail. -/
def left (t : Tree) : Files.Operation → Tree
  | .createAll path => (t.descend (origin t.working path) ((names path).take (b.made path))).1
  | _ => t

/-- File operations answered by a tree with obstacles. -/
def answer (op : Files.Operation) : StateM Tree (Except IoFault op.Result) := fun t =>
  match b.fault op with
  | none => t.perform op
  | some e => (.error e, b.left t op)

/-- The environment of a file system with obstacles. -/
def hindered : Program.Answering Files.interface Tree := Program.answering b.answer

/-- Runs a file program on a tree with obstacles. -/
def run {α : Type} (p : FileProgram α) (t : Tree) : α × Tree := Program.run b.answer p t

/-- A text can be read. -/
def Readable (t : Tree) (path text : String) : Prop :=
  b.fault (.read path) = none ∧ t.Holds path text

/-- Nothing is there, and there is nothing in the way of seeing it. -/
def Gone (t : Tree) (path : String) : Prop := b.fault (.read path) = none ∧ t.Missing path

/-- A directory is there or can be made. -/
def Makes (t : Tree) (path : String) : Prop :=
  b.fault (.createAll path) = none ∧ t.Makeable path

variable {b}

theorem answer_read_ok_iff : (b.answer (.read path) t).1 = .ok text ↔ b.Readable t path text := by
  rw [answer, Readable, ← read_eq_ok_iff]
  cases b.fault (.read path) with
  | none => exact (and_iff_right rfl).symm
  | some e => simp

theorem Readable.unique {text' : String} (h : b.Readable t path text)
    (h' : b.Readable t path text') : text = text' :=
  Except.ok.inj ((answer_read_ok_iff.2 h).symm.trans (answer_read_ok_iff.2 h'))

theorem answer_read_notFound_iff :
    (b.answer (.read path) t).1 = .error .notFound ↔ b.Gone t path := by
  rw [answer, Gone, ← read_eq_notFound_iff]
  cases hf : b.fault (.read path) with
  | none => exact (and_iff_right rfl).symm
  | some e =>
    have he : e ≠ .notFound := fun he => b.other (.read path) (he ▸ hf)
    simp [he]

theorem answer_createAll_ok_iff :
    (b.answer (.createAll path) t).1 = .ok () ↔ b.Makes t path := by
  rw [answer, Makes, ← createAll_ok_iff]
  cases b.fault (.createAll path) with
  | none => exact (and_iff_right rfl).symm
  | some e => simp

/-- Operations fail for an obstacle as operations may fail. -/
theorem faulty_of_hindered {op : Files.Operation} {r : Except IoFault op.Result}
    (h : b.hindered t op r t') : faulty t op r t' := by
  have h : b.answer op t = (r, t') := h
  rw [answer] at h
  cases hf : b.fault op with
  | none =>
    rw [hf] at h
    exact .inl h
  | some e =>
    rw [hf] at h
    cases h
    refine .inr ⟨e, rfl, ?_⟩
    cases op with
    | createAll path => exact .made (List.take_append_drop (b.made path) (names path)).symm
    | read path => exact .nothing
    | write path text => exact .nothing
    | rename source target => exact .nothing
    | remove path => exact .nothing

/-- Reading leaves the tree alone, and how it comes out tells what is there. -/
theorem hindered_read {r : Except IoFault String} (h : b.hindered t (.read path) r t') :
    t' = t ∧ (∀ text, b.Readable t path text ↔ r = .ok text) ∧
      (b.Gone t path ↔ r = .error .notFound) := by
  have hr : (b.answer (.read path) t).1 = r := congrArg Prod.fst h
  exact ⟨(faulty_read (faulty_of_hindered h)).1, fun text => hr ▸ answer_read_ok_iff.symm,
    hr ▸ answer_read_notFound_iff.symm⟩

/-- Making directories leaves the files alone, and fails if they cannot be made. -/
theorem hindered_createAll {r : Except IoFault Unit} (h : b.hindered t (.createAll path) r t') :
    (∀ q, t'.file? q = t.file? q) ∧ (b.Makes t path ↔ r = .ok ()) := by
  have hr : (b.answer (.createAll path) t).1 = r := congrArg Prod.fst h
  exact ⟨(faulty_createAll (faulty_of_hindered h)).2, hr ▸ answer_createAll_ok_iff.symm⟩

theorem runs_run {α : Type} (b : Obstacles) (p : FileProgram α) (t : Tree) :
    Program.Runs b.hindered p t (b.run p t).1 (b.run p t).2 :=
  Program.runs_answer_iff.2 rfl

/-! ### A file that may not be read -/

def denied : IoFault := .other "Permission denied (os error 13)"

/-- The file at a path may not be read, and nothing else is in the way. -/
def locked (path : String) : Obstacles where
  fault op := if op = .read path then some denied else none
  made _ := 0
  other op := by split <;> simp [denied]

theorem locked_fault (path : String) : (locked path).fault (.read path) = some denied := if_pos rfl

theorem locked_fault_of_ne {op : Files.Operation} (h : op ≠ .read path) :
    (locked path).fault op = none := if_neg h

theorem not_readable_locked (t : Tree) (path text : String) :
    ¬(locked path).Readable t path text := by
  rintro ⟨hfault, -⟩
  rw [locked_fault] at hfault
  cases hfault

theorem not_gone_locked (t : Tree) (path : String) : ¬(locked path).Gone t path := by
  rintro ⟨hfault, -⟩
  rw [locked_fault] at hfault
  cases hfault

/-- The fault of reading the file is that it may not be read. -/
theorem hindered_locked {r : Except IoFault String}
    (h : (locked path).hindered t (.read path) r t') : r = .error denied := by
  have hanswer : (locked path).answer (.read path) t = (.error denied, t) := by
    rw [answer, locked_fault]
    rfl
  exact (Prod.mk.inj (h.symm.trans hanswer)).1

end Obstacles

end ConditionalGet.Tree
