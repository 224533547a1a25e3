import ConditionalGet.Proofs.Files.Obstacles
import ConditionalGet.Proofs.Store.Layout
import ConditionalGet.Proofs.Store.Course

/-!
# What is missing and what cannot be read

A store takes a file for missing only if it is. `Opening` says what opening a store comes to by what
is in the tree and what stands in the way, `LookingUp` says it of looking up a URI: an index or a
body that is there but cannot be read is an error that names it, never an empty store or a validator
without a body. `unreadable_is_not_missing` proves both of every tree, whatever stands in the way.
-/

set_option autoImplicit false

namespace ConditionalGet

open Program ConditionalGet.Tree

/-! ## The text of an index -/

namespace Index

/-- An index is parsed if it reads as one of version 1. -/
theorem parse_ok_iff {text : String} {index : Index} :
    parse text = .ok index ↔ versioned.whole text = .ok (1, index) := by
  rw [parse]
  cases hw : versioned.whole text with
  | error complaint => simp
  | ok found =>
    obtain ⟨v, index'⟩ := found
    by_cases hv : v = version
    · simp [hv, version]
    · have hv' : v ≠ 1 := hv
      simp [hv, hv']

/-- Why a text is no index of version 1. -/
def Rejected (text : String) (flaw : IndexFlaw) : Prop :=
  (∃ complaint, versioned.whole text = .error complaint ∧ flaw = .unreadable complaint) ∨
    ∃ v index, versioned.whole text = .ok (v, index) ∧ v ≠ 1 ∧ flaw = .unsupportedVersion v

theorem parse_error_iff {text : String} {flaw : IndexFlaw} :
    parse text = .error flaw ↔ Rejected text flaw := by
  rw [parse, Rejected]
  cases hw : versioned.whole text with
  | error complaint => simp [eq_comm]
  | ok found =>
    obtain ⟨v, index'⟩ := found
    by_cases hv : v = version
    · simp [hv, version]
    · have hv' : v ≠ 1 := hv
      simp [hv, hv', eq_comm]

end Index

namespace DiskStore

/-! ## What opening and looking up come to -/

/-- The index in a directory: an empty one where there is none yet, or that of the text. -/
def HasIndex (b : Obstacles) (dir : String) (t : Tree) (index : Index) : Prop :=
  b.Gone t (indexPath dir) ∧ index = Table.empty ∨
    ∃ text, b.Readable t (indexPath dir) text ∧ Index.versioned.whole text = .ok (1, index)

/-- What opening a store comes to, where `t'` is the tree after it. -/
structure Opening (b : Obstacles) (dir : String) (t : Tree) (x : Except StoreError DiskStore)
    (t' : Tree) : Prop where
  opened : ∀ disk, x = .ok disk ↔
    b.Makes t (bodiesPath dir) ∧ ∃ index, HasIndex b dir t' index ∧ disk = ⟨dir, index, 0⟩
  unmade : (∃ e, x = .error (.io (bodiesPath dir) e)) ↔ ¬b.Makes t (bodiesPath dir)
  unread : (∃ e, x = .error (.io (indexPath dir) e)) ↔ b.Makes t (bodiesPath dir) ∧
    ¬b.Gone t' (indexPath dir) ∧ ∀ text, ¬b.Readable t' (indexPath dir) text
  corrupt : ∀ path flaw, x = .error (.corruptIndex path flaw) ↔ path = indexPath dir ∧
    b.Makes t (bodiesPath dir) ∧ ∃ text, b.Readable t' (indexPath dir) text ∧
      Index.Rejected text flaw
  /-- A fault that is reported is that of the operation on the path. -/
  fault : ∀ path e, x = .error (.io path e) →
    path = bodiesPath dir ∧
        (∃ t₁, b.hindered t (.createAll path) (.error e : Except IoFault Unit) t₁) ∨
      path = indexPath dir ∧ e ≠ .notFound ∧
        b.hindered t' (.read path) (.error e : Except IoFault String) t'
  /-- No file comes, goes or changes. -/
  files : ∀ q, t'.file? q = t.file? q

/-- What looking up a URI comes to, where `t'` is the tree after it. -/
structure LookingUp (b : Obstacles) (disk : DiskStore) (uri : String) (t : Tree)
    (x : Except StoreError Lookup) (t' : Tree) : Prop where
  miss : x = .ok .miss ↔ disk.index.find? uri = none
  hit : ∀ etag body, x = .ok (.hit ⟨etag, body⟩) ↔ ∃ entry, disk.index.find? uri = some entry ∧
    etag = entry.etag ∧ b.Readable t (disk.bodyPath entry.bodyFile) body
  etagOnly : ∀ etag, x = .ok (.etagOnly etag) ↔ ∃ entry, disk.index.find? uri = some entry ∧
    etag = entry.etag ∧ b.Gone t (disk.bodyPath entry.bodyFile)
  unread : (∃ err, x = .error err) ↔ ∃ entry, disk.index.find? uri = some entry ∧
    ¬b.Gone t (disk.bodyPath entry.bodyFile) ∧
      ∀ text, ¬b.Readable t (disk.bodyPath entry.bodyFile) text
  /-- An error names the body file and its fault. -/
  fault : ∀ err, x = .error err → ∃ entry e, disk.index.find? uri = some entry ∧
    err = .io (disk.bodyPath entry.bodyFile) e ∧ e ≠ .notFound ∧
      b.hindered t (.read (disk.bodyPath entry.bodyFile)) (.error e : Except IoFault String) t
  tree : t' = t

section
variable {b : Obstacles} {dir uri : String} {t t' : Tree} {disk : DiskStore}

theorem bodiesPath_ne_indexPath (dir : String) : bodiesPath dir ≠ indexPath dir := by
  intro h
  have hp := congrArg (Path.place []) h
  rw [place_bodiesPath, place_indexPath] at hp
  simp at hp

theorem opening_of_opened {x : Except StoreError DiskStore}
    (h : Opened b.hindered dir t x t') : Opening b dir t x t' := by
  have hne := bodiesPath_ne_indexPath dir
  cases h with
  | unmade hs =>
    obtain ⟨hfiles, hm⟩ := Obstacles.hindered_createAll hs
    have hs := Exists.intro t' hs
    constructor <;> simp [hm, hne, hfiles, hs]
  | fresh hs hr =>
    obtain ⟨hfiles, hm⟩ := Obstacles.hindered_createAll hs
    obtain ⟨rfl, htext, hgone⟩ := Obstacles.hindered_read hr
    have hindex : ∀ index, HasIndex b dir t' index ↔ index = Table.empty := by
      intro index
      simp [HasIndex, htext, hgone]
    constructor <;> simp [hm, htext, hgone, hindex, hfiles, eq_comm]
  | @unread e _ _ _ hs hr he =>
    obtain ⟨hfiles, hm⟩ := Obstacles.hindered_createAll hs
    obtain ⟨rfl, htext, hgone⟩ := Obstacles.hindered_read hr
    have hindex : ∀ index, ¬HasIndex b dir t' index := by
      intro index
      simp [HasIndex, htext, hgone, he]
    constructor <;> simp [hm, htext, hgone, hindex, he, hne.symm, hfiles, hr]
  | @corrupt text flaw _ _ _ hs hr hi =>
    obtain ⟨hfiles, hm⟩ := Obstacles.hindered_createAll hs
    obtain ⟨rfl, htext, hgone⟩ := Obstacles.hindered_read hr
    have hindex : ∀ index, ¬HasIndex b dir t' index := by
      intro index
      simp [HasIndex, htext, hgone, ← Index.parse_ok_iff, hi]
    have hflaw : ∀ flaw', Index.Rejected text flaw' ↔ flaw = flaw' := by
      intro flaw'
      rw [← Index.parse_error_iff, hi, Except.error.injEq]
    constructor <;> simp [hm, htext, hgone, hindex, hflaw, hfiles, eq_comm]
  | @loaded text index _ _ _ hs hr hi =>
    obtain ⟨hfiles, hm⟩ := Obstacles.hindered_createAll hs
    obtain ⟨rfl, htext, hgone⟩ := Obstacles.hindered_read hr
    have hindex : ∀ index', HasIndex b dir t' index' ↔ index = index' := by
      intro index'
      simp [HasIndex, htext, hgone, ← Index.parse_ok_iff, hi]
    have hflaw : ∀ flaw, ¬Index.Rejected text flaw := by
      intro flaw
      simp [← Index.parse_error_iff, hi]
    constructor <;> simp [hm, htext, hgone, hindex, hflaw, hfiles, eq_comm]

theorem lookingUp_of_lookedUp {x : Except StoreError Lookup}
    (h : LookedUp b.hindered disk uri t x t') : LookingUp b disk uri t x t' := by
  cases h with
  | miss hf => constructor <;> simp [hf]
  | hit hf hr =>
    obtain ⟨rfl, htext, hgone⟩ := Obstacles.hindered_read hr
    constructor <;> simp [hf, htext, hgone, eq_comm]
  | gone hf hr =>
    obtain ⟨rfl, htext, hgone⟩ := Obstacles.hindered_read hr
    constructor <;> simp [hf, htext, hgone, eq_comm]
  | unread hf hr he =>
    obtain ⟨rfl, htext, hgone⟩ := Obstacles.hindered_read hr
    constructor <;> simp [hf, htext, hgone, he, hr]

end

/-- **What cannot be read is not missing.** Opening a store finds an empty one only where no index
is, and looking up a URI finds a validator without a body only where its file is missing; all else
that keeps a file from being read is an error. -/
theorem unreadable_is_not_missing :
    (∀ (b : Obstacles) (dir : String) (t : Tree),
      Opening b dir t (b.run (openAt dir).run t).1 (b.run (openAt dir).run t).2) ∧
    ∀ (b : Obstacles) (disk : DiskStore) (uri : String) (t : Tree),
      LookingUp b disk uri t (b.run (disk.lookup uri).run t).1
        (b.run (disk.lookup uri).run t).2 := by
  constructor
  · intro b dir t
    exact opening_of_opened (runs_openAt_iff.1 (Obstacles.runs_run b _ t))
  · intro b disk uri t
    exact lookingUp_of_lookedUp (runs_lookup_iff.1 (Obstacles.runs_run b _ t))

/-! ### Files that may not be read -/

namespace Locked

open Obstacles (locked denied)

def entry : IndexEntry :=
  ⟨"\"v1\"", "body.json", ⟨⟨2020, 1, 1, by decide⟩, 12, 0, 0, 0, by decide⟩⟩

def disk : DiskStore := ⟨"/cache", Table.empty.insert "u" entry, 0⟩

/-- The directory of a store with one response, whose index and body are there. -/
def tree : Tree where
  nodes := Table.ofList [(["cache"], .directory), (["cache", "bodies"], .directory),
    (["cache", "index.json"], .file (Text.encode disk.index.text)),
    (["cache", "bodies", entry.bodyFile], .file (Text.encode "[1]"))]
  working := []

theorem makes_bodies : (locked (indexPath "/cache")).Makes tree (bodiesPath "/cache") := by
  have hmade : (tree.createAll (bodiesPath "/cache")).2 = .ok () := by decide +kernel
  exact ⟨Obstacles.locked_fault_of_ne (by simp), createAll_ok_iff.1 hmade⟩

/-- With the index locked there is no store, and with the body locked no validator, though both
files are there. -/
theorem unreadable_is_not_missing_locked :
    tree.file? ["cache", "index.json"] = some (Text.encode disk.index.text) ∧
      ((locked (indexPath "/cache")).run (openAt "/cache").run tree).1 =
        .error (.io (indexPath "/cache") denied) ∧
      tree.file? ["cache", "bodies", entry.bodyFile] = some (Text.encode "[1]") ∧
      ((locked (disk.bodyPath entry.bodyFile)).run (disk.lookup "u").run tree).1 =
        .error (.io (disk.bodyPath entry.bodyFile) denied) := by
  obtain ⟨hopen, hlookup⟩ := unreadable_is_not_missing
  have hopening := hopen (locked (indexPath "/cache")) "/cache" tree
  have hlooking := hlookup (locked (disk.bodyPath entry.bodyFile)) disk "u" tree
  have hfound : disk.index.find? "u" = some entry :=
    (Table.find?_insert _ _ _ _).trans (if_pos rfl)
  refine ⟨rfl, ?_, rfl, ?_⟩
  · obtain ⟨e, he⟩ := hopening.unread.2
      ⟨makes_bodies, Obstacles.not_gone_locked _ _, Obstacles.not_readable_locked _ _⟩
    rcases hopening.fault _ e he with ⟨hpath, -⟩ | ⟨-, -, hread⟩
    · exact absurd hpath.symm (bodiesPath_ne_indexPath "/cache")
    · rw [he, Except.error.inj (Obstacles.hindered_locked hread)]
  · obtain ⟨err, herr⟩ := hlooking.unread.2
      ⟨entry, hfound, Obstacles.not_gone_locked _ _, Obstacles.not_readable_locked _ _⟩
    obtain ⟨entry', e, hf, rfl, -, hread⟩ := hlooking.fault err herr
    obtain rfl := Option.some.inj (hf.symm.trans hfound)
    rw [herr, Except.error.inj (Obstacles.hindered_locked hread)]

end Locked

end DiskStore

end ConditionalGet
