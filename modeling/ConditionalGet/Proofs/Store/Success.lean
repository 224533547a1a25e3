import ConditionalGet.Proofs.Files.Reaching
import ConditionalGet.Proofs.Store.Footprint

/-!
# Calls that succeed

On a tree whose operations fail only if it does not allow them, a file is replaced if its directory
is there, its place and that of the file written before it are no directories, and the path is not
too long (`Replaced.succeeds`), and a response is stored if both of its files are replaced
(`Stored.succeeds`).
-/

set_option autoImplicit false

namespace ConditionalGet.DiskStore

open Program ConditionalGet.Path

variable {t t' : Tree}

/-! ## Single operations -/

theorem exact_read {path : String} {r : Except IoFault String}
    (h : Tree.exact t (.read path) r t') : t.read path = r ∧ t' = t := by
  have hpair : (t.read path, t) = (r, t') := h
  cases hpair
  exact ⟨rfl, rfl⟩

theorem exact_createAll {path : String} {r : Except IoFault Unit}
    (h : Tree.exact t (.createAll path) r t') : t.createAll path = (t', r) := by
  have hpair : ((t.createAll path).2, (t.createAll path).1) = (r, t') := h
  cases hpair
  rfl

theorem exact_of_read {path : String} {r : Except IoFault String} (h : t.read path = r) :
    Tree.exact t (.read path) r t := congrArg (·, t) h

theorem exact_of_createAll {path : String} {r : Except IoFault Unit}
    (h : t.createAll path = (t', r)) : Tree.exact t (.createAll path) r t' :=
  congrArg Prod.swap h

theorem exact_write {path text : String} {r : Except IoFault Unit}
    (h : Tree.exact t (.write path text) r t') :
    (t.writeBytes path (Text.encode text) = .ok t' ∧ r = .ok ()) ∨
      ∃ e, t.writeBytes path (Text.encode text) = .error e ∧ r = .error e ∧ t' = t :=
  Tree.settle_eq_iff.1 h

theorem exact_rename {source target : String} {r : Except IoFault Unit}
    (h : Tree.exact t (.rename source target) r t') :
    (t.rename source target = .ok t' ∧ r = .ok ()) ∨
      ∃ e, t.rename source target = .error e ∧ r = .error e ∧ t' = t :=
  Tree.settle_eq_iff.1 h

/-! ## Replacing a file -/

theorem Replaced.faulty_of_exact {path text : String} {x : Except StoreError Unit}
    (h : Replaced Tree.exact path text t x t') : Replaced Tree.faulty path text t x t' :=
  runs_writeAtomic_iff.1 (Tree.runs_faulty_of_exact (runs_writeAtomic_iff.2 h))

/-- Only a file operation makes it fail. -/
theorem Replaced.io_of_error {σ : Type} {step : Answering Files.interface σ} {s s' : σ}
    {path text : String} {e : StoreError} (h : Replaced step path text s (.error e) s') :
    ∃ at' fault, e = .io at' fault := by
  cases h with
  | unwritten => exact ⟨_, _, rfl⟩
  | unrenamed => exact ⟨_, _, rfl⟩

/-- Where a file can be replaced. -/
structure Replaceable (t : Tree) (base name temp : String) : Prop where
  leads : t.Leads base
  plain : Plain name
  plain_temp : Plain temp
  temporary_eq : temporary (join base name) = join base temp
  clean : '\x00' ∉ (lead base).toList
  short : (join base name).utf8ByteSize ≤ Tree.longestPath
  short_temp : (join base temp).utf8ByteSize ≤ Tree.longestPath
  directory : t.isDirectory (Path.place t.working base) = true
  free : t.node? (Path.place t.working base ++ [name]) ≠ some .directory
  free_temp : t.node? (Path.place t.working base ++ [temp]) ≠ some .directory

section
variable {base name temp : String}

theorem Replaceable.of_sameDirectories (h : Replaceable t base name temp)
    (hs : Tree.SameDirectories t t') : Replaceable t' base name temp where
  leads := hs.leads h.leads
  plain := h.plain
  plain_temp := h.plain_temp
  temporary_eq := h.temporary_eq
  clean := h.clean
  short := h.short
  short_temp := h.short_temp
  directory := by rw [hs.working, hs.isDirectory, h.directory]
  free := by
    rw [hs.working, Ne, hs.directory]
    exact h.free
  free_temp := by
    rw [hs.working, Ne, hs.directory]
    exact h.free_temp

theorem Replaceable.locate (h : Replaceable t base name temp) :
    t.locate (join base name) = .ok (Path.place t.working base ++ [name], false) := by
  rw [Tree.locate_join h.leads h.plain, if_neg h.clean, if_neg (Nat.not_lt.2 h.short)]

theorem Replaceable.locate_temp (h : Replaceable t base name temp) :
    t.locate (join base temp) = .ok (Path.place t.working base ++ [temp], false) := by
  rw [Tree.locate_join h.leads h.plain_temp, if_neg h.clean, if_neg (Nat.not_lt.2 h.short_temp)]

theorem Replaced.succeeds {text : String} {x : Except StoreError Unit}
    (h : Replaceable t base name temp) (hr : Replaced Tree.exact (join base name) text t x t') :
    x = .ok () := by
  have hwrite := Tree.writeBytes_ok h.locate_temp (by rw [List.dropLast_concat, h.directory])
    h.free_temp (Text.encode text)
  cases hr with
  | done => rfl
  | unwritten hw =>
    rw [h.temporary_eq] at hw
    obtain ⟨-, he⟩ | ⟨e, hw, -, -⟩ := exact_write hw
    · cases he
    · obtain ⟨u, hu⟩ := hwrite
      cases hu.symm.trans hw
  | @unrenamed _ _ t₁ _ hw hr =>
    rw [h.temporary_eq] at hw hr
    obtain ⟨hw, -⟩ | ⟨e, -, he, -⟩ := exact_write hw
    · have hs := Tree.sameDirectories_of_writeBytes hw
      have h₁ := h.of_sameDirectories hs
      have hfile : t₁.file? (Path.place t₁.working base ++ [temp]) = some (Text.encode text) := by
        have hn := (Tree.node?_of_writeBytes hw).2.2 (Path.place t.working base ++ [temp])
        rw [place_join _ _ h.plain_temp, if_pos rfl] at hn
        rw [hs.working]
        exact Tree.file?_eq_some_iff.2 hn
      obtain ⟨u, hu⟩ := Tree.rename_ok h₁.locate_temp h₁.locate hfile
        (by rw [List.dropLast_concat, h₁.directory]) h₁.free
      obtain ⟨-, he⟩ | ⟨e, hr, -, -⟩ := exact_rename hr
      · cases he
      · cases hu.symm.trans hr
    · cases he

end

/-! ## Storing -/

section
variable {disk : DiskStore} {now : Instant} {uri etag body : String}
  {y : DiskStore × Except StoreError (Option Notice)}

/-- Only a file operation makes it fail. -/
theorem Stored.io_of_error {σ : Type} {step : Answering Files.interface σ} {s s' : σ}
    {disk' : DiskStore} {e : StoreError}
    (h : Stored step disk now uri etag body s (disk', .error e) s') :
    ∃ path fault, e = .io path fault := by
  cases h with
  | unwritten hb => exact hb.io_of_error
  | unlisted _ hi _ => exact hi.io_of_error

theorem Stored.succeeds
    (hb : Replaceable t (bodiesPath disk.dir) (bodyName uri etag now disk.sequence)
      (temporaryName (bodyName uri etag now disk.sequence)))
    (hi : Replaceable t disk.dir "index.json" "index.tmp")
    (h : Stored Tree.exact disk now uri etag body t y t') : ∃ notice, y.2 = .ok notice := by
  cases h with
  | unwritten hr =>
    cases Replaced.succeeds hb hr
  | unlisted hr hr' _ =>
    obtain ⟨-, hsame, -⟩ := Tree.of_ok (replaced_cases hr.faulty_of_exact)
    cases Replaced.succeeds (hi.of_sameDirectories hsame.directories) hr'
  | added => exact ⟨_, rfl⟩
  | superseded => exact ⟨_, rfl⟩

end

end ConditionalGet.DiskStore
