import ConditionalGet.Proofs.Runs
import ConditionalGet.Store.Disk

/-!
# The courses that opening, looking up and storing can take

For any environment of file operations, `Opened`, `LookedUp` and `Stored` list which operations are
carried out in which order, where they can fail, and what comes out. `runs_openAt_iff`,
`runs_lookup_iff` and `runs_store_iff` say that the runs of the store on disk are exactly these.
-/

set_option autoImplicit false

namespace ConditionalGet.DiskStore

open Program

variable {σ : Type} (step : Answering Files.interface σ)

/-- The path under which a file is written first. -/
def temporary (path : String) : String := Path.withExtension path "tmp"

/-- Writing a file under another name and renaming it. -/
inductive Replaced (path text : String) : σ → Except StoreError Unit → σ → Prop
  | unwritten {e : IoFault} {s s' : σ} :
      step s (.write (temporary path) text) (.error e : Except IoFault Unit) s' →
      Replaced path text s (.error (.io (temporary path) e)) s'
  | unrenamed {e : IoFault} {s s₁ s' : σ} :
      step s (.write (temporary path) text) (.ok () : Except IoFault Unit) s₁ →
      step s₁ (.rename (temporary path) path) (.error e : Except IoFault Unit) s' →
      Replaced path text s (.error (.io path e)) s'
  | done {s s₁ s' : σ} :
      step s (.write (temporary path) text) (.ok () : Except IoFault Unit) s₁ →
      step s₁ (.rename (temporary path) path) (.ok () : Except IoFault Unit) s' →
      Replaced path text s (.ok ()) s'

/-- The course of opening a store (module doc). -/
inductive Opened (dir : String) : σ → Except StoreError DiskStore → σ → Prop
  | unmade {e : IoFault} {s s' : σ} :
      step s (.createAll (bodiesPath dir)) (.error e : Except IoFault Unit) s' →
      Opened dir s (.error (.io (bodiesPath dir) e)) s'
  /-- There is no index yet. -/
  | fresh {s s₁ s' : σ} :
      step s (.createAll (bodiesPath dir)) (.ok () : Except IoFault Unit) s₁ →
      step s₁ (.read (indexPath dir)) (.error .notFound : Except IoFault String) s' →
      Opened dir s (.ok ⟨dir, Table.empty, 0⟩) s'
  | unread {e : IoFault} {s s₁ s' : σ} :
      step s (.createAll (bodiesPath dir)) (.ok () : Except IoFault Unit) s₁ →
      step s₁ (.read (indexPath dir)) (.error e : Except IoFault String) s' → e ≠ .notFound →
      Opened dir s (.error (.io (indexPath dir) e)) s'
  | corrupt {text : String} {flaw : IndexFlaw} {s s₁ s' : σ} :
      step s (.createAll (bodiesPath dir)) (.ok () : Except IoFault Unit) s₁ →
      step s₁ (.read (indexPath dir)) (.ok text : Except IoFault String) s' →
      Index.parse text = .error flaw → Opened dir s (.error (.corruptIndex (indexPath dir) flaw)) s'
  | loaded {text : String} {index : Index} {s s₁ s' : σ} :
      step s (.createAll (bodiesPath dir)) (.ok () : Except IoFault Unit) s₁ →
      step s₁ (.read (indexPath dir)) (.ok text : Except IoFault String) s' →
      Index.parse text = .ok index → Opened dir s (.ok ⟨dir, index, 0⟩) s'

/-- The course of looking up what is on record for a URI (module doc). -/
inductive LookedUp (disk : DiskStore) (uri : String) : σ → Except StoreError Lookup → σ → Prop
  | miss {s : σ} : disk.index.find? uri = none → LookedUp disk uri s (.ok .miss) s
  | hit {entry : IndexEntry} {body : String} {s s' : σ} : disk.index.find? uri = some entry →
      step s (.read (disk.bodyPath entry.bodyFile)) (.ok body : Except IoFault String) s' →
      LookedUp disk uri s (.ok (.hit ⟨entry.etag, body⟩)) s'
  /-- The body file is gone. -/
  | gone {entry : IndexEntry} {s s' : σ} : disk.index.find? uri = some entry →
      step s (.read (disk.bodyPath entry.bodyFile)) (.error .notFound : Except IoFault String) s' →
      LookedUp disk uri s (.ok (.etagOnly entry.etag)) s'
  | unread {entry : IndexEntry} {e : IoFault} {s s' : σ} : disk.index.find? uri = some entry →
      step s (.read (disk.bodyPath entry.bodyFile)) (.error e : Except IoFault String) s' →
      e ≠ .notFound → LookedUp disk uri s (.error (.io (disk.bodyPath entry.bodyFile) e)) s'

/-- What is told of the removal of a replaced body file. -/
def noticeOf (path : String) : Except IoFault Unit → Option Notice
  | .ok () | .error .notFound => none
  | .error fault => some (.leftover path fault)

/-- The index once a response is listed in it. -/
def listing (disk : DiskStore) (now : Instant) (uri etag : String) : Index :=
  disk.index.insert uri ⟨etag, bodyName uri etag now disk.sequence, now⟩

/-- The store once it has been given another response. -/
def counted (disk : DiskStore) : DiskStore := { disk with sequence := disk.sequence + 1 }

/-- The store once a response is on record. -/
def recorded (disk : DiskStore) (now : Instant) (uri etag : String) : DiskStore :=
  { disk.counted with index := disk.listing now uri etag }

theorem find?_recorded (disk : DiskStore) (now : Instant) (uri etag u : String) :
    (disk.recorded now uri etag).index.find? u =
      if u = uri then some ⟨etag, bodyName uri etag now disk.sequence, now⟩
      else disk.index.find? u :=
  Table.find?_insert _ _ _ _

/-- What the entry is for which a response was stored. -/
theorem find?_recorded_self (disk : DiskStore) (now : Instant) (uri etag : String) :
    (disk.recorded now uri etag).index.find? uri =
      some ⟨etag, bodyName uri etag now disk.sequence, now⟩ :=
  (find?_recorded disk now uri etag uri).trans (if_pos rfl)

/-- The course of storing a response (module doc). -/
inductive Stored (disk : DiskStore) (now : Instant) (uri etag body : String) :
    σ → DiskStore × Except StoreError (Option Notice) → σ → Prop
  | unwritten {e : StoreError} {s s' : σ} :
      Replaced step (disk.bodyPath (bodyName uri etag now disk.sequence)) body s (.error e) s' →
      Stored disk now uri etag body s (disk.counted, .error e) s'
  /-- The index could not be written, and the new body file is removed. -/
  | unlisted {e : StoreError} {r : Except IoFault Unit} {s s₁ s₂ s' : σ} :
      Replaced step (disk.bodyPath (bodyName uri etag now disk.sequence)) body s (.ok ()) s₁ →
      Replaced step (indexPath disk.dir) (disk.listing now uri etag).text s₁ (.error e) s₂ →
      step s₂ (.remove (disk.bodyPath (bodyName uri etag now disk.sequence))) r s' →
      Stored disk now uri etag body s (disk.counted, .error e) s'
  | added {s s₁ s' : σ} :
      Replaced step (disk.bodyPath (bodyName uri etag now disk.sequence)) body s (.ok ()) s₁ →
      Replaced step (indexPath disk.dir) (disk.listing now uri etag).text s₁ (.ok ()) s' →
      disk.index.find? uri = none →
      Stored disk now uri etag body s (disk.recorded now uri etag, .ok none) s'
  /-- The body file of the response on record before is removed. -/
  | superseded {previous : IndexEntry} {r : Except IoFault Unit} {s s₁ s₂ s' : σ} :
      Replaced step (disk.bodyPath (bodyName uri etag now disk.sequence)) body s (.ok ()) s₁ →
      Replaced step (indexPath disk.dir) (disk.listing now uri etag).text s₁ (.ok ()) s₂ →
      disk.index.find? uri = some previous →
      step s₂ (.remove (disk.bodyPath previous.bodyFile)) r s' →
      Stored disk now uri etag body s (disk.recorded now uri etag,
        .ok (noticeOf (disk.bodyPath previous.bodyFile) r)) s'

variable {step} {s s' : σ}

/-- What a store is when it is opened. -/
theorem Opened.store_eq {dir : String} {disk : DiskStore}
    (h : Opened step dir s (.ok disk) s') : disk = ⟨dir, disk.index, 0⟩ := by
  cases h with
  | fresh => rfl
  | loaded => rfl

/-- What a store is after a call. -/
theorem Stored.store_eq {disk : DiskStore} {now : Instant} {uri etag body : String}
    {x : DiskStore × Except StoreError (Option Notice)}
    (h : Stored step disk now uri etag body s x s') :
    x.1 = disk.counted ∨ x.1 = disk.recorded now uri etag := by
  cases h with
  | unwritten => exact .inl rfl
  | unlisted => exact .inl rfl
  | added => exact .inr rfl
  | superseded => exact .inr rfl

/-! ## The programs -/

theorem runs_orFail_iff {α : Type} {path : String} {p : FileProgram (Except IoFault α)}
    {x : Except StoreError α} :
    Runs step (orFail path p).run s x s' ↔
      (∃ e, Runs step p s (.error e) s' ∧ x = .error (.io path e)) ∨
        ∃ a, Runs step p s (.ok a) s' ∧ x = .ok a := runs_except_mapError_iff

/-- One operation whose failure is a failure of the store. -/
theorem runs_orFail_ask_iff {path : String} {op : Files.Operation}
    {x : Except StoreError op.Result} :
    Runs step (orFail path (.ask op .pure : FileProgram (Except IoFault op.Result))).run s x s' ↔
      (∃ e, step s op (.error e : Except IoFault op.Result) s' ∧ x = .error (.io path e)) ∨
        ∃ a, step s op (.ok a : Except IoFault op.Result) s' ∧ x = .ok a :=
  runs_orFail_iff.trans (or_congr
    (exists_congr fun _ => and_congr_left fun _ => runs_ask_pure_iff)
    (exists_congr fun _ => and_congr_left fun _ => runs_ask_pure_iff))

theorem runs_writeAtomic_iff {path text : String} {x : Except StoreError Unit} :
    Runs step (writeAtomic path text).run s x s' ↔ Replaced step path text s x s' := by
  refine runs_except_bind_iff.trans ?_
  constructor
  · rintro (⟨e, hp, rfl⟩ | ⟨u, s₁, hp, hq⟩)
    · obtain ⟨e', hw, he⟩ | ⟨u, -, he⟩ := runs_orFail_ask_iff.1 hp
      · cases he
        exact .unwritten hw
      · cases he
    · obtain ⟨e', -, he⟩ | ⟨u, hw, -⟩ := runs_orFail_ask_iff.1 hp
      · cases he
      · obtain ⟨e, hr, rfl⟩ | ⟨u', hr, rfl⟩ := runs_orFail_ask_iff.1 hq
        · exact .unrenamed hw hr
        · exact .done hw hr
  · intro h
    cases h with
    | unwritten hw => exact .inl ⟨_, runs_orFail_ask_iff.2 (.inl ⟨_, hw, rfl⟩), rfl⟩
    | unrenamed hw hr =>
      exact .inr ⟨(), _, runs_orFail_ask_iff.2 (.inr ⟨(), hw, rfl⟩),
        runs_orFail_ask_iff.2 (.inl ⟨_, hr, rfl⟩)⟩
    | done hw hr =>
      exact .inr ⟨(), _, runs_orFail_ask_iff.2 (.inr ⟨(), hw, rfl⟩),
        runs_orFail_ask_iff.2 (.inr ⟨(), hr, rfl⟩)⟩

/-- A file operation whose answer is looked at whether it failed or not. -/
theorem runs_lift_ask_bind_iff {α : Type} {op : Files.Operation}
    {next : Except IoFault op.Result → StoreProgram α} {x : Except StoreError α} :
    Runs step ((ExceptT.lift (.ask op .pure : FileProgram (Except IoFault op.Result)) :
        StoreProgram (Except IoFault op.Result)) >>= next).run s x s' ↔
      ∃ r s₁, step s op r s₁ ∧ Runs step (next r).run s₁ x s' := by
  refine runs_except_bind_iff.trans ?_
  constructor
  · rintro (⟨e, hp, -⟩ | ⟨r, s₁, hp, hq⟩)
    · obtain ⟨r, -, he⟩ := runs_except_lift_iff.1 hp
      cases he
    · obtain ⟨r', ha, he⟩ := runs_except_lift_iff.1 hp
      cases he
      exact ⟨r, s₁, runs_ask_pure_iff.1 ha, hq⟩
  · rintro ⟨r, s₁, ha, hq⟩
    exact .inr ⟨r, s₁, runs_except_lift_iff.2 ⟨r, runs_ask_pure_iff.2 ha, rfl⟩, hq⟩

theorem runs_openAt_iff {dir : String} {x : Except StoreError DiskStore} :
    Runs step (openAt dir).run s x s' ↔ Opened step dir s x s' := by
  refine runs_except_bind_iff.trans ?_
  constructor
  · rintro (⟨e, hp, rfl⟩ | ⟨u, s₁, hp, hq⟩)
    · obtain ⟨e', hm, he⟩ | ⟨u, -, he⟩ := runs_orFail_ask_iff.1 hp
      · cases he
        exact .unmade hm
      · cases he
    · obtain ⟨e', -, he⟩ | ⟨u, hm, -⟩ := runs_orFail_ask_iff.1 hp
      · cases he
      · obtain ⟨r, s₂, hr, hx⟩ := runs_lift_ask_bind_iff.1 hq
        cases r with
        | ok text =>
          cases hi : Index.parse text with
          | ok index =>
            simp only [hi] at hx
            obtain ⟨rfl, rfl⟩ := runs_except_pure_iff.1 hx
            exact .loaded hm hr hi
          | error flaw =>
            simp only [hi] at hx
            obtain ⟨rfl, rfl⟩ := runs_except_throw_iff.1 hx
            exact .corrupt hm hr hi
        | error e =>
          by_cases he : e = .notFound
          · rw [he] at hr hx
            obtain ⟨rfl, rfl⟩ := runs_except_pure_iff.1 hx
            exact .fresh hm hr
          · cases e
            · exact absurd rfl he
            all_goals
              obtain ⟨rfl, rfl⟩ := runs_except_throw_iff.1 hx
              exact .unread hm hr he
  · intro h
    cases h with
    | unmade hm => exact .inl ⟨_, runs_orFail_ask_iff.2 (.inl ⟨_, hm, rfl⟩), rfl⟩
    | fresh hm hr =>
      exact .inr ⟨(), _, runs_orFail_ask_iff.2 (.inr ⟨(), hm, rfl⟩),
        runs_lift_ask_bind_iff.2 ⟨_, _, hr, runs_except_pure_iff.2 ⟨rfl, rfl⟩⟩⟩
    | @unread e _ _ _ hm hr he =>
      refine .inr ⟨(), _, runs_orFail_ask_iff.2 (.inr ⟨(), hm, rfl⟩),
        runs_lift_ask_bind_iff.2 ⟨_, _, hr, ?_⟩⟩
      cases e
      · exact absurd rfl he
      all_goals exact runs_except_throw_iff.2 ⟨rfl, rfl⟩
    | corrupt hm hr hi =>
      refine .inr ⟨(), _, runs_orFail_ask_iff.2 (.inr ⟨(), hm, rfl⟩),
        runs_lift_ask_bind_iff.2 ⟨_, _, hr, ?_⟩⟩
      simp only [hi]
      exact runs_except_throw_iff.2 ⟨rfl, rfl⟩
    | loaded hm hr hi =>
      refine .inr ⟨(), _, runs_orFail_ask_iff.2 (.inr ⟨(), hm, rfl⟩),
        runs_lift_ask_bind_iff.2 ⟨_, _, hr, ?_⟩⟩
      simp only [hi]
      exact runs_except_pure_iff.2 ⟨rfl, rfl⟩

theorem runs_lookup_iff {disk : DiskStore} {uri : String} {x : Except StoreError Lookup} :
    Runs step (disk.lookup uri).run s x s' ↔ LookedUp step disk uri s x s' := by
  unfold lookup
  cases hf : disk.index.find? uri with
  | none =>
    refine runs_except_pure_iff.trans ?_
    constructor
    · rintro ⟨rfl, rfl⟩
      exact .miss hf
    · intro h
      cases h with
      | miss => exact ⟨rfl, rfl⟩
      | hit hf' => cases hf.symm.trans hf'
      | gone hf' => cases hf.symm.trans hf'
      | unread hf' => cases hf.symm.trans hf'
  | some entry =>
    refine runs_lift_ask_bind_iff.trans ?_
    constructor
    · rintro ⟨r, s₁, hr, hx⟩
      cases r with
      | ok body =>
        obtain ⟨rfl, rfl⟩ := runs_except_pure_iff.1 hx
        exact .hit hf hr
      | error e =>
        by_cases he : e = .notFound
        · rw [he] at hr hx
          obtain ⟨rfl, rfl⟩ := runs_except_pure_iff.1 hx
          exact .gone hf hr
        · cases e
          · exact absurd rfl he
          all_goals
            obtain ⟨rfl, rfl⟩ := runs_except_throw_iff.1 hx
            exact .unread hf hr he
    · intro h
      cases h with
      | miss hf' => cases hf.symm.trans hf'
      | hit hf' hr =>
        cases hf.symm.trans hf'
        exact ⟨_, _, hr, runs_except_pure_iff.2 ⟨rfl, rfl⟩⟩
      | gone hf' hr =>
        cases hf.symm.trans hf'
        exact ⟨_, _, hr, runs_except_pure_iff.2 ⟨rfl, rfl⟩⟩
      | @unread _ e _ _ hf' hr he =>
        cases hf.symm.trans hf'
        refine ⟨_, _, hr, ?_⟩
        cases e
        · exact absurd rfl he
        all_goals exact runs_except_throw_iff.2 ⟨rfl, rfl⟩

theorem runs_discard_iff {path : String} {notice : Option Notice} :
    Runs step (discard path) s notice s' ↔
      ∃ r, step s (.remove path) r s' ∧ notice = noticeOf path r := by
  refine runs_bind_iff.trans ?_
  constructor
  · rintro ⟨r, s₁, hr, hn⟩
    refine ⟨r, ?_⟩
    have hr := runs_ask_pure_iff.1 hr
    rcases r with e | u
    · cases e <;>
        · obtain ⟨rfl, rfl⟩ := runs_pure_iff.1 hn
          exact ⟨hr, rfl⟩
    · obtain ⟨rfl, rfl⟩ := runs_pure_iff.1 hn
      exact ⟨hr, rfl⟩
  · rintro ⟨r, hr, rfl⟩
    refine ⟨r, s', runs_ask_pure_iff.2 hr, ?_⟩
    rcases r with e | u
    · cases e <;> exact .pure _ _
    · exact .pure _ _

theorem runs_store_iff {disk : DiskStore} {now : Instant} {uri etag body : String}
    {x : DiskStore × Except StoreError (Option Notice)} :
    Runs step (disk.store now uri etag body) s x s' ↔
      Stored step disk now uri etag body s x s' := by
  refine runs_bind_iff.trans ?_
  simp only [runs_writeAtomic_iff]
  constructor
  · rintro ⟨y, s₁, hb, h⟩
    rcases y with e | u
    · obtain ⟨rfl, rfl⟩ := runs_pure_iff.1 h
      exact .unwritten hb
    obtain ⟨z, s₂, hi, h⟩ := runs_bind_iff.1 h
    have hi := runs_writeAtomic_iff.1 hi
    rcases z with e | u'
    · obtain ⟨r, s₃, hr, h⟩ := runs_bind_iff.1 h
      obtain ⟨rfl, rfl⟩ := runs_pure_iff'.1 h
      exact .unlisted hb hi (runs_ask_pure_iff.1 hr)
    · cases hf : disk.index.find? uri with
      | none =>
        simp only [hf] at h
        obtain ⟨rfl, rfl⟩ := runs_pure_iff'.1 h
        exact .added hb hi hf
      | some previous =>
        simp only [hf] at h
        obtain ⟨notice, s₃, hd, h⟩ := runs_bind_iff.1 h
        obtain ⟨rfl, rfl⟩ := runs_pure_iff'.1 h
        obtain ⟨r, hr, rfl⟩ := runs_discard_iff.1 hd
        exact .superseded hb hi hf hr
  · intro h
    cases h with
    | unwritten hb => exact ⟨_, _, hb, .pure _ _⟩
    | unlisted hb hi hr =>
      exact ⟨_, _, hb, runs_bind_iff.2 ⟨_, _, runs_writeAtomic_iff.2 hi,
        runs_bind_iff.2 ⟨_, _, runs_ask_pure_iff.2 hr, .pure _ _⟩⟩⟩
    | added hb hi hf =>
      refine ⟨_, _, hb, runs_bind_iff.2 ⟨_, _, runs_writeAtomic_iff.2 hi, ?_⟩⟩
      simp only [hf]
      exact .pure _ _
    | superseded hb hi hf hr =>
      refine ⟨_, _, hb, runs_bind_iff.2 ⟨_, _, runs_writeAtomic_iff.2 hi, ?_⟩⟩
      simp only [hf]
      exact runs_bind_iff.2 ⟨_, _, runs_discard_iff.2 ⟨_, hr, rfl⟩, .pure _ _⟩

end ConditionalGet.DiskStore
