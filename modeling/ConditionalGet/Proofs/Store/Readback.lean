import ConditionalGet.Proofs.Store.Cleaning
import ConditionalGet.Proofs.Store.Naming
import ConditionalGet.Proofs.Store.Provenance

/-!
# What was stored is found, unless the clock repeats

The body file of a response is named by what is stored for it and by the clock and the number of the
response, which starts again whenever a directory is opened. So a response may get the body file of
the one that it replaces, which is removed in the end: `SharedDirectory.Repeats` says when.
`SharedDirectory.stored_is_found` proves that this is the only way in which a response that was
stored is not found, and that it cannot happen in a directory that was opened once.
-/

set_option autoImplicit false

namespace ConditionalGet

open Program DiskStore

namespace DiskStore

variable {t t' : Tree} {root : List String} {disk disk' : DiskStore} {now : Instant}
  {uri etag body : String} {notice : Option Notice}

/-- What a store is after a call that succeeds. -/
theorem recorded_of_stored {σ : Type} {step : Answering Files.interface σ} {s s' : σ}
    (h : Stored step disk now uri etag body s (disk', .ok notice) s') :
    disk' = disk.recorded now uri etag := by
  cases h with
  | added => rfl
  | superseded => rfl

/-- A body file that is replaced by one of the same name is gone in the end. -/
theorem node?_of_superseded (hroot : Path.place t.working disk.dir = root) {t₁ t₂ : Tree}
    (hb : Replaced Tree.exact (disk.bodyPath (bodyName uri etag now disk.sequence)) body t
      (.ok ()) t₁)
    (hi : Replaced Tree.exact (indexPath disk.dir) (disk.listing now uri etag).text t₁ (.ok ()) t₂)
    {r : Except IoFault Unit}
    (hr : Tree.exact t₂ (.remove (disk.bodyPath (bodyName uri etag now disk.sequence))) r t') :
    Accessible disk t' ∧ t'.working = t.working ∧
      t'.node? (root ++ ["bodies", bodyName uri etag now disk.sequence]) = none := by
  have hname := bodyName_bodyName uri etag now disk.sequence
  have hpublished :=
    published_of_replaced hroot hname hb.faulty_of_exact hi.faulty_of_exact
  have hroot₂ : Path.place t₂.working disk.dir = root := by
    rw [hpublished.same.directories.working, hroot]
  have ha₂ := (Accessible.of_replaced hname hb.faulty_of_exact).of_sameDirectories
    hpublished.same.directories
  obtain ⟨hgone, hsame⟩ :=
    file?_of_removed_body hroot₂ ha₂ hname (Tree.cramped_of_exact hr)
  -- there was a file, so there is no directory
  have hdirectory : t₂.node? (root ++ ["bodies", bodyName uri etag now disk.sequence]) ≠
      some .directory := by
    rw [Tree.file?_eq_some_iff.1 hpublished.body]
    simp
  refine ⟨ha₂.of_sameDirectories hsame.directories, ?_, ?_⟩
  · rw [hsame.directories.working, hpublished.same.directories.working]
  · exact Tree.node?_eq_none hgone fun hd => hdirectory ((hsame.directories.directory _).1 hd)

/-- What a lookup finds after a response was stored, by the name of the body file it replaced. -/
theorem lookup_of_stored (hroot : Path.place t.working disk.dir = root)
    (hprevious : ∀ previous, disk.index.find? uri = some previous → BodyName previous.bodyFile)
    (h : Stored Tree.exact disk now uri etag body t (disk', .ok notice) t') :
    (t'.run (disk'.lookup uri).run).1 =
      .ok (if disk.replaced? uri = some (bodyName uri etag now disk.sequence) then .etagOnly etag
        else .hit ⟨etag, body⟩) := by
  have hname := bodyName_bodyName uri etag now disk.sequence
  have hfound := find?_recorded_self disk now uri etag
  split
  · rename_i hsame
    cases h with
    | added _ _ hf => simp [replaced?, hf] at hsame
    | superseded hb hi hf hr =>
      rw [replaced?, hf, Option.map_some, Option.some.injEq] at hsame
      rw [hsame] at hr
      obtain ⟨ha, hworking, hnone⟩ := node?_of_superseded hroot hb hi hr
      have ha' : Accessible (disk.recorded now uri etag) t' := ⟨ha.leads, ha.clean, ha.short⟩
      rw [← hroot, ← hworking] at hnone
      exact lookup_of_missing ha' hfound hname hnone
  · rename_i hother
    have hcases := stored_bodies hroot (fun previous hf => ⟨hprevious previous hf, fun he =>
      hother (by rw [replaced?, hf, Option.map_some, he])⟩)
      (runs_store_iff.1 ((runs_store_iff.2 h).mono fun _ _ _ _ => Tree.cramped_of_exact))
    obtain ⟨⟨e, he⟩, -⟩ | ⟨⟨notice', he⟩, hsettled⟩ := hcases
    · cases he
    obtain ⟨rfl, -⟩ := Prod.mk.inj he
    have ha := hsettled.accessible
    have ha' : Accessible (disk.recorded now uri etag) t' := ⟨ha.leads, ha.clean, ha.short⟩
    have hfile := hsettled.bodies _ (hname.temporary_ne hname).symm
    rw [if_pos rfl, ← hroot, ← hsettled.directories.working] at hfile
    exact lookup_of_held ha' hfound hname hfile

end DiskStore

/-- What is digested for the name of the body file of a call. -/
def StoreCall.seed (c : StoreCall) : List UInt8 := nameSeed c.uri c.etag c.now c.sequence

namespace SharedDirectory

/-- The response on record for a URI in a store came by a call with this validator, at this reading
of the clock and with the number that the next response gets. -/
def Repeats (d : SharedDirectory) (handle : DiskStore) (now : Instant) (uri etag : String) : Prop :=
  ∃ c ∈ d.calls, c.succeeded = true ∧ c.uri = uri ∧ c.etag = etag ∧ c.now = now ∧
    c.sequence = handle.sequence ∧ handle.replaced? uri = some c.bodyFile

section
variable {root : List String} {d d' : SharedDirectory} {handle : DiskStore} {now : Instant}
  {uri etag body : String}

/-- The next response gets the body file of the one that it replaces only if it repeats its call, or
the digest has a collision. -/
theorem replaced?_eq_iff (htraced : Traced root d) (hh : handle ∈ d.handles)
    (hdigest : ∀ c ∈ d.calls,
      Sha256.digest c.seed = Sha256.digest (nameSeed uri etag now handle.sequence) →
        c.seed = nameSeed uri etag now handle.sequence) :
    handle.replaced? uri = some (bodyName uri etag now handle.sequence) ↔
      d.Repeats handle now uri etag := by
  constructor
  · intro hr
    obtain ⟨entry, hf, hentry⟩ := Option.map_eq_some_iff.1 hr
    obtain ⟨c, hc, hs, rfl, -, hcb⟩ := (htraced.handles handle hh).2 uri entry hf
    have hname : c.bodyFile = bodyName c.uri etag now handle.sequence := hcb.trans hentry
    have hseed := hdigest c hc (bodyName_eq_iff.1 hname)
    obtain ⟨he, hn, hq⟩ := nameSeed_inj.1 hseed
    exact ⟨c, hc, hs, rfl, he, hn, hq, by rw [hr, hname]⟩
  · intro ⟨c, hc, hs, hu, he, hn, hq, hr⟩
    rw [hr, StoreCall.bodyFile, hu, he, hn, hq]

/-! ## One opening -/

/-- The calls through the only store of a directory have been numbered one after another. -/
structure Numbered (d : SharedDirectory) : Prop where
  unopened : d.handles = [] → d.calls = []
  handle : ∀ handle ∈ d.handles, handle.sequence.toNat = d.calls.length
  calls : ∀ c ∈ d.calls, c.sequence.toNat < d.calls.length

theorem sequence_of_stored {σ : Type} {step : Answering Files.interface σ} {s s' : σ}
    {disk disk' : DiskStore} {result : Except StoreError (Option Notice)}
    (h : Stored step disk now uri etag body s (disk', result) s') :
    disk'.sequence = disk.sequence + 1 := by
  cases h with
  | unwritten => rfl
  | unlisted => rfl
  | added => rfl
  | superseded => rfl

/-- Stores are only added. -/
theorem Step.length_handles (hstep : Step root d d') : d.handles.length ≤ d'.handles.length := by
  cases hstep with
  | opened => simp
  | stored hh => simp [hh]
  | unopened => exact Nat.le_refl _
  | lookedUp => exact Nat.le_refl _
  | removed => exact Nat.le_refl _

theorem Step.numbered (hstep : Step root d d') (h : Numbered d)
    (honce : d'.handles.length ≤ 1) (hfew : d'.calls.length < 2 ^ 64) : Numbered d' := by
  cases hstep with
  | unopened => exact ⟨h.unopened, h.handle, h.calls⟩
  | lookedUp => exact ⟨h.unopened, h.handle, h.calls⟩
  | removed => exact ⟨h.unopened, h.handle, h.calls⟩
  | opened _ hr =>
    have hnone : d.handles = [] := by
      rw [List.length_append, List.length_singleton] at honce
      exact List.length_eq_zero_iff.1 (by omega)
    have hcalls := h.unopened hnone
    refine ⟨fun _ => hcalls, fun handle' hh => ?_, h.calls⟩
    rw [hnone, List.nil_append, List.mem_singleton] at hh
    rw [hh, (runs_openAt_iff.1 hr).store_eq, hcalls]
    rfl
  | @stored before after handle handle' now uri etag body result t' hh hr =>
    have honly : before = [] ∧ after = [] := by
      simp only [List.length_append, List.length_cons] at honce
      exact ⟨List.length_eq_zero_iff.1 (by omega), List.length_eq_zero_iff.1 (by omega)⟩
    obtain ⟨rfl, rfl⟩ := honly
    have hnumber := h.handle handle (hh ▸ List.mem_cons_self)
    simp only [List.length_append, List.length_singleton] at hfew
    refine ⟨fun hnil => (nomatch hnil), fun other ho => ?_, fun c hc => ?_⟩
    · rw [List.nil_append, List.mem_singleton] at ho
      rw [ho, sequence_of_stored (runs_store_iff.1 hr), UInt64.toNat_add, hnumber,
        List.length_append, List.length_singleton]
      exact Nat.mod_eq_of_lt hfew
    · rw [List.length_append, List.length_singleton]
      rcases List.mem_append.1 hc with hc | hc
      · exact Nat.lt_succ_of_lt (h.calls c hc)
      · rw [List.mem_singleton.1 hc]
        show handle.sequence.toNat < _
        omega

theorem Reachable.numbered {t : Tree} (h : Reachable root (start t) d)
    (honce : d.handles.length ≤ 1) (hfew : d.calls.length < 2 ^ 64) : Numbered d := by
  induction h with
  | here => exact ⟨fun _ => rfl, fun _ hh => (nomatch hh), fun _ hc => (nomatch hc)⟩
  | next _ hstep ih =>
    have hbefore := ih (Nat.le_trans hstep.length_handles honce)
      (Nat.lt_of_le_of_lt hstep.calls.length_le hfew)
    exact hstep.numbered hbefore honce hfew

/-- Through the only store no call is repeated, whatever the clock shows. -/
theorem not_repeats_of_numbered (h : Numbered d) (hh : handle ∈ d.handles) :
    ¬d.Repeats handle now uri etag := by
  intro ⟨c, hc, _, _, _, _, hq, _⟩
  have hbefore := h.calls c hc
  rw [hq, h.handle handle hh] at hbefore
  exact Nat.lt_irrefl _ hbefore

/-- **What was stored is found, unless its call repeats the one on record.** Through whatever stores
of a directory that was empty at first whatever calls were made, at whatever readings of the clock:
after a call to store that succeeds, its validator and body are found for the URI if and only if the
call does not repeat, after the directory was opened anew, the one that it replaces. Otherwise the
validator is found without a body. -/
theorem stored_is_found {t : Tree} (hvacant : t.Vacant root) (hreach : Reachable root (start t) d)
    (hh : handle ∈ d.handles)
    (hdigest : ∀ c ∈ d.calls,
      Sha256.digest c.seed = Sha256.digest (nameSeed uri etag now handle.sequence) →
        c.seed = nameSeed uri etag now handle.sequence)
    {handle' : DiskStore} {notice : Option Notice} {t' : Tree}
    (hstore : Runs Tree.exact (handle.store now uri etag body) d.tree (handle', .ok notice) t') :
    ((t'.run (handle'.lookup uri).run).1 = .ok (.hit ⟨etag, body⟩) ↔
        ¬d.Repeats handle now uri etag) ∧
      (d.Repeats handle now uri etag →
        (t'.run (handle'.lookup uri).run).1 = .ok (.etagOnly etag)) ∧
      (d.handles = [handle] → d.calls.length < 2 ^ 64 → ¬d.Repeats handle now uri etag) := by
  have htraced := hreach.traced hvacant
  obtain ⟨hplace, hlisted⟩ := htraced.handles handle hh
  have hprevious : ∀ previous, handle.index.find? uri = some previous →
      BodyName previous.bodyFile := by
    intro previous hf
    obtain ⟨c, -, -, -, -, hcb⟩ := hlisted uri previous hf
    exact hcb ▸ c.bodyName_bodyFile
  have hlookup := lookup_of_stored hplace hprevious (runs_store_iff.1 hstore)
  have hiff : handle.replaced? uri = some (bodyName uri etag now handle.sequence) ↔
      d.Repeats handle now uri etag := replaced?_eq_iff htraced hh hdigest
  rw [hlookup]
  refine ⟨?_, fun hr => by rw [if_pos (hiff.2 hr)], fun honly hfew => ?_⟩
  · by_cases hr : d.Repeats handle now uri etag
    · simp [hiff.2 hr, hr]
    · simp [mt hiff.1 hr, hr]
  · have hnumbered := hreach.numbered (by rw [honly]; exact Nat.le_refl _) hfew
    exact not_repeats_of_numbered hnumbered hh

end

/-! ### The same moment, once more -/

namespace Repeated

open TwoStores (moment vacant opening_ok step_opened)

/-- The tree after a store was given a response, if nothing fails but what it does not allow. -/
@[irreducible] def given (t : Tree) (disk : DiskStore) (now : Instant) (uri etag body : String) :
    Tree := (t.run (disk.store now uri etag body)).2

section
variable {t : Tree} {disk : DiskStore} {now : Instant} {uri etag body : String}

theorem runs_given (hok : (t.run (disk.store now uri etag body)).1.2.isOk = true) :
    ∃ notice, Runs Tree.exact (disk.store now uri etag body) t
      (disk.recorded now uri etag, .ok notice) (given t disk now uri etag body) := by
  have hruns := Tree.runs_exact_run (disk.store now uri etag body) t
  unfold given
  generalize t.run (disk.store now uri etag body) = z at hok hruns ⊢
  obtain ⟨⟨disk', e | notice⟩, t'⟩ := z
  · cases hok
  · obtain rfl := recorded_of_stored (runs_store_iff.1 hruns)
    exact ⟨notice, hruns⟩

theorem step_given (root : List String) (before after : List DiskStore) (calls : List StoreCall)
    (hok : (t.run (disk.store now uri etag body)).1.2.isOk = true) :
    Step root ⟨t, before ++ disk :: after, calls⟩
      ⟨given t disk now uri etag body, before ++ disk.recorded now uri etag :: after,
        calls ++ [⟨uri, etag, body, now, disk.sequence, true⟩]⟩ := by
  obtain ⟨notice, hruns⟩ := runs_given hok
  exact Step.stored (d := ⟨t, before ++ disk :: after, calls⟩) rfl (Tree.runs_faulty_of_exact hruns)

end

/-- The tree when a store was opened in it. -/
@[irreducible] def made : Tree := (Tree.empty.run (openAt "/cache").run).2

/-- The store that was opened first. -/
def opened : DiskStore := ⟨"/cache", Table.empty, 0⟩

/-- The store once it was given a response. -/
def holder : DiskStore := opened.recorded moment "u" "\"v1\""

/-- The directory with this response. -/
def once : SharedDirectory :=
  ⟨given made opened moment "u" "\"v1\"" "[1]", [holder], [⟨"u", "\"v1\"", "[1]", moment, 0, true⟩]⟩

/-- The store that is opened after that. -/
def again : DiskStore := { holder with sequence := 0 }

/-- The directory with both stores. -/
def reopened : SharedDirectory := { once with handles := [holder, again] }

theorem place_made : Path.place made.working "/cache" = ["cache"] := by decide +kernel

theorem first_ok :
    (made.run (opened.store moment "u" "\"v1\"" "[1]")).1.2.isOk = true := by decide +kernel

theorem reachable_once : Reachable ["cache"] (start Tree.empty) once := by
  have hplace : Path.place (start Tree.empty).tree.working "/cache" = ["cache"] := by
    decide +kernel
  have hopened : Step ["cache"] (start Tree.empty) ⟨made, [opened], []⟩ := by
    unfold made
    exact step_opened hplace opening_ok
  have hstored := step_given ["cache"] [] [] [] first_ok
  exact (Reachable.here.next hopened).next hstored

/-- The response is on record, and no body file was replaced. -/
theorem settled : Settled ["cache"] opened moment "u" "\"v1\"" "[1]" made once.tree := by
  obtain ⟨notice, hruns⟩ := runs_given first_ok
  have hempty : ∀ previous, opened.index.find? "u" ≠ some previous := by
    intro previous hf
    cases hf
  have hcases := stored_bodies place_made (fun previous hf => absurd hf (hempty previous))
    (runs_store_iff.1 (hruns.mono fun _ _ _ _ => Tree.cramped_of_exact))
  obtain ⟨⟨e, he⟩, -⟩ | ⟨-, hsettled⟩ := hcases
  · cases he
  · exact hsettled

theorem place_once : Path.place once.tree.working "/cache" = ["cache"] := by
  rw [settled.directories.working]
  exact place_made

theorem opening_again : once.tree.run (openAt "/cache").run = (.ok again, once.tree) := by
  have hindex := settled.index
  rw [← place_once] at hindex
  exact openAt_of_accessible settled.accessible hindex

theorem reachable_reopened : Reachable ["cache"] (start Tree.empty) reopened := by
  have hruns := Tree.runs_faulty_run (openAt "/cache").run once.tree
  rw [opening_again] at hruns
  exact reachable_once.next (.opened place_once hruns)

theorem repeated_ok :
    (once.tree.run (again.store moment "u" "\"v1\"" "[2]")).1.2.isOk = true := by decide +kernel

/-- Another response with the same validator, while the clock stands still, is stored and not found:
the body file that it gets is that of the first one, which is removed. -/
theorem repeated_response_lost :
    Reachable ["cache"] (start Tree.empty) reopened ∧ again ∈ reopened.handles ∧
      ∃ handle' notice t', Runs Tree.exact (again.store moment "u" "\"v1\"" "[2]") reopened.tree
          (handle', .ok notice) t' ∧
        (t'.run (handle'.lookup "u").run).1 = .ok (.etagOnly "\"v1\"") ∧
        (t'.run (handle'.lookup "u").run).1 ≠ .ok (.hit ⟨"\"v1\"", "[2]"⟩) := by
  obtain ⟨notice, hruns⟩ := runs_given repeated_ok
  have hfound : again.index.find? "u" =
      some ⟨"\"v1\"", bodyName "u" "\"v1\"" moment again.sequence, moment⟩ :=
    find?_recorded_self opened moment "u" "\"v1\""
  have hprevious : ∀ previous, again.index.find? "u" = some previous →
      BodyName previous.bodyFile := by
    intro previous hf
    rw [← Option.some.inj (hfound.symm.trans hf)]
    exact bodyName_bodyName _ _ _ _
  have hsame : again.replaced? "u" = some (bodyName "u" "\"v1\"" moment again.sequence) := by
    rw [replaced?, hfound, Option.map_some]
  have hlookup := lookup_of_stored place_once hprevious (runs_store_iff.1 hruns)
  rw [if_pos hsame] at hlookup
  refine ⟨reachable_reopened, List.mem_cons_of_mem _ List.mem_cons_self, _, notice, _, hruns,
    hlookup, ?_⟩
  rw [hlookup]
  simp

theorem continued_ok :
    (once.tree.run (holder.store moment "u" "\"v1\"" "[2]")).1.2.isOk = true := by decide +kernel

theorem digest_ne : Sha256.digest (nameSeed "u" "\"v1\"" moment 0) ≠
    Sha256.digest (nameSeed "u" "\"v1\"" moment holder.sequence) := by decide +kernel

/-- Through the store that was open before, whose numbers have gone on, it is found. -/
theorem stored_is_found_continued :
    Tree.empty.Vacant ["cache"] ∧ Reachable ["cache"] (start Tree.empty) once ∧
      ∃ handle' notice t', Runs Tree.exact (holder.store moment "u" "\"v1\"" "[2]") once.tree
          (handle', .ok notice) t' ∧
        (t'.run (handle'.lookup "u").run).1 = .ok (.hit ⟨"\"v1\"", "[2]"⟩) := by
  obtain ⟨notice, hruns⟩ := runs_given continued_ok
  have hdigest : ∀ c ∈ once.calls,
      Sha256.digest c.seed = Sha256.digest (nameSeed "u" "\"v1\"" moment holder.sequence) →
        c.seed = nameSeed "u" "\"v1\"" moment holder.sequence := by
    intro c hc he
    rw [List.mem_singleton.1 hc] at he
    exact absurd he digest_ne
  have hmem : holder ∈ once.handles := List.mem_singleton.2 rfl
  have hfew : once.calls.length < 2 ^ 64 := by decide
  obtain ⟨hfound, -, honce⟩ := stored_is_found vacant reachable_once hmem hdigest hruns
  exact ⟨vacant, reachable_once, _, notice, _, hruns, hfound.2 (honce rfl hfew)⟩

end Repeated

end SharedDirectory

end ConditionalGet
