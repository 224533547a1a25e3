import ConditionalGet.Proofs.Client.Headers
import ConditionalGet.Proofs.Command.World
import ConditionalGet.Proofs.Store.Reopening
import ConditionalGet.Proofs.Text.Lossy

/-!
# The validator that comes back to its server

The validator of an answer is bytes. It goes on record as the text that they are read as, and from
there on the next request for the resource. So what a server gets back are the bytes of that text
(`validator_echoed`): those that it sent if they are a text, and otherwise others
(`Latin.validator_not_echoed`).

A client is followed from the first call on (`Series`), its records in memory or on disk, where any
file operation may fail. Of the records only the validator for each URI matters (`Backend.etag?`).
-/

set_option autoImplicit false

namespace ConditionalGet

open Program Revalidation

/-! ## Validators of answers -/

def FieldName.etag : FieldName := ⟨"etag", by decide +kernel⟩

/-- The validator of an answer is the first that came. -/
theorem HttpResponse.etag?_resource (r : HttpResponse) :
    r.resource.etag? = (r.headers.values .etag).head?.map FieldValue.text := by
  show ((collect r.headers).values FieldName.etag.text).head? = _
  rw [values_collect, List.head?_map]

/-! ## What a request goes out with -/

theorem HttpRequest.uri_of_ofRequest {request : Request} {r : HttpRequest}
    (h : ofRequest request = .ok r) : r.uri = request.uri := by
  unfold ofRequest at h
  cases hf : fields request.headers request.credential with
  | error e =>
    rw [hf] at h
    cases h
  | ok headers =>
    rw [hf] at h
    cases h
    rfl

/-- A credential, if there is one, can be sent and is no condition. -/
def Credential.Suits (credential : Option Credential) : Prop :=
  ∀ c, credential = some c → ∃ name value, c.field = .ok (name, value) ∧ name ≠ .ifNoneMatch

/-- The caller's condition is that of the request. -/
theorem HttpRequest.ofRequest_suits {request : Request} (h : Credential.Suits request.credential) :
    ∃ r, ofRequest request = .ok r ∧
      r.headers.values .ifNoneMatch = request.headers.values .ifNoneMatch := by
  have hgiven : ((Fields.empty.append .accept acceptJson).extend request.headers).values
      .ifNoneMatch = request.headers.values .ifNoneMatch := by
    have hne : FieldName.ifNoneMatch ≠ .accept := by decide +kernel
    rw [Fields.values_extend, Fields.values_append, if_neg hne]
    split
    · rename_i hnil
      rw [hnil]
      rfl
    · rfl
  unfold ofRequest fields
  cases hc : request.credential with
  | none => exact ⟨_, rfl, hgiven⟩
  | some c =>
    obtain ⟨name, value, hf, hne⟩ := h c hc
    simp only [hf]
    refine ⟨_, rfl, ?_⟩
    rw [Fields.values_insert, if_neg hne.symm, hgiven]

namespace Command

/-- The validator that an answer with status 200 brings: its first. -/
def Sent.validator? (e : Sent) : Option FieldValue :=
  match e.answer with
  | .ok r => if r.status = statusOk then (r.headers.values .etag).head? else none
  | .error _ => none

/-- What an answer brings goes on record as text. -/
theorem Sent.fresh?_resource {e : Sent} {r : HttpResponse} (h : e.answer = .ok r) :
    fresh? r.resource = e.validator?.map FieldValue.text := by
  have hstatus : r.resource.status = r.status := rfl
  unfold fresh? validator?
  rw [h, r.etag?_resource, hstatus]
  by_cases hs : r.status = statusOk
  · simp [hs]
  · simp [hs]

section
variable {request : Request} {x : Except ClientError Resource} {new : List Sent}

/-- What is answered was sent to a server. -/
theorem Sends.answered_of_ok {response : Resource} (h : Sends request (.ok response) new) :
    HttpRequest.isServed request.uri.scheme = true ∧
      ∃ e, new = [e] ∧ fresh? response = e.validator?.map FieldValue.text := by
  cases h with
  | @answered r answer hr hserved =>
    rw [HttpRequest.uri_of_ofRequest hr] at hserved
    exact ⟨hserved, ⟨r, .ok answer⟩, rfl, Sent.fresh?_resource rfl⟩

/-- A request with a condition is sent with that condition. -/
theorem Sends.ifNoneMatch (hc : Credential.Suits request.credential)
    (hserved : HttpRequest.isServed request.uri.scheme = true) (h : Sends request x new) :
    ∃ e, new = [e] ∧
      e.request.headers.values .ifNoneMatch = request.headers.values .ifNoneMatch := by
  obtain ⟨r, hr, hvalues⟩ := HttpRequest.ofRequest_suits hc
  cases h with
  | unfit he => cases hr.symm.trans he
  | unserved hr' hnot =>
    rw [HttpRequest.uri_of_ofRequest hr', hserved] at hnot
    cases hnot
  | failed hr' _ =>
    obtain rfl := Except.ok.inj (hr.symm.trans hr')
    exact ⟨_, rfl, hvalues⟩
  | answered hr' _ =>
    obtain rfl := Except.ok.inj (hr.symm.trans hr')
    exact ⟨_, rfl, hvalues⟩

end

/-! ## Validators on record -/

namespace Backend

/-- The validator on record for a URI. -/
def etag? : (b : Backend) → b.Records → String → Option String
  | .memory, table, uri => (Table.find? table uri).map CachedResponse.etag
  | .disk, handle, uri => (handle.index.find? uri).map IndexEntry.etag

/-- Records that are kept in a directory are those of its index. -/
def Settled (dir : String) : (b : Backend) → b.Records → Tree → Prop
  | .memory, _, _ => True
  | .disk, handle, t => handle.Indexed dir t

/-! ### In memory and on disk -/

theorem etag?_memory_lookup (memory : Memory) (uri : String) :
    (memory.lookup uri).etag? = etag? .memory memory uri := by
  show _ = (Table.find? memory uri).map CachedResponse.etag
  rw [Memory.lookup]
  cases Table.find? memory uri <;> rfl

theorem etag?_memory_store (memory : Memory) (uri etag body u : String) :
    etag? .memory (memory.store uri etag body) u =
      if u = uri then some etag else etag? .memory memory u := by
  show (Table.find? (Table.insert memory uri ⟨etag, body⟩) u).map CachedResponse.etag = _
  rw [Table.find?_insert]
  split <;> rfl

theorem etag?_disk_recorded (disk : DiskStore) (now : Instant) (uri etag u : String) :
    etag? .disk (disk.recorded now uri etag) u =
      if u = uri then some etag else etag? .disk disk u := by
  show ((disk.recorded now uri etag).index.find? u).map IndexEntry.etag = _
  rw [DiskStore.find?_recorded]
  split <;> rfl

/-- A lookup finds the validator on record, unless the body file cannot be read. -/
theorem etag?_of_lookedUp {φ : Type} {files : Answering Files.interface φ} {disk : DiskStore}
    {uri : String} {f f' : φ} {r : Except StoreError Lookup}
    (h : DiskStore.LookedUp files disk uri f r f') :
    (∃ found, r = .ok found ∧ found.etag? = etag? .disk disk uri) ∨
      ∃ path fault, r = .error (.io path fault) := by
  have hetag : etag? .disk disk uri = (disk.index.find? uri).map IndexEntry.etag := rfl
  rw [hetag]
  cases h with
  | miss hf => exact .inl ⟨_, rfl, by rw [hf]; rfl⟩
  | hit hf _ => exact .inl ⟨_, rfl, by rw [hf]; rfl⟩
  | gone hf _ => exact .inl ⟨_, rfl, by rw [hf]; rfl⟩
  | unread => exact .inr ⟨_, _, rfl⟩

/-! ### Questions to a store -/

variable {level : Level} {b : Backend} {records records' : b.Records} {w w' : Tree × List Sent}
  {dir uri etag body : String}

/-- Looking a URI up tells the validator on record, unless a file cannot be read. -/
theorem behind_lookup_etag? {r : Except StoreError Lookup}
    (h : behind level Tree.faulty b (records, w) (.lookup uri) r (records', w')) :
    records' = records ∧ w' = w ∧ ((∃ found, r = .ok found ∧ found.etag? = b.etag? records uri) ∨
      b = .disk ∧ ∃ path fault, r = .error (.io path fault)) := by
  have h : Runs (world Tree.faulty) (((b.store level).lookup uri).run records) w (r, records') w' :=
    h
  cases b with
  | memory =>
    obtain ⟨rfl, hm, rfl⟩ := runs_memory_lookup h
    exact ⟨hm, rfl, .inl ⟨_, rfl, etag?_memory_lookup _ _⟩⟩
  | disk =>
    obtain ⟨hl, hd, hsent⟩ := runs_disk_lookup h
    exact ⟨hd, Prod.ext (DiskStore.lookedUp_faulty hl).1 hsent,
      (etag?_of_lookedUp hl).imp_right fun he => ⟨rfl, he⟩⟩

/-- What is stored is on record if the call succeeds. For other URIs the same is on record as
before. -/
theorem behind_store_etag? {r : Except StoreError Unit}
    (h : behind level Tree.faulty b (records, w) (.store uri etag body) r (records', w')) :
    (r = .ok () → b.etag? records' uri = some etag) ∧
      ∀ u, u ≠ uri → b.etag? records' u = b.etag? records u := by
  have h : Runs (world Tree.faulty) (((b.store level).store uri etag body).run records) w
    (r, records') w' := h
  cases b with
  | memory =>
    obtain ⟨-, rfl, -⟩ := runs_memory_store h
    exact ⟨fun _ => (etag?_memory_store _ _ _ _ _).trans (if_pos rfl),
      fun u hu => (etag?_memory_store _ _ _ _ _).trans (if_neg hu)⟩
  | disk =>
    obtain ⟨now, y, hs, rfl, rfl, -⟩ := runs_disk_store h
    obtain ⟨⟨e, rfl⟩, -⟩ | ⟨⟨notice, rfl⟩, -⟩ := DiskStore.stored_cases rfl hs
    · exact ⟨fun hr => (nomatch hr), fun u _ => rfl⟩
    · exact ⟨fun _ => (etag?_disk_recorded _ _ _ _ _).trans (if_pos rfl),
        fun u hu => (etag?_disk_recorded _ _ _ _ _).trans (if_neg hu)⟩

theorem settled_store {r : Except StoreError Unit} (hsettled : b.Settled dir records w.1)
    (h : behind level Tree.faulty b (records, w) (.store uri etag body) r (records', w')) :
    b.Settled dir records' w'.1 := by
  have h : Runs (world Tree.faulty) (((b.store level).store uri etag body).run records) w
    (r, records') w' := h
  cases b with
  | memory => trivial
  | disk =>
    obtain ⟨now, y, hs, rfl, -, -⟩ := runs_disk_store h
    exact DiskStore.Indexed.stored hsettled hs

/-! ### Calls -/

/-- What a question that concerns one URI leaves of the records: for other URIs all. -/
def Keeps (dir uri : String) (b : Backend) (s s' : b.Records × (Tree × List Sent)) : Prop :=
  (b.Settled dir s.1 s.2.1 → b.Settled dir s'.1 s'.2.1) ∧
    ∀ u, u ≠ uri → b.etag? s'.1 u = b.etag? s.1 u

theorem Keeps.trans {s s' s'' : b.Records × (Tree × List Sent)} (h : Keeps dir uri b s s')
    (h' : Keeps dir uri b s' s'') : Keeps dir uri b s s'' :=
  ⟨fun hs => h'.1 (h.1 hs), fun u hu => (h'.2 u hu).trans (h.2 u hu)⟩

theorem keeps_step {s s' : b.Records × (Tree × List Sent)}
    (h : Step (behind level Tree.faulty b) uri s s') : Keeps dir uri b s s' := by
  obtain ⟨records, w⟩ := s
  obtain ⟨records', w'⟩ := s'
  obtain ⟨q, r, hstep, hconcerns⟩ := h
  cases q with
  | lookup u =>
    obtain ⟨rfl, rfl, -⟩ := behind_lookup_etag? hstep
    exact ⟨id, fun _ _ => rfl⟩
  | send request =>
    obtain ⟨rfl, new, -, rfl⟩ := behind_send hstep
    exact ⟨id, fun _ _ => rfl⟩
  | store u etag body =>
    obtain rfl : u = uri := hconcerns
    exact ⟨fun hs => settled_store hs hstep, (behind_store_etag? hstep).2⟩
  | notify n =>
    obtain ⟨rfl, rfl⟩ := behind_notify hstep
    exact ⟨id, fun _ _ => rfl⟩

theorem Keeps.of_steps {s s' : b.Records × (Tree × List Sent)}
    (h : Relation.ReflTransGen (Step (behind level Tree.faulty b) uri) s s') :
    Keeps dir uri b s s' := by
  induction h with
  | refl => exact ⟨id, fun _ _ => rfl⟩
  | tail _ hstep ih => exact ih.trans (keeps_step hstep)

/-! ## A GET that is answered with a validator -/

variable {request : Request} {page : Resource} {v : FieldValue}

theorem recorded_validator {response : Resource} (hv : fresh? response = some v.text)
    (h : Recorded (behind level Tree.faulty b) uri response (records, w) (.ok page)
      (records', w')) : b.etag? records' uri = some v.text := by
  cases h with
  | nothing hf => cases hf.symm.trans hv
  | stored hf hs =>
    obtain rfl := Option.some.inj (hf.symm.trans hv)
    exact (behind_store_etag? hs).1 rfl

theorem exchanged_validator
    (h : Exchanged (behind level Tree.faulty b) request (records, w) (.ok page) (records', w')) :
    HttpRequest.isServed request.uri.scheme = true ∧ ∃ e, w'.2 = w.2 ++ [e] ∧
      ∀ v, e.validator? = some v → b.etag? records' request.uri.text = some v.text := by
  cases h with
  | answered hs hr =>
    obtain ⟨-, new, hsends, hw⟩ := behind_send hs
    obtain ⟨hserved, e, rfl, hfresh⟩ := hsends.answered_of_ok
    refine ⟨hserved, e, ?_, fun v hv => recorded_validator ?_ hr⟩
    · rw [(recorded_quiet hr).1, hw]
    · rw [hfresh, hv]
      rfl

/-- An answer that nothing has changed brings no validator. -/
theorem validator?_notModified {response : Resource} {e : Sent}
    (h : response.status = statusNotModified)
    (he : fresh? response = e.validator?.map FieldValue.text) : e.validator? = none := by
  rw [fresh?_of_notModified h] at he
  exact Option.map_eq_none_iff.1 he.symm

/-- A GET that succeeds has been answered, and the validator that its answer brought is on
record. -/
theorem got_validator
    (h : Got (behind level Tree.faulty b) request (records, w) (.ok page) (records', w')) :
    HttpRequest.isServed request.uri.scheme = true ∧ ∃ new, w'.2 = w.2 ++ new ∧
      ∀ e ∈ new, ∀ v, e.validator? = some v →
        b.etag? records' request.uri.text = some v.text := by
  cases h with
  | missed hl _ hx =>
    obtain ⟨hserved, e, hw, hv⟩ := exchanged_validator hx
    exact ⟨hserved, [e], by rw [hw, behind_lookup hl], List.forall_mem_singleton.2 hv⟩
  | unsendable hl _ _ hn hx =>
    obtain ⟨hserved, e, hw, hv⟩ := exchanged_validator hx
    refine ⟨hserved, [e], ?_, List.forall_mem_singleton.2 hv⟩
    rw [hw, (behind_notify hn).2, behind_lookup hl]
  | changed hl _ _ hs _ hr =>
    obtain ⟨hserved, e, hw, hv⟩ := exchanged_validator (.answered hs hr)
    exact ⟨hserved, [e], by rw [hw, behind_lookup hl], List.forall_mem_singleton.2 hv⟩
  | unchanged hl _ _ hs h304 _ =>
    obtain ⟨-, new, hsends, rfl⟩ := behind_send hs
    obtain ⟨hserved, e, rfl, hfresh⟩ := hsends.answered_of_ok
    refine ⟨hserved, [e], by rw [behind_lookup hl], ?_⟩
    simp [validator?_notModified h304 hfresh]
  | bodiless hl _ _ hs h304 _ hn hx =>
    obtain ⟨-, new, hsends, hw⟩ := behind_send hs
    obtain ⟨hserved, e, rfl, hfresh⟩ := hsends.answered_of_ok
    obtain ⟨-, e', hw', hv⟩ := exchanged_validator hx
    refine ⟨hserved, [e, e'], ?_, ?_⟩
    · rw [hw', (behind_notify hn).2, hw, behind_lookup hl, List.append_assoc]
      rfl
    · refine List.forall_mem_cons.2 ⟨fun v hnone => ?_, List.forall_mem_singleton.2 hv⟩
      cases (validator?_notModified h304 hfresh).symm.trans hnone

/-! ## A GET with a validator on record -/

section
variable {x : Except ClientError Resource} {found : Lookup} {validator : FieldValue}
  {new : List Sent} (hc : Credential.Suits request.credential)
  (hserved : HttpRequest.isServed request.uri.scheme = true)

theorem etag?_of_behind_lookup
    (h : behind level Tree.faulty b (records, w) (.lookup uri)
      (.ok found : Except StoreError Lookup) (records', w')) :
    w' = w ∧ found.etag? = b.etag? records uri := by
  obtain ⟨-, hw, ⟨found', he, hfound⟩ | ⟨-, path, fault, he⟩⟩ := behind_lookup_etag? h
  · cases he
    exact ⟨hw, hfound⟩
  · cases he

include hc hserved

theorem conditional_sends (hv : FieldValue.ofString? v.text = some validator)
    (h : Sends (conditional request validator) x new) :
    ∃ e, new = [e] ∧
      (e.request.headers.values .ifNoneMatch).map FieldValue.bytes = [Text.bytes v.text] := by
  obtain ⟨e, rfl, hvalues⟩ := h.ifNoneMatch (by exact hc) (by exact hserved)
  have hbytes : validator.bytes = Text.bytes v.text := FieldValue.bytes_of_ofBytes? hv
  refine ⟨e, rfl, ?_⟩
  rw [hvalues, conditional, Fields.values_insert, if_pos rfl, List.map_cons, List.map_nil, hbytes]

theorem unconditional_sends (h : Sends (unconditional request) x new) :
    ∃ e, new = [e] ∧ e.request.headers.values .ifNoneMatch = [] := by
  obtain ⟨e, rfl, hvalues⟩ := h.ifNoneMatch (by exact hc) (by exact hserved)
  refine ⟨e, rfl, ?_⟩
  rw [hvalues, unconditional, Fields.values_remove, if_pos rfl]

theorem exchanged_unconditional
    (h : Exchanged (behind level Tree.faulty b) (unconditional request) (records, w) x
      (records', w')) :
    ∃ e, w'.2 = w.2 ++ [e] ∧ e.request.headers.values .ifNoneMatch = [] := by
  cases h with
  | failed hs =>
    obtain ⟨-, new, hsends, rfl⟩ := behind_send hs
    obtain ⟨e, rfl, hvalues⟩ := unconditional_sends hc hserved hsends
    exact ⟨e, rfl, hvalues⟩
  | answered hs hr =>
    obtain ⟨-, new, hsends, hw⟩ := behind_send hs
    obtain ⟨e, rfl, hvalues⟩ := unconditional_sends hc hserved hsends
    exact ⟨e, by rw [(recorded_quiet hr).1, hw], hvalues⟩

/-- The first request of a GET has the validator on record for its condition, and no other one has a
condition. -/
theorem got_echo (hetag : b.etag? records request.uri.text = some v.text)
    (h : Got (behind level Tree.faulty b) request (records, w) x (records', w')) :
    (b = .disk ∧ (∃ path fault, x = .error (.store (.io path fault))) ∧ w'.2 = w.2) ∨
      ∃ e rest, w'.2 = w.2 ++ e :: rest ∧
        (e.request.headers.values .ifNoneMatch).map FieldValue.bytes = [Text.bytes v.text] ∧
        ∀ e' ∈ rest, e'.request.headers.values .ifNoneMatch = [] := by
  obtain ⟨sendable, hsendable⟩ : ∃ value, FieldValue.ofString? v.text = some value :=
    Text.ofString?_decodeLossy (List.all_eq_true.1 v.valid)
  have hfound : ∀ {found etag s₁}, behind level Tree.faulty b (records, w)
      (.lookup request.uri.text) (.ok found : Except StoreError Lookup) s₁ →
      found.etag? = some etag → s₁.2 = w ∧ etag = v.text := by
    intro found etag s₁ hl he
    obtain ⟨hw, hfound⟩ := etag?_of_behind_lookup hl
    rw [he, hetag] at hfound
    exact ⟨hw, Option.some.inj hfound⟩
  cases h with
  | unknown hl =>
    obtain ⟨-, rfl, ⟨found, he, -⟩ | ⟨hb, path, fault, he⟩⟩ := behind_lookup_etag? hl
    · cases he
    · cases he
      exact .inl ⟨hb, ⟨path, fault, rfl⟩, rfl⟩
  | missed hl he _ =>
    rw [(etag?_of_behind_lookup hl).2, hetag] at he
    cases he
  | unsendable hl he hv _ _ =>
    obtain ⟨-, rfl⟩ := hfound hl he
    cases hv.symm.trans hsendable
  | unanswered hl he hv hs =>
    obtain ⟨hw, rfl⟩ := hfound hl he
    obtain ⟨-, new, hsends, rfl⟩ := behind_send hs
    obtain ⟨e, rfl, hvalues⟩ := conditional_sends hc hserved hv hsends
    exact .inr ⟨e, [], by rw [hw], hvalues, by simp⟩
  | changed hl he hv hs _ hr =>
    obtain ⟨hw, rfl⟩ := hfound hl he
    obtain ⟨-, new, hsends, hw'⟩ := behind_send hs
    obtain ⟨e, rfl, hvalues⟩ := conditional_sends hc hserved hv hsends
    exact .inr ⟨e, [], by rw [(recorded_quiet hr).1, hw', hw], hvalues, by simp⟩
  | unchanged hl he hv hs _ _ =>
    obtain ⟨hw, rfl⟩ := hfound hl he
    obtain ⟨-, new, hsends, rfl⟩ := behind_send hs
    obtain ⟨e, rfl, hvalues⟩ := conditional_sends hc hserved hv hsends
    exact .inr ⟨e, [], by rw [hw], hvalues, by simp⟩
  | bodiless hl he hv hs _ _ hn hx =>
    obtain ⟨hw, rfl⟩ := hfound hl he
    obtain ⟨-, new, hsends, hw'⟩ := behind_send hs
    obtain ⟨e, rfl, hvalues⟩ := conditional_sends hc hserved hv hsends
    obtain ⟨e', hw'', hnone⟩ := exchanged_unconditional hc hserved hx
    refine .inr ⟨e, [e'], ?_, hvalues, by simpa using hnone⟩
    rw [hw'', (behind_notify hn).2, hw', hw, List.append_assoc]
    rfl

end

/-! ## Series of calls -/

/-- A client before its first call. On disk its store has just been opened, and what is on record
from earlier names body files. -/
def Starts (dir : String) : (b : Backend) → b.Records → Tree → Prop
  | .memory, _, _ => True
  | .disk, handle, t' => (∃ t : Tree, t.run (DiskStore.openAt dir).run = (.ok handle, t')) ∧
      ∀ uri entry, handle.index.find? uri = some entry → DiskStore.BodyName entry.bodyFile

/-- Calls of certain requests through a client, whose directory may be opened anew between them. -/
inductive Series (level : Level) (dir : String) (allowed : Request → Prop) : (b : Backend) →
    b.Records × (Tree × List Sent) → b.Records × (Tree × List Sent) → Prop
  | nothing {b : Backend} (s : b.Records × (Tree × List Sent)) : Series level dir allowed b s s
  | called {b : Backend} {s : b.Records × (Tree × List Sent)} {records records' : b.Records}
      {w w' : Tree × List Sent} {request : Request} {x : Except ClientError Resource} :
      Series level dir allowed b s (records, w) → allowed request →
      Runs (world Tree.faulty) ((b.client level request).run records) w (x, records') w' →
      Series level dir allowed b s (records', w')
  | reopened {s : Records .disk × (Tree × List Sent)} {disk disk' : DiskStore} {t t' : Tree}
      {sent : List Sent} : Series level dir allowed .disk s (disk, (t, sent)) →
      t.run (DiskStore.openAt dir).run = (.ok disk', t') →
      Series level dir allowed .disk s (disk', (t', sent))

theorem settled_of_starts {t : Tree} (h : b.Starts dir records t) : b.Settled dir records t := by
  cases b with
  | memory => trivial
  | disk =>
    obtain ⟨⟨t₀, hrun⟩, hnames⟩ := h
    obtain ⟨hdir, hfinds⟩ :=
      DiskStore.finds_of_opened (DiskStore.runs_openAt_iff.1 (runs_answer_iff.2 hrun))
    exact ⟨hdir, hnames, hfinds⟩

/-- A call leaves alone what is on record for URIs that it is no GET of. -/
theorem keeps_call {x : Except ClientError Resource}
    (h : Runs (world Tree.faulty) ((b.client level request).run records) w (x, records') w') :
    (b.Settled dir records w.1 → b.Settled dir records' w'.1) ∧
      ∀ u, (request.method = .get → request.uri.text ≠ u) →
        b.etag? records' u = b.etag? records u := by
  by_cases hget : request.method = .get
  · have hkeeps : Keeps dir request.uri.text b (records, w) (records', w') :=
      .of_steps ((runs_client_get_iff hget).1 h).steps
    exact ⟨hkeeps.1, fun u hother => hkeeps.2 u (hother hget).symm⟩
  · obtain ⟨rfl, new, -, rfl⟩ := runs_client_other hget h
    exact ⟨id, fun _ _ => rfl⟩

/-- Whatever is called, records in a directory stay those of its index, and those for a URI stay if
it is never asked for. -/
theorem Series.keeps {allowed : Request → Prop} {s s' : b.Records × (Tree × List Sent)}
    (h : Series level dir allowed b s s') (hsettled : b.Settled dir s.1 s.2.1) :
    b.Settled dir s'.1 s'.2.1 ∧
      ∀ u, (∀ request, allowed request → request.method = .get → request.uri.text ≠ u) →
        b.etag? s'.1 u = b.etag? s.1 u := by
  induction h with
  | nothing => exact ⟨hsettled, fun _ _ => rfl⟩
  | called _ hallowed hrun ih =>
    obtain ⟨hkept, hetag⟩ := ih hsettled
    obtain ⟨hcall, hcalled⟩ := keeps_call hrun
    exact ⟨hcall hkept, fun u hother => (hcalled u (hother _ hallowed)).trans (hetag u hother)⟩
  | reopened _ hrun ih =>
    obtain ⟨hkept, hetag⟩ := ih hsettled
    obtain ⟨hindexed, hindex⟩ := DiskStore.Indexed.reopened hkept
      (DiskStore.runs_openAt_iff.1 (runs_answer_iff.2 hrun))
    refine ⟨hindexed, fun u hother => ?_⟩
    rw [← hetag u hother]
    exact congrArg (fun index : Index => (index.find? u).map IndexEntry.etag) hindex

end Backend

/-- **A validator comes back as text.** Let a GET through a cached client succeed, its records in
memory or in a directory, and let an answer with status 200 bring a validator. Whatever other
resources are asked for, whatever else is sent and however often the directory is opened anew before
the next GET of the resource: that sends exactly one request with a condition, its first, and the
condition is the text of the validator. These are the bytes that the server sent if and only if
those are a text. Only if the body file cannot be read the GET fails and sends nothing. -/
theorem validator_echoed {level : Level} {dir : String} {b : Backend}
    {s : b.Records × (Tree × List Sent)} {records₁ records₂ records₃ records₄ : b.Records}
    {w₁ w₂ w₃ w₄ : Tree × List Sent} {first second : Request} {page : Resource}
    {x : Except ClientError Resource} {new : List Sent} {e : Sent} {v : FieldValue}
    (hstart : b.Starts dir s.1 s.2.1)
    (hbefore : Backend.Series level dir (fun _ => True) b s (records₁, w₁))
    (hfirst : first.method = .get)
    (hgot : Runs (world Tree.faulty) ((b.client level first).run records₁) w₁
      (.ok page, records₂) w₂)
    (hnew : w₂.2 = w₁.2 ++ new) (he : e ∈ new) (hv : e.validator? = some v)
    (hbetween : Backend.Series level dir
      (fun r => r.method = .get → r.uri.text ≠ first.uri.text) b (records₂, w₂) (records₃, w₃))
    (hsecond : second.method = .get) (huri : second.uri = first.uri)
    (hc : Credential.Suits second.credential)
    (hagain : Runs (world Tree.faulty) ((b.client level second).run records₃) w₃
      (x, records₄) w₄) :
    ((b = .disk ∧ (∃ path fault, x = .error (.store (.io path fault))) ∧ w₄.2 = w₃.2) ∨
      ∃ e rest, w₄.2 = w₃.2 ++ e :: rest ∧
        (e.request.headers.values .ifNoneMatch).map FieldValue.bytes = [Text.bytes v.text] ∧
        ∀ e' ∈ rest, e'.request.headers.values .ifNoneMatch = []) ∧
      (Text.bytes v.text = v.bytes ↔ ∃ text, v.bytes = Text.bytes text) := by
  refine ⟨?_, Text.bytes_decodeLossy_eq_iff⟩
  have hsettled₁ : b.Settled dir records₁ w₁.1 :=
    (hbefore.keeps (Backend.settled_of_starts hstart)).1
  have hsettled₂ : b.Settled dir records₂ w₂.1 := (Backend.keeps_call hgot).1 hsettled₁
  obtain ⟨hserved, new', hnew', hbrings⟩ :=
    Backend.got_validator ((Backend.runs_client_get_iff hfirst).1 hgot)
  obtain rfl : new = new' := List.append_cancel_left (hnew.symm.trans hnew')
  have hetag : b.etag? records₃ second.uri.text = some v.text := by
    rw [huri, ← hbrings e he v hv]
    exact (hbetween.keeps hsettled₂).2 first.uri.text fun _ hother => hother
  rw [← huri] at hserved
  exact Backend.got_echo hc hserved hetag ((Backend.runs_client_get_iff hsecond).1 hagain)

/-! ### A validator that is no text -/

namespace Latin

def uri : Url := ⟨"http", some ⟨"", none, .domain "h", none⟩, .steps [""], none, none⟩

def get : Request := .get uri

def delete : Request := { method := .delete, uri := uri }

/-- The letter between the quotes is written in one byte. -/
def quoted : FieldValue := { bytes := [0x22, 0xE9, 0x22], valid := by decide +kernel }

/-- What the server sends, whatever it is asked for. -/
def page : HttpRequest → HttpResponse := fun _ => ⟨200, ⟨[(.etag, quoted)]⟩, "[1]"⟩

/-- A call of a client with its records in memory. -/
def call (request : Request) (s : Memory × (Tree × List Sent)) :
    (Except ClientError Resource × Memory) × (Tree × List Sent) :=
  (((Backend.client .warn .memory request).run s.1).run (serving page)).run s.2

theorem runs_call (request : Request) (s : Memory × (Tree × List Sent)) :
    Runs (world Tree.faulty) ((Backend.client .warn .memory request).run s.1) s.2
      (call request s).1 (call request s).2 :=
  runs_serving ((Backend.client .warn .memory request).run s.1) rfl

def start : Memory × (Tree × List Sent) := (Table.empty, (Tree.empty, []))

/-- A GET, another request for the resource, and the next GET. -/
def first : (Except ClientError Resource × Memory) × (Tree × List Sent) := call get start

def between : (Except ClientError Resource × Memory) × (Tree × List Sent) :=
  call delete (first.1.2, first.2)

def second : (Except ClientError Resource × Memory) × (Tree × List Sent) :=
  call get (between.1.2, between.2)

theorem first_ok : ∃ page, first.1.1 = .ok page := by
  have hok : first.1.1.toOption.isSome = true := by decide +kernel
  obtain ⟨page, hpage⟩ := Option.isSome_iff_exists.1 hok
  exact ⟨page, DiskStore.eq_ok_of_toOption hpage⟩

theorem validators_first : first.2.2.map Sent.validator? = [some quoted] := by decide +kernel

theorem brought : ∃ e ∈ first.2.2, e.validator? = some quoted := by
  have hmem : some quoted ∈ first.2.2.map Sent.validator? := by
    rw [validators_first]
    exact List.mem_singleton.2 rfl
  exact List.mem_map.1 hmem

theorem runs_first : ∃ page, first.1.1 = .ok page ∧
    Runs (world Tree.faulty) ((Backend.client .warn .memory get).run start.1) start.2
      (.ok page, first.1.2) first.2 := by
  obtain ⟨page, hpage⟩ := first_ok
  have hrun := runs_call get start
  have hfirst : call get start = ((.ok page, first.1.2), first.2) := by
    rw [← hpage]
    rfl
  rw [hfirst] at hrun
  exact ⟨page, hpage, hrun⟩

theorem validator_echoed_replaced :
    (∃ page, first.1.1 = .ok page) ∧ (∃ e ∈ first.2.2, e.validator? = some quoted) ∧
      (∃ e rest, second.2.2 = between.2.2 ++ e :: rest ∧
        (e.request.headers.values .ifNoneMatch).map FieldValue.bytes = [Text.bytes quoted.text] ∧
        ∀ e' ∈ rest, e'.request.headers.values .ifNoneMatch = []) ∧
      ¬∃ text, quoted.bytes = Text.bytes text := by
  obtain ⟨page, hpage, hfirst⟩ := runs_first
  obtain ⟨e, he, hv⟩ := brought
  have hstart : Backend.Starts "/" .memory start.1 start.2.1 := trivial
  have hdelete : delete.method = .get → delete.uri.text ≠ get.uri.text := fun hget => by cases hget
  have hbetween : Backend.Series .warn "/" (fun r => r.method = .get → r.uri.text ≠ get.uri.text)
      .memory (first.1.2, first.2) (between.1.2, between.2) :=
    .called (.nothing _) hdelete (runs_call delete (first.1.2, first.2))
  have hsuits : Credential.Suits get.credential := fun _ hc => by cases hc
  obtain ⟨⟨hdisk, -⟩ | hechoed, hiff⟩ := validator_echoed hstart (.nothing _) rfl hfirst
    (List.nil_append _).symm he hv hbetween rfl rfl hsuits
    (runs_call get (between.1.2, between.2))
  · cases hdisk
  · refine ⟨⟨page, hpage⟩, ⟨e, he, hv⟩, hechoed, fun htext => ?_⟩
    have hother : Text.bytes quoted.text ≠ quoted.bytes := by decide +kernel
    exact hother (hiff.2 htext)

/-- What the server gets back is not what it sent. -/
theorem validator_not_echoed :
    (∃ page, first.1.1 = .ok page ∧
        Runs (world Tree.faulty) ((Backend.client .warn .memory get).run start.1) start.2
          (.ok page, first.1.2) first.2) ∧
      (∃ e ∈ first.2.2, e.validator? = some quoted) ∧
      Runs (world Tree.faulty) ((Backend.client .warn .memory delete).run first.1.2) first.2
        between.1 between.2 ∧
      Runs (world Tree.faulty) ((Backend.client .warn .memory get).run between.1.2) between.2
        second.1 second.2 ∧
      (second.2.2.drop between.2.2.length).map (fun e =>
        (e.request.headers.values .ifNoneMatch).map FieldValue.bytes) =
        [[[0x22, 0xEF, 0xBF, 0xBD, 0x22]]] ∧
      quoted.bytes = [0x22, 0xE9, 0x22] := by
  refine ⟨runs_first, brought, runs_call delete (first.1.2, first.2),
    runs_call get (between.1.2, between.2), ?_, rfl⟩
  decide +kernel

end Latin

end Command

end ConditionalGet
