import ConditionalGet.Config.Reader
import ConditionalGet.Proofs.Toml.Keys
import Mathlib.Data.List.Nodup

/-!
# What a document sets, and what it leaves to the defaults

A configuration that is read has in each field what the document sets, or what `Config.default` has
there (`Field`, `Overlay`), and so has the table `cache` in it. Each key of a table stands there
once, so the document leaves no choice (`Overlay.unique`), and in which order the entries are read
makes no difference. A document is refused only for a value that does not fit its own key
(`parse_isOk_iff`).
-/

set_option autoImplicit false

namespace ConditionalGet.Config

open Toml Checked

variable {α σ : Type} {entries entries' : Entries} {key : String} {read : Value → Except Flaw α}
  {R R' : Value → α → Prop}

/-! ## Fields -/

/-- A field has the value that is set under its key, which `R` tells, or its default where the key
is missing. -/
def Field (entries : Entries) (key : String) (R : Value → α → Prop) (default x : α) : Prop :=
  (∃ v, (key, v) ∈ entries ∧ R v x) ∨ key ∉ entries.map Prod.fst ∧ x = default

/-- What is set is what is read of the value. -/
def Reads (read : Value → Except Flaw α) (v : Value) (x : α) : Prop := read v = .ok x

theorem Field.of_perm {default x : α} (hperm : entries.Perm entries')
    (h : Field entries key R default x) : Field entries' key R default x := by
  rcases h with ⟨v, hmem, hx⟩ | ⟨hmissing, hx⟩
  · exact .inl ⟨v, hperm.mem_iff.1 hmem, hx⟩
  · exact .inr ⟨fun hmem => hmissing ((hperm.map Prod.fst).mem_iff.2 hmem), hx⟩

theorem Field.mono {default x : α} (hR : ∀ v, (key, v) ∈ entries → R v x → R' v x)
    (h : Field entries key R default x) : Field entries key R' default x :=
  h.imp_left fun ⟨v, hmem, hx⟩ => ⟨v, hmem, hR v hmem hx⟩

/-- Where each key stands once, a field has one value. -/
theorem Field.unique {default x y : α} (hn : (entries.map Prod.fst).Nodup)
    (hR : ∀ v, (key, v) ∈ entries → R v x → R v y → x = y) (hx : Field entries key R default x)
    (hy : Field entries key R default y) : x = y := by
  rcases hx with ⟨v, hv, hxv⟩ | ⟨hmissing, rfl⟩
  · rcases hy with ⟨w, hw, hyw⟩ | ⟨hmissing, -⟩
    · obtain ⟨-, rfl⟩ := Prod.mk.inj (List.inj_on_of_nodup_map hn hv hw rfl)
      exact hR v hv hxv hyw
    · exact absurd (List.mem_map_of_mem hv) hmissing
  · rcases hy with ⟨w, hw, -⟩ | ⟨-, rfl⟩
    · exact absurd (List.mem_map_of_mem hw) hmissing
    · rfl

theorem Field.unique_of_reads {default x y : α} (hn : (entries.map Prod.fst).Nodup)
    (hx : Field entries key (Reads read) default x) (hy : Field entries key (Reads read) default y) :
    x = y :=
  hx.unique hn (fun _ _ hxv hyv => Except.ok.inj (hxv.symm.trans hyv)) hy

/-- What is set, with the default for what is not, is the value of the field. -/
theorem Field.getD {default : α} {x : Option α}
    (h : Field entries key (Reads fun v => some <$> read v) none x) :
    Field entries key (Reads read) default (x.getD default) := by
  rcases h with ⟨v, hmem, hread⟩ | ⟨hmissing, rfl⟩
  · obtain ⟨a, ha, hx⟩ := bind_eq_ok_iff.1 ((map_eq_pure_bind _ _).symm.trans hread)
    cases hx
    exact .inl ⟨v, hmem, ha⟩
  · exact .inr ⟨hmissing, rfl⟩

/-- An entry sets a field under the field's key, and leaves it alone under any other. -/
def Sets (e : String × Value) (key : String) (read : Value → Except Flaw α) (x x' : Option α) :
    Prop :=
  (e.1 = key ∧ some <$> read e.2 = .ok x') ∨ (e.1 ≠ key ∧ x' = x)

/-- Entries read one after another leave a field at what its own entry sets. -/
theorem foldlM_field {step : σ → String × Value → Except Flaw σ} {get : σ → Option α}
    (hstep : ∀ s e s', step s e = .ok s' → Sets e key read (get s) (get s'))
    (hn : (entries.map Prod.fst).Nodup) {s s' : σ} (h : entries.foldlM step s = .ok s') :
    Field entries key (Reads fun v => some <$> read v) (get s) (get s') := by
  induction entries generalizing s with
  | nil =>
    cases h
    exact .inr ⟨by simp, rfl⟩
  | cons e rest ih =>
    rw [List.foldlM_cons] at h
    obtain ⟨s₁, hs₁, h⟩ := bind_eq_ok_iff.1 h
    rw [List.map_cons, List.nodup_cons] at hn
    rcases ih hn.2 h with ⟨v, hmem, hread⟩ | ⟨hmissing, hget⟩
    · exact .inl ⟨v, List.mem_cons_of_mem _ hmem, hread⟩
    · -- no later entry sets the field, so it is as the first one leaves it
      rcases hstep s e s₁ hs₁ with ⟨rfl, hread⟩ | ⟨hkey, hkept⟩
      · exact .inl ⟨e.2, List.mem_cons_self, hget ▸ hread⟩
      · refine .inr ⟨?_, hget.trans hkept⟩
        rw [List.map_cons, List.mem_cons, not_or]
        exact ⟨hkey.symm, hmissing⟩

/-! ## The table `cache` -/

theorem inOrder_perm (entries : Entries) : (inOrder entries).Perm entries :=
  List.mergeSort_perm entries _

theorem nodup_inOrder (hn : (entries.map Prod.fst).Nodup) :
    ((inOrder entries).map Prod.fst).Nodup :=
  ((inOrder_perm entries).map Prod.fst).nodup_iff.2 hn

/-- The entries of the table `cache`, which may also be an array of its values in this order. -/
def cacheEntries? : Value → Option Entries
  | .table _ entries => some entries
  | .array _ items => some (["backend", "dir"].zip items)
  | .moment => some []
  | _ => none

/-- Each field of the table has what is set there, or its default. -/
structure CacheOverlay (entries : Entries) (c : CacheConfig) : Prop where
  backend : Field entries "backend" (Reads readBackend) Config.default.cache.backend c.backend
  dir : Field entries "dir" (Reads fun v => some <$> readDir v) Config.default.cache.dir c.dir

/-- What the table `cache` says, over its defaults. -/
def CacheReads (v : Value) (c : CacheConfig) : Prop :=
  ∃ entries, cacheEntries? v = some entries ∧ CacheOverlay entries c

theorem nodup_cacheEntries {v : Value} (hv : v.Keyed) (h : cacheEntries? v = some entries) :
    (entries.map Prod.fst).Nodup := by
  cases v with
  | table =>
    cases h
    exact (keyed_table.1 hv).nodup
  | array _ items =>
    cases h
    rcases items with _ | ⟨backend, _ | ⟨dir, more⟩⟩ <;> simp
  | moment =>
    cases h
    exact List.nodup_nil
  | string | integer | float | boolean => cases h

theorem CacheOverlay.unique {c c' : CacheConfig} (hn : (entries.map Prod.fst).Nodup)
    (h : CacheOverlay entries c) (h' : CacheOverlay entries c') : c = c' := by
  cases c
  cases c'
  congr
  · exact h.backend.unique_of_reads hn h'.backend
  · exact h.dir.unique_of_reads hn h'.dir

theorem readCacheEntry_sets {s s' : CacheSettings} {e : String × Value}
    (h : readCacheEntry s e = .ok s') :
    Sets e "backend" readBackend s.backend s'.backend ∧
      Sets e "dir" (fun v => some <$> readDir v) s.dir s'.dir := by
  unfold readCacheEntry at h
  split at h
  · rename_i hkey
    obtain ⟨backend, hread, h⟩ := bind_eq_ok_iff.1 h
    cases h
    simp [Sets, hkey, hread]
  · rename_i hkey
    obtain ⟨dir, hread, h⟩ := bind_eq_ok_iff.1 h
    cases h
    simp [Sets, hkey, hread]
  · rename_i hbackend hdir
    obtain ⟨_, -, h⟩ := bind_eq_ok_iff.1 h
    cases h
    exact ⟨.inr ⟨hbackend, rfl⟩, .inr ⟨hdir, rfl⟩⟩

/-- What is read of the table `cache`. -/
theorem readCacheSettings_fields {v : Value} {s : CacheSettings} (hv : v.Keyed)
    (h : readCacheSettings v = .ok s) : ∃ entries, cacheEntries? v = some entries ∧
      Field entries "backend" (Reads fun v => some <$> readBackend v) none s.backend ∧
      Field entries "dir" (Reads fun v => some <$> some <$> readDir v) none s.dir := by
  unfold readCacheSettings at h
  split at h
  · rename_i entries
    have hn := nodup_inOrder (keyed_table.1 hv).nodup
    refine ⟨entries, rfl, ?_, ?_⟩
    · exact (foldlM_field (fun s e s' h => (readCacheEntry_sets h).1) hn h).of_perm
        (inOrder_perm entries)
    · exact (foldlM_field (fun s e s' h => (readCacheEntry_sets h).2) hn h).of_perm
        (inOrder_perm entries)
  · cases h
    exact ⟨[], rfl, by simp [Field], by simp [Field]⟩
  · cases h
    exact ⟨[], rfl, by simp [Field], by simp [Field]⟩
  · rename_i backend
    obtain ⟨b, hb, h⟩ := bind_eq_ok_iff.1 h
    cases h
    exact ⟨[("backend", backend)], rfl, by simp [Field, Reads, hb], by simp [Field]⟩
  · rename_i backend dir more
    obtain ⟨b, hb, h⟩ := bind_eq_ok_iff.1 h
    obtain ⟨d, hd, h⟩ := bind_eq_ok_iff.1 h
    cases h
    refine ⟨[("backend", backend), ("dir", dir)], rfl, ?_, ?_⟩
    · simp [Field, Reads, hb]
    · simp [Field, Reads, hd]
  · cases h

theorem readCache_overlay {v : Value} {c : CacheConfig} (hv : v.Keyed) (h : readCache v = .ok c) :
    CacheReads v c := by
  obtain ⟨s, hs, h⟩ := bind_eq_ok_iff.1 h
  cases h
  obtain ⟨entries, hentries, hbackend, hdir⟩ := readCacheSettings_fields hv hs
  exact ⟨entries, hentries, hbackend.getD, hdir.getD⟩

/-! ## The document -/

/-- Each field of the configuration has what the document sets, or its default. -/
structure Overlay (entries : Entries) (c : Config) : Prop where
  timeout : Field entries "timeout_secs" (Reads readNumber) Config.default.timeout c.timeout
  connectTimeout : Field entries "connect_timeout_secs" (Reads readNumber)
    Config.default.connectTimeout c.connectTimeout
  userAgent :
    Field entries "user_agent" (Reads (readText "a string")) Config.default.userAgent c.userAgent
  httpVersion :
    Field entries "http_version" (Reads readVersion) Config.default.httpVersion c.httpVersion
  cache : Field entries "cache" CacheReads Config.default.cache c.cache

/-- A document says in one way what the configuration is. -/
theorem Overlay.unique {c c' : Config} (hk : Toml.Keyed entries) (h : Overlay entries c)
    (h' : Overlay entries c') : c = c' := by
  cases c
  cases c'
  congr
  · exact h.timeout.unique_of_reads hk.nodup h'.timeout
  · exact h.connectTimeout.unique_of_reads hk.nodup h'.connectTimeout
  · exact h.userAgent.unique_of_reads hk.nodup h'.userAgent
  · exact h.httpVersion.unique_of_reads hk.nodup h'.httpVersion
  · refine h.cache.unique hk.nodup ?_ h'.cache
    rintro v hv ⟨table, htable, ho⟩ ⟨table', htable', ho'⟩
    obtain rfl := Option.some.inj (htable.symm.trans htable')
    exact ho.unique (nodup_cacheEntries (hk.values _ hv) htable) ho'

theorem readEntry_sets {s s' : Settings} {e : String × Value} (h : readEntry s e = .ok s') :
    Sets e "timeout_secs" readNumber s.timeout s'.timeout ∧
    Sets e "connect_timeout_secs" readNumber s.connectTimeout s'.connectTimeout ∧
    Sets e "user_agent" (readText "a string") s.userAgent s'.userAgent ∧
    Sets e "http_version" readVersion s.httpVersion s'.httpVersion ∧
    Sets e "cache" readCache s.cache s'.cache := by
  unfold readEntry at h
  split at h
  case h_6 htimeout hconnect hagent hversion hcache =>
    obtain ⟨_, -, h⟩ := bind_eq_ok_iff.1 h
    cases h
    exact ⟨.inr ⟨htimeout, rfl⟩, .inr ⟨hconnect, rfl⟩, .inr ⟨hagent, rfl⟩, .inr ⟨hversion, rfl⟩,
      .inr ⟨hcache, rfl⟩⟩
  all_goals
    rename_i hkey
    obtain ⟨x, hread, h⟩ := bind_eq_ok_iff.1 h
    cases h
    simp [Sets, hkey, hread]

/-- **What is read is the document over the defaults.** -/
theorem parse_overlay {text : String} {c : Config} (h : parse text = .ok c) :
    ∃ entries, Toml.parse text = .ok entries ∧ Toml.Keyed entries ∧ Overlay entries c := by
  unfold parse at h
  split at h
  · rename_i entries hentries
    obtain ⟨s, hs, h⟩ := bind_eq_ok_iff.1 h
    cases h
    have hkeyed := parse_keyed hentries
    have hn := nodup_inOrder hkeyed.nodup
    have field {α : Type} {key : String} {read : Value → Except Flaw α} {get : Settings → Option α}
        (hsets : ∀ s e s', readEntry s e = .ok s' → Sets e key read (get s) (get s')) :
        Field entries key (Reads fun v => some <$> read v) (get {}) (get s) :=
      (foldlM_field hsets hn hs).of_perm (inOrder_perm entries)
    refine ⟨entries, hentries, hkeyed, ?_, ?_, ?_, ?_, ?_⟩
    · exact (field fun _ _ _ h => (readEntry_sets h).1).getD
    · exact (field fun _ _ _ h => (readEntry_sets h).2.1).getD
    · exact (field fun _ _ _ h => (readEntry_sets h).2.2.1).getD
    · exact (field fun _ _ _ h => (readEntry_sets h).2.2.2.1).getD
    · have hcache : Field entries "cache" (Reads readCache) CacheConfig.default s.filled.cache :=
        (field fun _ _ _ h => (readEntry_sets h).2.2.2.2).getD
      exact hcache.mono fun v hmem hread => readCache_overlay (hkeyed.values _ hmem) hread
  · cases h

/-! ## What is accepted -/

/-- An entry fits if its value can be read as what its key asks for; under an unknown key it can be
passed over. -/
def Fits (e : String × Value) : Prop :=
  match e.1 with
  | "timeout_secs" | "connect_timeout_secs" => ∃ n, readNumber e.2 = .ok n
  | "user_agent" => ∃ text, readText "a string" e.2 = .ok text
  | "http_version" => ∃ version, readVersion e.2 = .ok version
  | "cache" => ∃ cache, readCache e.2 = .ok cache
  | _ => ∃ done, ignore e.2 = .ok done

theorem readEntry_isOk_iff (s : Settings) (e : String × Value) :
    (∃ s', readEntry s e = .ok s') ↔ Fits e := by
  unfold readEntry Fits
  split
  all_goals simp only [isOk_bind_pure_iff, *]

/-- A text is accepted if it is a document whose entries fit, each by itself. -/
theorem parse_isOk_iff {text : String} : (∃ c, parse text = .ok c) ↔
    ∃ entries, Toml.parse text = .ok entries ∧ ∀ e ∈ entries, Fits e := by
  unfold parse
  cases hentries : Toml.parse text with
  | ok entries =>
    have hfits : (∃ s, (inOrder entries).foldlM readEntry {} = .ok s) ↔ ∀ e ∈ entries, Fits e := by
      rw [foldlM_isOk_iff readEntry_isOk_iff]
      exact forall_congr' fun e => by rw [(inOrder_perm entries).mem_iff]
    constructor
    · exact fun h => ⟨entries, rfl, hfits.1 (isOk_bind_pure_iff.1 h)⟩
    · rintro ⟨_, ⟨⟩, h⟩
      exact isOk_bind_pure_iff.2 (hfits.2 h)
  | error flaw => simp

end ConditionalGet.Config
