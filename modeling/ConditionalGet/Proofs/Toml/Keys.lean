import ConditionalGet.Proofs.Checked
import ConditionalGet.Toml.Document

/-!
# The keys of a document

No table of a document has a key twice (`parse_keyed`): whatever a line adds to, it adds only under
a key that is not there yet, or replaces what is there. `Value.Keyed` says it of a value and all
that is in it; it goes by the lines of the document, one after another, and for a line along the
path that the line names.
-/

set_option autoImplicit false

namespace ConditionalGet.Toml

open Checked

/-- Each table in a value has each of its keys once. -/
inductive Value.Keyed : Value → Prop
  | string (text : String) : Keyed (.string text)
  | integer (value : Int) : Keyed (.integer value)
  | float (value : Fractional) : Keyed (.float value)
  | boolean (value : Bool) : Keyed (.boolean value)
  | moment : Keyed .moment
  | array {ofTables : Bool} {items : List Value} :
      (∀ v ∈ items, Keyed v) → Keyed (.array ofTables items)
  | table {origin : Origin} {entries : List (String × Value)} :
      (entries.map Prod.fst).Nodup → (∀ e ∈ entries, Keyed e.2) → Keyed (.table origin entries)

/-- The entries have each key once, and so have the tables in them. -/
structure Keyed (entries : Entries) : Prop where
  nodup : (entries.map Prod.fst).Nodup
  values : ∀ e ∈ entries, e.2.Keyed

theorem keyed_nil : Keyed [] := ⟨List.nodup_nil, fun _ h => nomatch h⟩

theorem keyed_table {origin : Origin} {entries : Entries} :
    (Value.table origin entries).Keyed ↔ Keyed entries :=
  ⟨fun | .table hnodup hvalues => ⟨hnodup, hvalues⟩, fun h => .table h.nodup h.values⟩

theorem keyed_array {ofTables : Bool} {items : List Value} :
    (Value.array ofTables items).Keyed ↔ ∀ v ∈ items, v.Keyed :=
  ⟨fun | .array h => h, .array⟩

/-! ## Changing a table -/

namespace Draft

/-- An update adds no other key. -/
theorem mem_keys_update {key k : String} {f : Option Value → Except Flaw Value}
    {entries entries' : Entries} (h : update key f entries = .ok entries')
    (hk : k ∈ entries'.map Prod.fst) : k = key ∨ k ∈ entries.map Prod.fst := by
  induction entries generalizing entries' with
  | nil =>
    obtain ⟨v, -, hv⟩ := bind_eq_ok_iff.1 h
    cases hv
    exact .inl (by simpa using hk)
  | cons e rest ih =>
    rw [update] at h
    split at h
    · obtain ⟨v, -, hv⟩ := bind_eq_ok_iff.1 h
      cases hv
      exact (List.mem_cons.1 hk).imp_right (List.mem_cons_of_mem _)
    · obtain ⟨rest', hrest, hv⟩ := bind_eq_ok_iff.1 h
      cases hv
      rcases List.mem_cons.1 hk with rfl | hk
      · exact .inr List.mem_cons_self
      · exact (ih hrest hk).imp_right (List.mem_cons_of_mem _)

/-- An update by values whose tables have each key once. -/
theorem keyed_update {key : String} {f : Option Value → Except Flaw Value}
    (hf : ∀ former v, (∀ w, former = some w → w.Keyed) → f former = .ok v → v.Keyed)
    {entries entries' : Entries} (hentries : Keyed entries)
    (h : update key f entries = .ok entries') : Keyed entries' := by
  induction entries generalizing entries' with
  | nil =>
    obtain ⟨v, hv, he⟩ := bind_eq_ok_iff.1 h
    cases he
    exact ⟨by simp, by simpa using hf none v (by simp) hv⟩
  | cons e rest ih =>
    obtain ⟨hnodup, hvalues⟩ := hentries
    rw [List.map_cons, List.nodup_cons] at hnodup
    rw [List.forall_mem_cons] at hvalues
    rw [update] at h
    split at h
    case isTrue hkey =>
      obtain ⟨v, hv, he⟩ := bind_eq_ok_iff.1 h
      cases he
      refine ⟨List.nodup_cons.2 ⟨hkey ▸ hnodup.1, hnodup.2⟩, List.forall_mem_cons.2 ⟨?_, hvalues.2⟩⟩
      refine hf (some e.2) v ?_ hv
      rintro w ⟨⟩
      exact hvalues.1
    case isFalse hkey =>
      obtain ⟨rest', hrest, he⟩ := bind_eq_ok_iff.1 h
      cases he
      have ih := ih ⟨hnodup.2, hvalues.2⟩ hrest
      refine ⟨List.nodup_cons.2 ⟨fun hmem => ?_, ih.nodup⟩,
        List.forall_mem_cons.2 ⟨hvalues.1, ih.values⟩⟩
      exact (mem_keys_update hrest hmem).elim hkey hnodup.1

/-- A change of tables that keeps each key once. -/
def Careful (f : Draft → Except Flaw Draft) : Prop :=
  ∀ d d', Keyed d.entries → f d = .ok d' → Keyed d'.entries

variable {f : Draft → Except Flaw Draft}

theorem careful_update {key : String} {f : Option Value → Except Flaw Value}
    (hf : ∀ former v, (∀ w, former = some w → w.Keyed) → f former = .ok v → v.Keyed) :
    Careful fun d => do
      let entries ← update key f d.entries
      return { d with entries := entries } := by
  intro d d' hd h
  obtain ⟨entries, hentries, he⟩ := bind_eq_ok_iff.1 h
  cases he
  exact keyed_update hf hd hentries

/-- Changing the table that a path leads to. -/
theorem careful_changeAt (hf : Careful f) (dotted : Bool) (path : List KeyPart) :
    Careful (changeAt dotted f path) := by
  induction path with
  | nil => exact hf
  | cons part path ih =>
    cases part with
    | none => exact fun _ _ _ h => nomatch h
    | some key =>
      have hchange : ∀ d v, Keyed d.entries →
          (do return (← changeAt dotted f path d).value : Except Flaw Value) = .ok v → v.Keyed := by
        intro d v hd h
        obtain ⟨d', hd', he⟩ := bind_eq_ok_iff.1 h
        cases he
        exact keyed_table.2 (ih d d' hd hd')
      refine careful_update fun former v hformer h => ?_
      split at h
      · exact hchange _ v keyed_nil h
      · cases h
      · split at h
        · cases h
        · exact hchange _ v (keyed_table.1 (hformer _ rfl)) h
      · rename_i items
        have hitems : ∀ w ∈ items, w.Keyed := keyed_array.1 (hformer _ rfl)
        split at h
        · rename_i last
          obtain ⟨w, hw, he⟩ := bind_eq_ok_iff.1 h
          cases he
          have hlast := hitems _ (List.mem_of_getLast? last)
          have hw : w.Keyed := hchange _ w (keyed_table.1 hlast) hw
          refine keyed_array.2 fun u hu => ?_
          rcases List.mem_append.1 hu with hu | hu
          · exact hitems u (List.dropLast_subset _ hu)
          · rw [List.mem_singleton.1 hu]
            exact hw
        · cases h
      · cases h

theorem careful_addNew (key : String) {v : Value} (hv : v.Keyed) : Careful (addNew key v) := by
  refine careful_update fun former w _ h => ?_
  split at h
  · cases h
    exact hv
  · cases h

theorem careful_assign (path : List KeyPart) {v : Value} (hv : v.Keyed) :
    Careful (assign · path v) := by
  intro d d' hd h
  unfold assign at h
  split at h
  · rename_i key hlast
    refine careful_changeAt (fun t t' ht h => ?_) true path.dropLast d d' hd h
    split at h
    · cases h
    · exact careful_addNew key hv t t' ht h
  · cases h

end Draft

/-! ## Values -/

/-- Each table in the simple values of what is written has each key once. -/
inductive Written.Keyed : Written → Prop
  | simple {v : Value} : v.Keyed → Keyed (.simple v)
  | invalid : Keyed .invalid
  | array {items : List Written} : (∀ w ∈ items, Keyed w) → Keyed (.array items)
  | braces {assignments : List (List KeyPart × Written)} :
      (∀ a ∈ assignments, Keyed a.2) → Keyed (.braces assignments)

mutual

theorem keyed_valueOf {w : Written} {v : Value} (hw : w.Keyed) (h : valueOf w = .ok v) :
    v.Keyed := by
  cases w with
  | simple u =>
    cases h
    cases hw with
    | simple hu => exact hu
  | invalid => cases h
  | array items =>
    cases hw with
    | array hitems =>
      obtain ⟨vs, hvs, he⟩ := bind_eq_ok_iff.1 h
      cases he
      exact keyed_array.2 (keyed_valuesOf hitems hvs)
  | braces assignments =>
    cases hw with
    | braces hassignments =>
      obtain ⟨d, hd, he⟩ := bind_eq_ok_iff.1 h
      cases he
      exact keyed_table.2 (keyed_assignAll hassignments keyed_nil hd)

theorem keyed_valuesOf {ws : List Written} {vs : List Value} (hws : ∀ w ∈ ws, w.Keyed)
    (h : valuesOf ws = .ok vs) : ∀ v ∈ vs, v.Keyed := by
  cases ws with
  | nil =>
    cases h
    simp
  | cons w ws =>
    rw [List.forall_mem_cons] at hws
    obtain ⟨v, hv, h⟩ := bind_eq_ok_iff.1 h
    obtain ⟨vs', hvs, he⟩ := bind_eq_ok_iff.1 h
    cases he
    exact List.forall_mem_cons.2 ⟨keyed_valueOf hws.1 hv, keyed_valuesOf hws.2 hvs⟩

theorem keyed_assignAll {assignments : List (List KeyPart × Written)} {d d' : Draft}
    (has : ∀ a ∈ assignments, a.2.Keyed) (hd : Keyed d.entries)
    (h : assignAll d assignments = .ok d') : Keyed d'.entries := by
  cases assignments with
  | nil =>
    cases h
    exact hd
  | cons a rest =>
    rw [List.forall_mem_cons] at has
    obtain ⟨v, hv, h⟩ := bind_eq_ok_iff.1 h
    obtain ⟨d₁, hd₁, h⟩ := bind_eq_ok_iff.1 h
    exact keyed_assignAll has.2
      (Draft.careful_assign a.1 (keyed_valueOf has.1 hv) d d₁ hd hd₁) h

end

/-! ## Lines -/

/-- Each table in the simple values of a line has each key once. -/
def Line.Keyed : Line → Prop
  | .header .. => True
  | .assignment _ w => w.Keyed

/-- A value without quotes and brackets is no table. -/
theorem keyed_scalar {cs : List Char} {v : Value} (h : scalar? cs = some v) : v.Keyed := by
  unfold scalar? at h
  split at h
  · cases h
    exact .boolean true
  split at h
  · cases h
    exact .boolean false
  split at h
  · cases h
    exact .integer _
  split at h
  · cases h
    exact .float _
  split at h
  · cases h
    exact .moment
  · cases h

namespace Reader

variable {α β : Type} {P : α → Prop} {Q : β → Prop}

/-- What is read has a property, whatever the text is. -/
def Returns (P : α → Prop) (p : Reader α) : Prop := ∀ cs a rest, p cs = .ok (a, rest) → P a

theorem returns_fail : Returns P fail := fun _ _ _ h => nomatch h

theorem returns_pure {a : α} (h : P a) : Returns P (pure a) := by
  rintro cs _ rest ⟨⟩
  exact h

theorem Returns.bind {p : Reader α} {f : α → Reader β} (hp : Returns P p)
    (hf : ∀ a, P a → Returns Q (f a)) : Returns Q (p >>= f) := by
  intro cs b rest h
  obtain ⟨⟨a, after⟩, ha, h⟩ := bind_eq_ok_iff.1 h
  exact hf a (hp cs a after ha) after b rest h

/-- Of a sequence the last reader decides what is returned. -/
theorem returns_after {f : α → Reader β} (p : Reader α) (hf : ∀ a, Returns Q (f a)) :
    Returns Q (p >>= f) :=
  Returns.bind (P := fun _ => True) (fun _ _ _ _ => trivial) fun a _ => hf a

theorem Returns.ite {c : Prop} [Decidable c] {p q : Reader α} (hp : Returns P p)
    (hq : Returns P q) : Returns P (if c then p else q) := by
  split
  · exact hp
  · exact hq

theorem returns_bareValue : Returns Written.Keyed bareValue := by
  unfold bareValue
  refine returns_after _ fun cs =>
    .ite (returns_after _ fun _ => returns_after _ fun _ => ?_) (returns_after _ fun _ => ?_)
  all_goals
    split
    · rename_i hv
      exact returns_pure (.simple (keyed_scalar hv))
    · exact returns_pure .invalid

mutual

theorem returns_value (bound depth : Nat) : Returns Written.Keyed (value bound depth) := by
  cases bound with
  | zero => exact returns_fail
  | succ bound =>
    rw [value]
    refine returns_after _ fun cs => ?_
    split
    · exact returns_fail
    rename_i c rest
    refine .ite ?_ (.ite ?_ returns_bareValue)
    · refine returns_after _ fun _ => ?_
      split
      · exact returns_pure (.simple (.string _))
      · exact returns_pure .invalid
    · have hinside : Returns Written.Keyed (do
          set rest
          gap
          if c = '[' then return .array (← items bound (depth + 1))
          else return .braces (← assignments bound (depth + 1))) := by
        refine returns_after _ fun _ => returns_after _ fun _ => .ite ?_ ?_
        · exact (returns_items bound (depth + 1)).bind fun ws hws => returns_pure (.array hws)
        · exact (returns_assignments bound (depth + 1)).bind fun as has => returns_pure (.braces has)
      exact .ite (returns_after _ fun _ => hinside) hinside

theorem returns_items (bound depth : Nat) :
    Returns (fun ws => ∀ w ∈ ws, w.Keyed) (items bound depth) := by
  cases bound with
  | zero => exact returns_fail
  | succ bound =>
    rw [items]
    refine returns_after _ fun _ => .ite (returns_pure (by simp)) ?_
    refine (returns_value bound depth).bind fun w hw => ?_
    refine returns_after _ fun _ => returns_after _ fun _ => .ite (returns_pure (by simpa)) ?_
    refine returns_after _ fun _ => returns_after _ fun _ => ?_
    exact (returns_items bound depth).bind fun ws hws =>
      returns_pure (List.forall_mem_cons.2 ⟨hw, hws⟩)

theorem returns_assignments (bound depth : Nat) :
    Returns (fun as => ∀ a ∈ as, a.2.Keyed) (assignments bound depth) := by
  cases bound with
  | zero => exact returns_fail
  | succ bound =>
    rw [assignments]
    refine returns_after _ fun _ => .ite (returns_pure (by simp)) ?_
    refine returns_after _ fun _ => returns_after _ fun _ => returns_after _ fun _ => ?_
    refine (returns_value bound depth).bind fun w hw => ?_
    refine returns_after _ fun _ => returns_after _ fun _ => .ite (returns_pure (by simpa)) ?_
    refine returns_after _ fun _ => returns_after _ fun _ => ?_
    exact (returns_assignments bound depth).bind fun as has =>
      returns_pure (List.forall_mem_cons.2 ⟨hw, has⟩)

end

theorem returns_line : Returns (fun ls => ∀ l ∈ ls, l.Keyed) line := by
  have hheader : Returns Line.Keyed header := by
    unfold header
    refine returns_after _ fun _ => returns_after _ fun _ => returns_after _ fun _ => ?_
    exact .ite (returns_after _ fun _ => returns_pure trivial) (returns_pure trivial)
  have hassignment : Returns Line.Keyed assignment := by
    unfold assignment
    refine returns_after _ fun _ => returns_after _ fun _ => returns_after _ fun _ =>
      returns_after _ fun _ => ?_
    exact (returns_value _ 0).bind fun w hw => returns_pure hw
  have hempty : Returns (fun ls => ∀ l ∈ ls, l.Keyed) (do
      restOfLine
      return ([] : List Line)) := returns_after _ fun _ => returns_pure (by simp)
  unfold line
  refine returns_after _ fun _ => returns_after _ fun next => ?_
  split
  · exact hempty
  · exact hempty
  · exact hempty
  · exact hempty
  · exact returns_after _ fun _ => hheader.bind fun l hl =>
      returns_after _ fun _ => returns_pure (by simpa)
  · exact hassignment.bind fun l hl => returns_after _ fun _ => returns_pure (by simpa)

theorem returns_linesFrom (n : Nat) : Returns (fun ls => ∀ l ∈ ls, l.Keyed) (linesFrom n) := by
  induction n with
  | zero => exact returns_pure (by simp)
  | succ n ih =>
    rw [linesFrom]
    refine returns_after _ fun _ => .ite (returns_pure (by simp)) ?_
    exact returns_line.bind fun ls hls => ih.bind fun more hmore =>
      returns_pure fun l hl => (List.mem_append.1 hl).elim (hls l) (hmore l)

end Reader

theorem keyed_readLines {text : String} {lines : List Line} (h : readLines text = .ok lines) :
    ∀ l ∈ lines, l.Keyed := by
  unfold readLines at h
  obtain ⟨⟨ls, rest⟩, hls, he⟩ := bind_eq_ok_iff.1 ((map_eq_pure_bind _ _).symm.trans h)
  cases he
  exact Reader.returns_linesFrom _ _ ls rest hls

/-! ## Sections -/

namespace Progress

/-- What has been made so far has each key once. -/
structure Keyed (p : Progress) : Prop where
  root : Toml.Keyed p.root.entries
  current : Toml.Keyed p.current.entries

variable {p p' : Progress} {d d' : Draft}

theorem Keyed.finish (hp : p.Keyed) (h : p.finish = .ok d) : Toml.Keyed d.entries := by
  unfold Progress.finish at h
  split at h
  · cases h
    exact hp.current
  split at h
  · rename_i ofArray path _ key _
    refine Draft.careful_changeAt (Draft.careful_update fun former v hformer hv => ?_) false _
      p.root d hp.root h
    have hcurrent : p.current.value.Keyed := keyed_table.2 hp.current
    split at hv
    · cases hv
      exact keyed_array.2 (by simpa)
    · cases hv
      have hitems := keyed_array.1 (hformer _ rfl)
      refine keyed_array.2 fun w hw => ?_
      rcases List.mem_append.1 hw with hw | hw
      · exact hitems w hw
      · rw [List.mem_singleton.1 hw]
        exact hcurrent
    · cases hv
    · cases hv
      exact hcurrent
  · cases h

theorem keyed_find {key : String} {entries : Entries} {v : Value} (hentries : Toml.Keyed entries)
    (h : find key entries = some v) : v.Keyed := by
  obtain ⟨e, he, rfl⟩ := Option.map_eq_some_iff.1 h
  exact hentries.values e (List.mem_of_find?_eq_some he)

theorem keyed_opened {key : String} (hd : Toml.Keyed d.entries) (h : opened d key = .ok d') :
    Toml.Keyed d'.entries := by
  unfold opened at h
  split at h
  · cases h
    exact keyed_nil
  · rename_i hfind
    cases h
    exact keyed_table.1 (keyed_find hd hfind)
  · cases h

theorem keyed_tableAt {path : List KeyPart} (hd : Toml.Keyed d.entries)
    (h : tableAt path d = .ok d') : Toml.Keyed d'.entries := by
  fun_induction tableAt path d with
  | case1 d =>
    cases h
    exact hd
  | case2 => cases h
  | case3 _ _ _ _ ih => exact ih keyed_nil h
  | case4 => cases h
  | case5 _ _ d origin entries _ hfind ih => exact ih (keyed_table.1 (keyed_find hd hfind)) h
  | case6 _ _ d items hfind origin entries hlast ih =>
    have hitems := keyed_array.1 (keyed_find hd hfind)
    exact ih (keyed_table.1 (hitems _ (List.mem_of_getLast? hlast))) h
  | case7 => cases h
  | case8 => cases h

theorem Keyed.step {l : Line} (hp : p.Keyed) (hl : l.Keyed) (h : p.step l = .ok p') : p'.Keyed := by
  cases l with
  | header ofArray path =>
    obtain ⟨root, hroot, h⟩ := bind_eq_ok_iff.1 h
    have hroot : Toml.Keyed root.entries := hp.finish hroot
    split at h
    · split at h
      · cases h
        exact ⟨hroot, keyed_nil⟩
      · obtain ⟨parent, hparent, h⟩ := bind_eq_ok_iff.1 h
        obtain ⟨current, hcurrent, h⟩ := bind_eq_ok_iff.1 h
        cases h
        exact ⟨hroot, keyed_opened (keyed_tableAt hroot hparent) hcurrent⟩
    · cases h
  | assignment path w =>
    obtain ⟨v, hv, h⟩ := bind_eq_ok_iff.1 h
    obtain ⟨current, hcurrent, h⟩ := bind_eq_ok_iff.1 h
    cases h
    exact ⟨hp.root, Draft.careful_assign path (keyed_valueOf hl hv) _ current hp.current hcurrent⟩

end Progress

/-- **No table of a document has a key twice.** -/
theorem parse_keyed {text : String} {entries : Entries} (h : parse text = .ok entries) :
    Keyed entries := by
  obtain ⟨lines, hlines, h⟩ := bind_eq_ok_iff.1 h
  obtain ⟨p, hp, h⟩ := bind_eq_ok_iff.1 h
  obtain ⟨d, hd, h⟩ := bind_eq_ok_iff.1 h
  cases h
  have hkeyed : p.Keyed := by
    refine foldlM_kept (P := Progress.Keyed) (fun p l hl p' hp hstep => ?_) ?_ hp
    · exact hp.step (keyed_readLines hlines l hl) hstep
    · exact ⟨keyed_nil, keyed_nil⟩
  exact hkeyed.finish hd

end ConditionalGet.Toml
