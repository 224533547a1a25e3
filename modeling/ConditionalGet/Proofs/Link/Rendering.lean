import ConditionalGet.Proofs.Link.Grammar

/-!
# Links that are written and read back

A link may be written in several ways (`Spelling`): with blanks between the parts, with `rel` in any
case of its letters, and without double quotes if there is one relation type and no comma in it. A
link without the characters that mean something to the reader (`Plain`) is an entry of a header
value then (`Spelling.exists_entry`), so links that are written one after another are read back as
they were (`parse_write`).
-/

set_option autoImplicit false

namespace ConditionalGet

open Text

namespace Link

/-! ## Spellings -/

/-- A way to write a link. -/
structure Spelling where
  lead : Blanks
  afterTarget : Blanks
  afterSemicolon : Blanks
  name : String
  rel : sameLetters name "rel" = true
  afterName : Blanks
  afterEquals : Blanks
  /-- Whether the relation types stand in double quotes. -/
  quoted : Bool
  trail : Blanks

def Spelling.relations (s : Spelling) (link : Link) : String :=
  if s.quoted then "\"" ++ " ".intercalate link.relations ++ "\""
  else " ".intercalate link.relations

/-- The link, written so. -/
def Spelling.write (s : Spelling) (link : Link) : String :=
  s.lead.text ++ "<" ++ link.target ++ ">" ++ s.afterTarget.text ++ ";" ++ s.afterSemicolon.text ++
    s.name ++ s.afterName.text ++ "=" ++ s.afterEquals.text ++ s.relations link ++ s.trail.text

/-- A spelling that a link can have: only a single relation type can do without double quotes. -/
def Spelling.Suits (s : Spelling) (link : Link) : Prop :=
  s.quoted = true ∨ ∃ r, link.relations = [r] ∧ ',' ∉ r.toList

/-- A relation type that can be written. -/
structure IsRelationType (r : String) : Prop where
  ne_empty : r ≠ ""
  no_blank : ∀ c ∈ r.toList, isBlank c = false
  no_capital : ∀ c ∈ r.toList, c.isUpper = false
  no_quote : '"' ∉ r.toList
  no_semicolon : ';' ∉ r.toList

/-- A link that can be written. -/
structure Plain (link : Link) : Prop where
  open_target : '>' ∉ link.target.toList
  trimmed : trim link.target = link.target
  relations : ∀ r ∈ link.relations, IsRelationType r

-- Looks at the characters of the text, not at each character there is whether it is in the text.
instance : DecidablePred IsRelationType := fun r =>
  decidable_of_iff (r ≠ "" ∧ (r.toList.all fun c => !isBlank c) = true ∧
      (r.toList.all fun c => !c.isUpper) = true ∧ '"' ∉ r.toList ∧ ';' ∉ r.toList)
    ⟨fun ⟨ne, blank, capital, quote, semicolon⟩ =>
        ⟨ne, by simpa using blank, by simpa using capital, quote, semicolon⟩,
      fun h => ⟨h.ne_empty, by simpa using h.no_blank, by simpa using h.no_capital, h.no_quote,
        h.no_semicolon⟩⟩

instance : DecidablePred Plain := fun link =>
  decidable_of_iff ('>' ∉ link.target.toList ∧ trim link.target = link.target ∧
      ∀ r ∈ link.relations, IsRelationType r)
    ⟨fun ⟨target, trimmed, relations⟩ => ⟨target, trimmed, relations⟩,
      fun ⟨target, trimmed, relations⟩ => ⟨target, trimmed, relations⟩⟩

/-! ## Written links are entries -/

section
variable {link : Link} {s : Spelling}

theorem IsRelationType.not_mem {r : String} (h : IsRelationType r) {c : Char}
    (hc : c = '"' ∨ c = ';') : c ∉ r.toList := by
  rcases hc with rfl | rfl
  · exact h.no_quote
  · exact h.no_semicolon

/-- What is in the relation types is in one of them or a blank between them. -/
theorem Plain.not_mem_relations (h : Plain link) {c : Char} (hc : c = '"' ∨ c = ';') :
    c ∉ (" ".intercalate link.relations).toList := by
  have hspace : c ∉ " ".toList := by rcases hc with rfl | rfl <;> decide
  rw [String.toList_intercalate]
  refine not_mem_intercalate hspace fun w hw => ?_
  obtain ⟨r, hr, rfl⟩ := List.mem_map.1 hw
  exact (h.relations r hr).not_mem hc

/-- The relation types of a link are the words of their text. -/
theorem Plain.words_relations (h : Plain link) :
    ((words (" ".intercalate link.relations).toList).map fun w => lower (String.ofList w)) =
      link.relations := by
  have hwords : words (" ".intercalate link.relations).toList =
      link.relations.map String.toList := by
    rw [String.toList_intercalate]
    refine words_intercalate fun w hw => ?_
    obtain ⟨r, hr, rfl⟩ := List.mem_map.1 hw
    exact ⟨fun he => (h.relations r hr).ne_empty (String.toList_eq_nil_iff.1 he),
      (h.relations r hr).no_blank⟩
  have hsmall : ∀ r ∈ link.relations, lower (String.ofList r.toList) = r := by
    intro r hr
    rw [String.ofList_toList, lower_eq_self (h.relations r hr).no_capital]
  rw [hwords, List.map_map]
  exact (List.map_congr_left hsmall).trans (List.map_id' _)

/-- The setting of a spelling's parameter. -/
theorem Spelling.exists_setting (hlink : Plain link) (hsuits : s.Suits link) :
    ∃ setting : Setting, setting.text = " ".intercalate link.relations ∧
      setting.written = s.relations link := by
  unfold Spelling.relations
  cases hquoted : s.quoted with
  | true => exact ⟨.quoted _ (hlink.not_mem_relations (.inl rfl)), rfl, rfl⟩
  | false =>
    obtain hs | ⟨r, hr, hcomma⟩ := hsuits
    · rw [hs] at hquoted
      cases hquoted
    · have hrel : IsRelationType r := hlink.relations r (by simp [hr])
      have hbare : isBare r = true := isBare_iff.2 fun c hc =>
        ⟨hrel.no_blank c hc, fun he => hcomma (he ▸ hc), fun he => hrel.no_semicolon (he ▸ hc),
          fun he => hrel.no_quote (he ▸ hc)⟩
      rw [hr]
      exact ⟨.bare r hbare, rfl, rfl⟩

/-- The letters of `rel`, small or capital, mean nothing else to the reader. -/
theorem Spelling.bare_name (s : Spelling) : isBare s.name = true ∧ '=' ∉ s.name.toList := by
  have hsmall : ∀ c ∈ "rel".toList, isBlank c = false ∧ c ≠ ',' ∧ c ≠ ';' ∧ c ≠ '"' ∧ c ≠ '=' := by
    intro c hc
    obtain rfl | rfl | rfl : c = 'r' ∨ c = 'e' ∨ c = 'l' := by simpa using hc
    all_goals decide
  have hcapital : ∀ c : Char, c.isUpper = true →
      isBlank c = false ∧ c ≠ ',' ∧ c ≠ ';' ∧ c ≠ '"' ∧ c ≠ '=' := by
    intro c hc
    have hother : ∀ d : Char, d.isUpper = false → c ≠ d := by
      rintro d hd rfl
      rw [hc] at hd
      cases hd
    have hblank : isBlank c = false := by
      refine Bool.eq_false_iff.2 fun hblank => ?_
      rw [isUpper_of_isBlank hblank] at hc
      cases hc
    exact ⟨hblank, hother _ (by decide), hother _ (by decide), hother _ (by decide),
      hother _ (by decide)⟩
  have hletters := fun c (hc : c ∈ s.name.toList) =>
    (mem_of_lower ((sameLetters_iff.1 s.rel).trans (by decide)) hc).elim (hsmall c) (hcapital c)
  refine ⟨isBare_iff.2 fun c hc => ?_, fun hc => (hletters _ hc).2.2.2.2 rfl⟩
  obtain ⟨hblank, hcomma, hsemicolon, hquote, -⟩ := hletters c hc
  exact ⟨hblank, hcomma, hsemicolon, hquote⟩

/-- A written link is an entry that stands for the link. -/
theorem Spelling.exists_entry (hlink : Plain link) (hsuits : s.Suits link) :
    ∃ e : Entry, e.text = s.write link ∧ e.link = link := by
  obtain ⟨setting, htext, hwritten⟩ := s.exists_setting hlink hsuits
  let p : Parameter := ⟨s.afterSemicolon, s.name, s.bare_name.1, s.bare_name.2, s.afterName,
    s.afterEquals, setting, s.trail⟩
  have hrelations : p.relations = link.relations := by
    have hsemicolon : ';' ∉ p.setting.text.toList := by
      show ';' ∉ setting.text.toList
      rw [htext]
      exact hlink.not_mem_relations (.inr rfl)
    rw [Parameter.relations_eq hsemicolon, if_pos s.rel]
    show List.map _ (words setting.text.toList) = _
    rw [htext, hlink.words_relations]
  refine ⟨⟨s.lead, link.target, hlink.open_target, s.afterTarget, [p]⟩, ?_, ?_⟩
  · simp [Entry.text, Parameter.text, Spelling.write, p, hwritten, String.append_assoc]
  · rw [Entry.link, List.flatMap_singleton, hrelations, hlink.trimmed]

end

/-- Links that are written are entries of a header value. -/
theorem exists_entries {written : List (Spelling × Link)}
    (h : ∀ w ∈ written, Plain w.2 ∧ w.1.Suits w.2) :
    ∃ entries : List Entry, entries.map Entry.text = (written.map fun w => w.1.write w.2) ∧
      entries.map Entry.link = written.map Prod.snd := by
  induction written with
  | nil => exact ⟨[], rfl, rfl⟩
  | cons w written ih =>
    obtain ⟨⟨hplain, hsuits⟩, hrest⟩ := List.forall_mem_cons.1 h
    obtain ⟨entries, htexts, hlinks⟩ := ih hrest
    obtain ⟨e, htext, hlink⟩ := w.1.exists_entry hplain hsuits
    exact ⟨e :: entries, by simp [htexts, htext], by simp [hlinks, hlink]⟩

/-- **Writing links and reading them back.** Links that are written one after another, each in a
way it can be written, with commas between them, are read as the same links in the same order. -/
theorem parse_write {written : List (Spelling × Link)}
    (h : ∀ w ∈ written, Plain w.2 ∧ w.1.Suits w.2) :
    parse (",".intercalate (written.map fun w => w.1.write w.2)) = written.map Prod.snd := by
  obtain ⟨entries, htexts, hlinks⟩ := exists_entries h
  rw [← htexts, ← hlinks]
  exact parse_text entries

/-! ### Links in unlike spellings -/

namespace Unlike

def tabs : Blanks := ⟨"\t \t", by simp; decide⟩

/-- Without blanks, and without double quotes. -/
def terse : Spelling := ⟨.nil, .nil, .nil, "rel", by decide, .nil, .nil, false, .nil⟩

/-- With blanks wherever they may stand. -/
def wide : Spelling :=
  ⟨.space, tabs, .space, "ReL", by decide +kernel, tabs, .space, true, tabs⟩

/-- Targets and relation types with characters in them that divide others, and links without a
target or without a relation type. -/
def links : List Link := [⟨"a;rel=\"b\",<c", ["x,y", "next=1"]⟩, ⟨"", ["next"]⟩, ⟨"p?q=<,", []⟩]

def written : List (Spelling × Link) := [wide, terse, wide].zip links

theorem plain_links : ∀ link ∈ links, Plain link := by decide +kernel

theorem parse_write_unlike :
    (∀ w ∈ written, Plain w.2 ∧ w.1.Suits w.2) ∧
      parse (" <a;rel=\"b\",<c>\t \t; ReL\t \t= \"x,y next=1\"\t \t,<>;rel=next," ++
        " <p?q=<,>\t \t; ReL\t \t= \"\"\t \t") = links := by
  have hwritten : ∀ w ∈ written, Plain w.2 ∧ w.1.Suits w.2 := by
    rintro w (_ | ⟨_, _ | ⟨_, _ | ⟨_, ⟨⟩⟩⟩⟩)
    · exact ⟨plain_links _ (by simp [links]), .inl rfl⟩
    · exact ⟨plain_links _ (by simp [links]), .inr ⟨"next", rfl, by decide⟩⟩
    · exact ⟨plain_links _ (by simp [links]), .inl rfl⟩
  have htext : ",".intercalate (written.map fun w => w.1.write w.2) =
      " <a;rel=\"b\",<c>\t \t; ReL\t \t= \"x,y next=1\"\t \t,<>;rel=next," ++
        " <p?q=<,>\t \t; ReL\t \t= \"\"\t \t" := by
    decide +kernel
  rw [← htext]
  exact ⟨hwritten, parse_write hwritten⟩

end Unlike

end Link

end ConditionalGet
