import ConditionalGet.Proofs.Link.Grammar

/-!
# A parameter more

A parameter that is not called `rel` gives relation types all the same if a semicolon in its text is
followed by what reads as one that is (`Parameter.relations_of_other`): the end of a parameter is
looked for without regard to double quotes. So a parameter can be added to a link without changing
what is read exactly if no part of its text behind a semicolon gives a relation type
(`parse_insert_iff`).
-/

set_option autoImplicit false

namespace ConditionalGet

open Text

namespace Link

/-- The relation types that a text gives behind its semicolons. -/
def stray (text : List Char) : List String := (pieces (· = ';') text).tail.flatMap relationsOf

theorem stray_eq_nil {text : List Char} (h : ';' ∉ text) : stray text = [] := by
  rw [stray, pieces_eq_singleton (eq_false_of_not_mem h)]
  rfl

theorem stray_append_cons {a : List Char} (h : ';' ∉ a) (b : List Char) :
    stray (a ++ ';' :: b) = relationsIn b := by
  rw [stray, pieces_append_cons (by decide), pieces_eq_singleton (eq_false_of_not_mem h)]
  rfl

/-! ## The end of a quoted text -/

section
variable {a trail : List Char}

/-- The double quote behind the last relation type goes. -/
theorem readRelations_append_quote (ha : '"' ∉ a) (htrail : ∀ c ∈ trail, isBlank c = true) :
    readRelations (a ++ '"' :: trail) = readRelations a := by
  have hquotes : ∀ b : List Char, '"' ∉ b → trimWhere (· = '"') b = b :=
    fun b hb => trimWhere_eq_self (eq_false_of_not_mem hb)
  have hdrop : '"' ∉ a.dropWhile isBlank :=
    fun hc => ha ((List.dropWhile_sublist isBlank).mem hc)
  have htrim : '"' ∉ trimChars a := by
    obtain ⟨b, b', hab, -⟩ := exists_trimChars a
    intro hc
    rw [hab] at ha
    exact ha (List.mem_append_left _ (List.mem_append_right _ hc))
  have hends : trimChars (a ++ '"' :: trail) = a.dropWhile isBlank ++ ['"'] := by
    rw [List.append_cons, trimChars, trimWhere_append_right htrail, trimWhere_concat (by decide)]
  rw [readRelations, hends, trimWhere_append_right (by simp), hquotes _ hdrop, words_dropWhile,
    readRelations, hquotes _ htrim, words_trimChars]

theorem relationsOf_append_quote (ha : '"' ∉ a) (htrail : ∀ c ∈ trail, isBlank c = true) :
    relationsOf (a ++ '"' :: trail) = relationsOf a := by
  by_cases hequals : '=' ∈ a
  · obtain ⟨front, value, rfl, hfront⟩ := List.eq_append_cons_of_mem hequals
    have hvalue : '"' ∉ value := fun hc => ha (by simp [hc])
    rw [List.append_assoc, List.cons_append, relationsOf_append_cons hfront,
      relationsOf_append_cons hfront, readRelations_append_quote hvalue htrail]
  · have hend : '=' ∉ a ++ '"' :: trail := by
      simp only [List.mem_append, List.mem_cons, not_or]
      exact ⟨hequals, by decide, fun hc => absurd (htrail _ hc) (by decide)⟩
    rw [relationsOf_eq_nil hend, relationsOf_eq_nil hequals]

end

/-- Where a quoted text ends does not matter for what its parts give. -/
theorem relationsIn_append_quote {a trail : List Char} (ha : '"' ∉ a)
    (htrail : ∀ c ∈ trail, isBlank c = true) :
    relationsIn (a ++ '"' :: trail) = relationsIn a := by
  -- part after part, each of which ends at the first semicolon
  induction hlength : a.length using Nat.strongRecOn generalizing a with
  | ind n ih =>
    by_cases hsemicolon : ';' ∈ a
    · obtain ⟨front, rest, rfl, -⟩ := List.eq_append_cons_of_mem hsemicolon
      have hrest : '"' ∉ rest := fun hc => ha (by simp [hc])
      have hshorter : rest.length < n := by
        rw [← hlength, List.length_append, List.length_cons]
        omega
      rw [List.append_assoc, List.cons_append, relationsIn_append_cons, relationsIn_append_cons,
        ih rest.length hshorter hrest rfl]
    · have hend : ';' ∉ a ++ '"' :: trail := by
        simp only [List.mem_append, List.mem_cons, not_or]
        exact ⟨hsemicolon, by decide, fun hc => absurd (htrail _ hc) (by decide)⟩
      rw [relationsIn_eq hend, relationsIn_eq hsemicolon, relationsOf_append_quote ha htrail]

/-! ## Parameters that are not called `rel` -/

/-- A parameter that is not called `rel` gives what its text gives behind semicolons. -/
theorem Parameter.relations_of_other {p : Parameter} (h : sameLetters p.name "rel" = false) :
    p.relations = stray p.setting.text.toList := by
  by_cases hsemicolon : ';' ∈ p.setting.text.toList
  · cases hs : p.setting with
    | bare text valid =>
      rw [hs] at hsemicolon
      exact absurd rfl (isBare_iff.1 valid _ hsemicolon).2.2.1
    | quoted text valid =>
      rw [hs] at hsemicolon
      obtain ⟨first, rest, htext, hfirst⟩ := List.eq_append_cons_of_mem hsemicolon
      have htext : text.toList = first ++ ';' :: rest := htext
      have hrest : '"' ∉ rest := fun hc => valid (by simp [htext, hc])
      have hsplit : p.text.toList = p.front ++ '=' :: (p.beforeSetting.text.toList ++
          '"' :: first) ++ ';' :: (rest ++ '"' :: p.trail.text.toList) := by
        rw [p.toList_text, hs, Setting.toList_quoted, htext]
        simp
      have hwhole : ';' ∉ p.front ++ '=' :: (p.beforeSetting.text.toList ++ '"' :: first) := by
        simp only [List.mem_append, List.mem_cons, not_or]
        exact ⟨p.semicolon_not_mem_front, by decide, p.beforeSetting.not_mem (by decide),
          by decide, hfirst⟩
      show relationsIn p.text.toList = stray text.toList
      rw [hsplit, htext, relationsIn_append_cons, relationsIn_eq hwhole, p.relationsOf_front, h,
        relationsIn_append_quote hrest p.trail.blank, stray_append_cons hfirst]
      rfl
  · rw [relations_eq hsemicolon, h, stray_eq_nil hsemicolon]
    rfl

/-! ## A parameter more in a link -/

/-- The entry with these parameters. -/
def Entry.with (e : Entry) (parameters : List Parameter) : Entry := { e with parameters }

/-- What is read of a header value, of which one link has a parameter more. -/
theorem parse_insert {before after : List Entry} {e : Entry} {ps qs : List Parameter}
    {p : Parameter} (h : sameLetters p.name "rel" = false) :
    parse (text (before ++ e.with (ps ++ p :: qs) :: after)) =
      before.map Entry.link ++ ⟨trim e.target, ps.flatMap Parameter.relations ++
        (stray p.setting.text.toList ++ qs.flatMap Parameter.relations)⟩ ::
          after.map Entry.link := by
  rw [parse_text, List.map_append, List.map_cons]
  simp [Entry.link, Entry.with, Parameter.relations_of_other h]

/-- **A parameter that is not called `rel` changes nothing** exactly if no part of its text behind a
semicolon gives a relation type: then the same links are read with it and without it, and a
resource with the header has the same next page. -/
theorem parse_insert_iff {before after : List Entry} {e : Entry} {ps qs : List Parameter}
    {p : Parameter} (h : sameLetters p.name "rel" = false) :
    (parse (text (before ++ e.with (ps ++ p :: qs) :: after)) =
        parse (text (before ++ e.with (ps ++ qs) :: after)) ↔
      stray p.setting.text.toList = []) ∧
    (stray p.setting.text.toList = [] → ∀ (r r' : Resource) (values values' : List String),
      r.headerValues "link" =
        values ++ text (before ++ e.with (ps ++ qs) :: after) :: values' →
      r'.headerValues "link" =
        values ++ text (before ++ e.with (ps ++ p :: qs) :: after) :: values' →
      r'.nextLink? = r.nextLink?) := by
  have hiff : parse (text (before ++ e.with (ps ++ p :: qs) :: after)) =
      parse (text (before ++ e.with (ps ++ qs) :: after)) ↔
        stray p.setting.text.toList = [] := by
    rw [parse_insert h, parse_text, List.map_append, List.map_cons]
    simp [Entry.link, Entry.with]
  refine ⟨hiff, fun hstray r r' values values' hr hr' => ?_⟩
  have hlinks : (r'.headerValues "link").flatMap parse = (r.headerValues "link").flatMap parse := by
    rw [hr, hr', List.flatMap_append, List.flatMap_cons, hiff.2 hstray, List.flatMap_append,
      List.flatMap_cons]
  rw [Resource.nextLink?, Resource.nextLink?, hlinks]

/-! ### Titles -/

namespace Titled

def last : Parameter :=
  ⟨.nil, "rel", by decide, by decide, .nil, .nil, .quoted "last" (by decide), .nil⟩

def titled (title : String) (valid : '"' ∉ title.toList) : Parameter :=
  ⟨.space, "title", by decide, by decide, .nil, .nil, .quoted title valid, .nil⟩

/-- The link to the last page of a collection. -/
def entry : Entry := ⟨.nil, "/items?page=9", by decide, .nil, [last]⟩

def page (value : String) : Resource := ⟨200, "[]", Headers.ofPairs [("Link", value)]⟩

/-- A title with every character that divides others. -/
def harmless : Parameter := titled "a, b; c=<d>; rel" (by decide)

/-- A title that reads as a relation type behind its semicolon. -/
def misleading : Parameter := titled "a; rel=next" (by decide)

theorem parse_insert_iff_harmless :
    sameLetters harmless.name "rel" = false ∧ stray harmless.setting.text.toList = [] ∧
      parse (text [entry.with [harmless, last]]) = parse (text [entry]) ∧
      (page (text [entry.with [harmless, last]])).nextLink? = (page (text [entry])).nextLink? := by
  have hname : sameLetters harmless.name "rel" = false := by decide +kernel
  have hstray : stray harmless.setting.text.toList = [] := by decide +kernel
  obtain ⟨hiff, hnext⟩ :=
    @parse_insert_iff [] [] entry [] [last] harmless hname
  refine ⟨hname, hstray, hiff.2 hstray, hnext hstray _ _ [] [] ?_ ?_⟩
  · decide +kernel
  · decide +kernel

/-- With the misleading title, the link to the last page is one to the next page, too. -/
theorem title_misleads :
    sameLetters misleading.name "rel" = false ∧
      text [entry] = "</items?page=9>;rel=\"last\"" ∧
      text [entry.with [misleading, last]] =
        "</items?page=9>; title=\"a; rel=next\";rel=\"last\"" ∧
      parse (text [entry.with [misleading, last]]) ≠ parse (text [entry]) ∧
      (page (text [entry])).nextLink? = none ∧
      (page (text [entry.with [misleading, last]])).nextLink? = some "/items?page=9" := by
  decide +kernel

end Titled

end Link

end ConditionalGet
