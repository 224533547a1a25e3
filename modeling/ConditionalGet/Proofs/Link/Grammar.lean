import ConditionalGet.Proofs.Link.Joining
import ConditionalGet.Proofs.Text.Words
import Mathlib.Data.List.Basic

/-!
# Well-formed header values

An `Entry` is a link as it stands in a header value: a target between brackets and parameters, each
a name and a setting, with blanks between the parts. A comma or a semicolon in a quoted setting is
not meant to end anything. Reading on along an entry (`Within`) shows that a comma does not, so a
header value is read as its entries (`parse_text`); the relation types of an entry are those that
its parameters give one by one.
-/

set_option autoImplicit false

namespace ConditionalGet

open Text

namespace Link

/-! ## Texts of a header value -/

/-- Blanks between the parts of a header value. -/
structure Blanks where
  text : String
  blank : ∀ c ∈ text.toList, isBlank c = true

namespace Blanks

def nil : Blanks := ⟨"", by simp⟩

def space : Blanks := ⟨" ", by simp; decide⟩

end Blanks

/-- Whether a text can stand in a header value as it is. -/
def isBare (text : String) : Bool :=
  text.toList.all fun c => !isBlank c && c ≠ ',' && c ≠ ';' && c ≠ '"'

/-- What a parameter is set to. -/
inductive Setting where
  | bare (text : String) (valid : isBare text = true)
  | quoted (text : String) (valid : '"' ∉ text.toList)

namespace Setting

/-- What is meant. -/
def text : Setting → String
  | .bare text _ => text
  | .quoted text _ => text

def written : Setting → String
  | .bare text _ => text
  | .quoted text _ => "\"" ++ text ++ "\""

end Setting

/-- One parameter of a link. -/
structure Parameter where
  lead : Blanks
  name : String
  bare : isBare name = true
  unequal : '=' ∉ name.toList
  afterName : Blanks
  beforeSetting : Blanks
  setting : Setting
  trail : Blanks

def Parameter.text (p : Parameter) : String :=
  p.lead.text ++ p.name ++ p.afterName.text ++ "=" ++ p.beforeSetting.text ++ p.setting.written ++
    p.trail.text

/-- A link as it stands in a header value. -/
structure Entry where
  lead : Blanks
  target : String
  open_target : '>' ∉ target.toList
  trail : Blanks
  parameters : List Parameter

def Entry.text (e : Entry) : String :=
  e.lead.text ++ "<" ++ e.target ++ ">" ++ e.trail.text ++
    String.join (e.parameters.map fun p => ";" ++ p.text)

/-- A header value. -/
def text (entries : List Entry) : String := ",".intercalate (entries.map Entry.text)

/-! ## Reading along an entry -/

/-- Reading on among the parameters of a link, inside double quotes or not, and coming to no comma
that ends the link. -/
inductive Within : Bool → List Char → Bool → Prop
  | nil (quoted : Bool) : Within quoted [] quoted
  | quote {quoted quoted' : Bool} {cs : List Char} : Within (!quoted) cs quoted' →
      Within quoted ('"' :: cs) quoted'
  | other {quoted quoted' : Bool} {c : Char} {cs : List Char} : c ≠ '"' →
      (c = ',' → quoted = true) → Within quoted cs quoted' → Within quoted (c :: cs) quoted'

section
variable {quoted quoted' quoted'' : Bool} {a b : List Char}

theorem Within.append (h : Within quoted a quoted') (h' : Within quoted' b quoted'') :
    Within quoted (a ++ b) quoted'' := by
  induction h with
  | nil => exact h'
  | quote _ ih => exact .quote (ih h')
  | other hc hcomma _ ih => exact .other hc hcomma (ih h')

theorem within_of_forall (h : ∀ c ∈ a, c ≠ '"' ∧ (c = ',' → quoted = true)) :
    Within quoted a quoted := by
  induction a with
  | nil => exact .nil quoted
  | cons c a ih =>
    obtain ⟨⟨hc, hcomma⟩, ha⟩ := List.forall_mem_cons.1 h
    exact .other hc hcomma (ih ha)

/-- What stands in double quotes may have commas. -/
theorem within_quoted (h : '"' ∉ a) : Within false ('"' :: (a ++ ['"'])) false := by
  have hinside : Within true a true :=
    within_of_forall fun c hc => ⟨fun he => h (he ▸ hc), fun _ => rfl⟩
  exact .quote (hinside.append (.quote (.nil false)))

theorem Within.read (h : Within quoted a quoted') (target parameters : List Char) :
    scan (.inParameters target parameters quoted) a = [] ∧
      Place.after (.inParameters target parameters quoted) a =
        .inParameters target (a.reverse ++ parameters) quoted' := by
  -- along the text; what has been read of the parameters grows
  induction h generalizing parameters with
  | nil => exact ⟨rfl, rfl⟩
  | @quote quoted quoted' cs _ ih =>
    have hstep : (Place.inParameters target parameters quoted).step '"' =
        (.inParameters target ('"' :: parameters) (!quoted), none) := by
      simp [Place.step]
    obtain ⟨hscan, hafter⟩ := ih ('"' :: parameters)
    rw [scan_cons, after_cons, hstep, hscan, hafter]
    simp
  | @other quoted quoted' c cs hc hcomma _ ih =>
    have hstep : (Place.inParameters target parameters quoted).step c =
        (.inParameters target (c :: parameters) quoted, none) := by
      have hends : ¬((c = ',' && !quoted) = true) := by simpa using hcomma
      have hsame : (c == '"') = false := beq_eq_false_iff_ne.2 hc
      rw [Place.step, if_neg hends, hsame, Bool.bne_false]
    obtain ⟨hscan, hafter⟩ := ih (c :: parameters)
    rw [scan_cons, after_cons, hstep, hscan, hafter]
    simp

end

theorem read_outside {a : List Char} (h : '<' ∉ a) :
    scan .outside a = [] ∧ Place.after .outside a = .outside := by
  induction a with
  | nil => exact ⟨rfl, rfl⟩
  | cons c a ih =>
    obtain ⟨hc, ha⟩ := List.ne_and_not_mem_of_not_mem_cons h
    have hstep : Place.outside.step c = (.outside, none) := by simp [Place.step, hc.symm]
    rw [scan_cons, after_cons, hstep]
    exact ih ha

theorem read_target {a : List Char} (h : '>' ∉ a) (target : List Char) :
    scan (.inTarget target) a = [] ∧
      Place.after (.inTarget target) a = .inTarget (a.reverse ++ target) := by
  induction a generalizing target with
  | nil => exact ⟨rfl, rfl⟩
  | cons c a ih =>
    obtain ⟨hc, ha⟩ := List.ne_and_not_mem_of_not_mem_cons h
    have hstep : (Place.inTarget target).step c = (.inTarget (c :: target), none) := by
      simp [Place.step, hc.symm]
    obtain ⟨hscan, hafter⟩ := ih ha (c :: target)
    rw [scan_cons, after_cons, hstep, hscan, hafter]
    simp

/-- A text with one link in it is closed and read as this link. -/
theorem read_link {lead target parameters : List Char} (hlead : '<' ∉ lead)
    (htarget : '>' ∉ target) (hparameters : Within false parameters false) :
    Closed (lead ++ '<' :: (target ++ '>' :: parameters)) ∧
      parseChars (lead ++ '<' :: (target ++ '>' :: parameters)) = [ofParts target parameters] := by
  obtain ⟨hscan, hafter⟩ := read_outside hlead
  obtain ⟨hscan', hafter'⟩ := read_target htarget []
  obtain ⟨hscan'', hafter''⟩ := hparameters.read target.reverse []
  rw [List.append_nil] at hafter' hafter''
  have hplace : Place.after .outside (lead ++ '<' :: (target ++ '>' :: parameters)) =
      .inParameters target.reverse parameters.reverse false := by
    rw [Place.after_append, hafter]
    show Place.after (.inTarget []) (target ++ '>' :: parameters) = _
    rw [Place.after_append, hafter']
    exact hafter''
  have hlinks : scan .outside (lead ++ '<' :: (target ++ '>' :: parameters)) = [] := by
    rw [scan_append, hafter, hscan]
    show scan (.inTarget []) (target ++ '>' :: parameters) = _
    rw [scan_append, hafter', hscan']
    exact hscan''
  constructor
  · unfold Closed
    rw [hplace]
  · rw [parseChars, hplace, hlinks]
    simp [Place.finish]

/-! ## Parameters -/

theorem Blanks.not_mem (b : Blanks) {c : Char} (h : isBlank c = false) : c ∉ b.text.toList := by
  intro hc
  rw [b.blank c hc] at h
  cases h

theorem isBare_iff {text : String} : isBare text = true ↔
    ∀ c ∈ text.toList, isBlank c = false ∧ c ≠ ',' ∧ c ≠ ';' ∧ c ≠ '"' := by
  simp [isBare, and_assoc]

theorem Setting.toList_quoted {text : String} (valid : '"' ∉ text.toList) :
    (quoted text valid).written.toList = '"' :: text.toList ++ ['"'] := by
  simp [written]

theorem Setting.within_written (s : Setting) : Within false s.written.toList false := by
  cases s with
  | bare text valid =>
    refine within_of_forall fun c hc => ?_
    obtain ⟨-, hcomma, -, hquote⟩ := isBare_iff.1 valid c hc
    exact ⟨hquote, fun he => absurd he hcomma⟩
  | quoted text valid =>
    rw [toList_quoted]
    exact within_quoted valid

theorem Blanks.within (b : Blanks) : Within false b.text.toList false :=
  within_of_forall fun c hc =>
    ⟨fun he => b.not_mem (c := '"') (by decide) (he ▸ hc),
      fun he => absurd (he ▸ hc) (b.not_mem (c := ',') (by decide))⟩

/-- What stands before the equals sign. -/
def Parameter.front (p : Parameter) : List Char :=
  p.lead.text.toList ++ p.name.toList ++ p.afterName.text.toList

theorem Parameter.toList_text (p : Parameter) : p.text.toList = p.front ++ '=' ::
    (p.beforeSetting.text.toList ++ p.setting.written.toList ++ p.trail.text.toList) := by
  simp [Parameter.text, Parameter.front]

theorem Parameter.within_text (p : Parameter) : Within false p.text.toList false := by
  have hname : Within false p.name.toList false := by
    refine within_of_forall fun c hc => ?_
    obtain ⟨-, hcomma, -, hquote⟩ := isBare_iff.1 p.bare c hc
    exact ⟨hquote, fun he => absurd he hcomma⟩
  rw [p.toList_text]
  refine ((p.lead.within.append hname).append p.afterName.within).append ?_
  refine .other (by decide) (by decide) ?_
  exact (p.beforeSetting.within.append p.setting.within_written).append p.trail.within

/-- The relation types that a parameter gives. -/
def Parameter.relations (p : Parameter) : List String := relationsIn p.text.toList

/-- Parameters behind a semicolon are read by themselves. -/
theorem relationsIn_append_cons (a b : List Char) :
    relationsIn (a ++ ';' :: b) = relationsIn a ++ relationsIn b := by
  rw [relationsIn, pieces_append_cons (by decide), List.flatMap_append, relationsIn, relationsIn]

theorem relationsIn_eq {a : List Char} (h : ';' ∉ a) : relationsIn a = relationsOf a := by
  rw [relationsIn, pieces_eq_singleton (eq_false_of_not_mem h), List.flatMap_singleton]

theorem relationsOf_eq_nil {a : List Char} (h : '=' ∉ a) : relationsOf a = [] := by
  rw [relationsOf, cut?_eq_none (eq_false_of_not_mem h)]

theorem relationsIn_blanks (b : Blanks) : relationsIn b.text.toList = [] := by
  rw [relationsIn_eq (b.not_mem (by decide))]
  exact relationsOf_eq_nil (b.not_mem (by decide))

/-- The relation types of what a parameter is set to, as it is written. -/
def readRelations (value : List Char) : List String :=
  (words (trimWhere (· = '"') (trimChars value))).map fun w => lower (String.ofList w)

theorem relationsOf_append_cons {front : List Char} (h : '=' ∉ front) (value : List Char) :
    relationsOf (front ++ '=' :: value) =
      if sameLetters (String.ofList (trimChars front)) "rel" then readRelations value else [] := by
  rw [relationsOf, cut?_append_cons (eq_false_of_not_mem h) (by decide)]
  rfl

/-- Blanks and double quotes around the relation types go. -/
theorem Setting.readRelations_written (s : Setting) (lead trail : Blanks) :
    readRelations (lead.text.toList ++ s.written.toList ++ trail.text.toList) =
      (words s.text.toList).map fun w => lower (String.ofList w) := by
  have htrim : trimChars (lead.text.toList ++ s.written.toList ++ trail.text.toList) =
      trimChars s.written.toList := by
    rw [trimChars, trimWhere_append_right trail.blank, trimWhere_append_left lead.blank, trimChars]
  rw [readRelations, htrim]
  cases s with
  | bare text valid =>
    have hbare := isBare_iff.1 valid
    have hblanks : trimChars text.toList = text.toList :=
      trimWhere_eq_self fun c hc => (hbare c hc).1
    have hquotes : trimWhere (· = '"') text.toList = text.toList :=
      trimWhere_eq_self fun c hc => decide_eq_false (hbare c hc).2.2.2
    show List.map _ (words (trimWhere _ (trimChars text.toList))) = _
    rw [hblanks, hquotes]
    rfl
  | quoted text valid =>
    have hblanks : trimChars ('"' :: text.toList ++ ['"']) = '"' :: text.toList ++ ['"'] := by
      rw [trimChars, trimWhere_concat (by decide), List.dropWhile_cons_of_neg (by decide)]
    have hquotes : trimWhere (· = '"') ('"' :: text.toList ++ ['"']) = text.toList := by
      rw [trimWhere_append_right (by simp)]
      show trimWhere _ (['"'] ++ text.toList) = _
      rw [trimWhere_append_left (by simp)]
      exact trimWhere_eq_self (eq_false_of_not_mem valid)
    rw [toList_quoted, hblanks, hquotes]
    rfl

namespace Parameter

theorem not_mem_front {p : Parameter} {c : Char} (hblank : isBlank c = false)
    (hname : c ∉ p.name.toList) : c ∉ p.front := by
  unfold front
  simp only [List.mem_append, not_or]
  exact ⟨⟨p.lead.not_mem hblank, hname⟩, p.afterName.not_mem hblank⟩

theorem trimChars_front (p : Parameter) : trimChars p.front = p.name.toList := by
  have hname : trimChars p.name.toList = p.name.toList :=
    trimWhere_eq_self fun c hc => (isBare_iff.1 p.bare c hc).1
  rw [front, trimChars, trimWhere_append_right p.afterName.blank,
    trimWhere_append_left p.lead.blank, ← trimChars, hname]

theorem semicolon_not_mem_front (p : Parameter) : ';' ∉ p.front :=
  not_mem_front (by decide) fun hc => (isBare_iff.1 p.bare _ hc).2.2.1 rfl

/-- What a parameter gives, as far as no semicolon comes. -/
theorem relationsOf_front (p : Parameter) (value : List Char) :
    relationsOf (p.front ++ '=' :: value) =
      if sameLetters p.name "rel" then readRelations value else [] := by
  rw [relationsOf_append_cons (not_mem_front (by decide) p.unequal), trimChars_front,
    String.ofList_toList]

/-- A parameter without a semicolon gives the words it is set to, if its name is `rel`. -/
theorem relations_eq {p : Parameter} (h : ';' ∉ p.setting.text.toList) :
    p.relations = if sameLetters p.name "rel" then
      (words p.setting.text.toList).map fun w => lower (String.ofList w) else [] := by
  have hwritten : ';' ∉ p.setting.written.toList := by
    cases hs : p.setting with
    | bare text valid =>
      rw [hs] at h
      exact h
    | quoted text valid =>
      rw [hs] at h
      simp only [Setting.toList_quoted, List.mem_append, List.mem_cons, not_or]
      exact ⟨⟨by decide, h⟩, by decide, List.not_mem_nil⟩
  have hpiece : ';' ∉ p.text.toList := by
    rw [p.toList_text]
    simp only [List.mem_append, List.mem_cons, not_or]
    exact ⟨p.semicolon_not_mem_front, by decide, ⟨p.beforeSetting.not_mem (by decide), hwritten⟩,
      p.trail.not_mem (by decide)⟩
  rw [relations, relationsIn_eq hpiece, p.toList_text, relationsOf_front,
    Setting.readRelations_written]

end Parameter

/-! ## Entries -/

/-- The parameters of an entry, with the blanks in front of them. -/
def Entry.rest (e : Entry) : List Char :=
  e.trail.text.toList ++ e.parameters.flatMap fun p => ';' :: p.text.toList

theorem Entry.toList_text (e : Entry) :
    e.text.toList = e.lead.text.toList ++ '<' :: (e.target.toList ++ '>' :: e.rest) := by
  simp [Entry.text, Entry.rest, String.toList_join, List.flatMap_map]

theorem Entry.within_rest (e : Entry) : Within false e.rest false := by
  refine e.trail.within.append ?_
  induction e.parameters with
  | nil => exact .nil false
  | cons p ps ih =>
    rw [List.flatMap_cons]
    exact .append (.other (by decide) (by decide) p.within_text) ih

theorem Entry.relationsIn_rest (e : Entry) :
    relationsIn e.rest = e.parameters.flatMap Parameter.relations := by
  -- `a` is what stands before the first semicolon, at first only blanks
  have hrest : ∀ (a : List Char) (ps : List Parameter),
      relationsIn (a ++ ps.flatMap fun p => ';' :: p.text.toList) =
        relationsIn a ++ ps.flatMap Parameter.relations := by
    intro a ps
    induction ps generalizing a with
    | nil => simp
    | cons p ps ih =>
      rw [List.flatMap_cons, List.cons_append, relationsIn_append_cons, ih, List.flatMap_cons]
      rfl
  rw [Entry.rest, hrest, relationsIn_blanks, List.nil_append]

/-- The link that an entry is read as. -/
def Entry.link (e : Entry) : Link :=
  { target := trim e.target, relations := e.parameters.flatMap Parameter.relations }

theorem Entry.read_text (e : Entry) :
    Closed e.text.toList ∧ parse e.text = [e.link] := by
  have hread := read_link (e.lead.not_mem (c := '<') (by decide)) e.open_target e.within_rest
  rw [← e.toList_text] at hread
  refine ⟨hread.1, ?_⟩
  rw [parse, hread.2, ofParts, e.relationsIn_rest]
  rfl

/-- A header value is read as its entries. -/
theorem parse_text (entries : List Entry) : parse (text entries) = entries.map Entry.link := by
  have hclosed : ∀ value ∈ entries.map Entry.text, Closed value.toList := by
    simpa using fun e _ => e.read_text.1
  rw [text, parse_intercalate hclosed, List.flatMap_map, List.map_eq_flatMap]
  exact List.flatMap_congr fun e _ => e.read_text.2

end Link

end ConditionalGet
