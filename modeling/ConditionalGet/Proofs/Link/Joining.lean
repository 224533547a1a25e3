import ConditionalGet.Resource

/-!
# Header values joined by commas

A text may be read up to a comma and from there on anew exactly if it is closed (`closed_iff`): the
reader stands before the next link, or among parameters outside double quotes, and the comma takes
it to the start. So the links of closed texts joined by commas are those of the texts one after
another (`parseChars_intercalate`), whether a server sends one header or several (`parse_joined`).
-/

set_option autoImplicit false

namespace ConditionalGet

namespace Link

open Place

/-- Whether a text is closed can be read off where its reading ends. -/
instance : DecidablePred Closed := fun text =>
  show Decidable (match Place.after .outside text with
    | .outside => True
    | .inTarget _ => False
    | .inParameters _ _ quoted => quoted = false) from
  match Place.after .outside text with
  | .outside => isTrue trivial
  | .inTarget _ => isFalse id
  | .inParameters _ _ quoted => inferInstanceAs (Decidable (quoted = false))

/-! ## Reading on -/

theorem scan_cons (place : Place) (c : Char) (cs : List Char) :
    scan place (c :: cs) = (place.step c).2.toList ++ scan (place.step c).1 cs := rfl

theorem after_cons (place : Place) (c : Char) (cs : List Char) :
    place.after (c :: cs) = (place.step c).1.after cs := rfl

/-- The links of a text, the second part of which is read where the first one ends. -/
theorem parseChars_append (a b : List Char) :
    parseChars (a ++ b) =
      scan .outside a ++ (scan (Place.after .outside a) b ++
        ((Place.after .outside a).after b).finish) := by
  rw [parseChars, scan_append, after_append, List.append_assoc]

/-- Only a closing bracket takes the reader to the parameters of a link. -/
theorem step_of_finish {place : Place} {c : Char} (h : place.finish = []) (hc : c ≠ '>') :
    (place.step c).2 = none ∧ (place.step c).1.finish = [] := by
  cases place with
  | outside =>
    refine ⟨rfl, ?_⟩
    show Place.finish (if c = '<' then .inTarget [] else .outside) = []
    split <;> rfl
  | inTarget target => simp [Place.step, Place.finish, hc]
  | inParameters target parameters quoted => cases h

theorem read_eq_nil {place : Place} {b : List Char} (hplace : place.finish = [])
    (h : '>' ∉ b) : scan place b ++ (place.after b).finish = [] := by
  induction b generalizing place with
  | nil => exact hplace
  | cons c b ih =>
    obtain ⟨hc, hb⟩ := List.ne_and_not_mem_of_not_mem_cons h
    obtain ⟨hnone, hstep⟩ := step_of_finish hplace hc.symm
    rw [scan_cons, after_cons, hnone]
    exact ih hstep hb

/-- Without a closing bracket there is no link. -/
theorem parseChars_eq_nil {b : List Char} (h : '>' ∉ b) : parseChars b = [] :=
  read_eq_nil rfl h

/-! ## Closed texts -/

/-- After a closed text a comma starts the reading anew. -/
theorem parseChars_append_comma {a : List Char} (h : Closed a) (b : List Char) :
    parseChars (a ++ ',' :: b) = parseChars a ++ parseChars b := by
  rw [parseChars_append, parseChars, parseChars, scan_cons, after_cons]
  simp only [List.append_assoc]
  unfold Closed at h
  cases hplace : Place.after .outside a with
  | outside => rfl
  | inTarget t =>
    rw [hplace] at h
    exact h.elim
  | inParameters t ps q =>
    rw [hplace] at h
    obtain rfl : q = false := h
    rfl

/-- **Closed texts are those that can be read apart.** Where a text ends between brackets, another
bracket completes a link; where it ends inside double quotes, a comma ends none. -/
theorem closed_iff {a : List Char} :
    Closed a ↔ ∀ b, parseChars (a ++ ',' :: b) = parseChars a ++ parseChars b := by
  refine ⟨parseChars_append_comma, fun h => ?_⟩
  unfold Closed
  cases hplace : Place.after .outside a with
  | outside => trivial
  | inTarget t =>
    have hlength := congrArg List.length (h ['>'])
    rw [parseChars_append, parseChars, hplace] at hlength
    simp [scan, Place.step, Place.after, Place.finish, parseChars] at hlength
  | inParameters t ps q =>
    cases q with
    | false => rfl
    | true =>
      have hlength := congrArg List.length (h ['<', '>'])
      rw [parseChars_append, parseChars, hplace] at hlength
      simp [scan, Place.step, Place.after, Place.finish, parseChars] at hlength

/-- The links of closed texts, one text after another. -/
theorem parseChars_intercalate {texts : List (List Char)} (h : ∀ text ∈ texts, Closed text) :
    parseChars ([','].intercalate texts) = texts.flatMap parseChars := by
  induction texts with
  | nil => rfl
  | cons text texts ih =>
    obtain ⟨hclosed, hrest⟩ := List.forall_mem_cons.1 h
    cases texts with
    | nil => simp
    | cons next texts =>
      rw [List.intercalate_cons_cons, List.append_assoc, List.singleton_append,
        parseChars_append_comma hclosed, ih hrest, List.flatMap_cons (x := text)]

theorem parse_intercalate {values : List String} (h : ∀ value ∈ values, Closed value.toList) :
    parse (",".intercalate values) = values.flatMap parse := by
  have hchars : (",".intercalate values).toList = [','].intercalate (values.map String.toList) :=
    String.toList_intercalate
  rw [parse, hchars, parseChars_intercalate, List.flatMap_map]
  · rfl
  · intro text htext
    obtain ⟨value, hvalue, rfl⟩ := List.mem_map.1 htext
    exact h value hvalue

/-- **Joining header values by commas joins their links.** After a closed text the links of any text
may follow behind a comma, and a text without a closing bracket adds none. So a resource whose
`Link` headers are closed has the next page of the one that has them joined in a single header. -/
theorem parse_joined :
    (∀ a b : String, Closed a.toList → parse (a ++ "," ++ b) = parse a ++ parse b) ∧
      (∀ a b : String, Closed a.toList → '>' ∉ b.toList → parse (a ++ "," ++ b) = parse a) ∧
      ∀ (values : List String) (r r' : Resource), (∀ value ∈ values, Closed value.toList) →
        r.headerValues "link" = values → r'.headerValues "link" = [",".intercalate values] →
        r.nextLink? = r'.nextLink? := by
  have hjoin : ∀ a b : String, Closed a.toList → parse (a ++ "," ++ b) = parse a ++ parse b := by
    intro a b ha
    have hchars : (a ++ "," ++ b).toList = a.toList ++ ',' :: b.toList := by
      rw [String.toList_append, String.toList_append, List.append_assoc]
      rfl
    rw [parse, hchars, parseChars_append_comma ha]
    rfl
  refine ⟨hjoin, fun a b ha hb => ?_, fun values r r' hclosed hr hr' => ?_⟩
  · have htail : parse b = [] := parseChars_eq_nil hb
    rw [hjoin a b ha, htail, List.append_nil]
  · have hlinks : (r'.headerValues "link").flatMap parse =
        (r.headerValues "link").flatMap parse := by
      rw [hr, hr', List.flatMap_singleton, parse_intercalate hclosed]
    rw [Resource.nextLink?, Resource.nextLink?, hlinks]

/-! ### Two headers of one resource -/

namespace Joined

/-- The relation types of a link, separated by a comma in double quotes. -/
def first : String := "<a>; rel=\"prev,first\"; x=\"<,>\""

def second : String := "no link, <b,c>; title=\"p, q\"; rel=\"last NEXT\""

def several : Resource := ⟨200, "[]", Headers.ofPairs [("Link", first), ("Link", second)]⟩

def single : Resource := ⟨200, "[]", Headers.ofPairs [("link", ",".intercalate [first, second])]⟩

theorem closed_first : Closed first.toList := by decide +kernel

theorem closed_second : Closed second.toList := by decide +kernel

/-- The headers are closed, and what is joined leads to the same page, also with an open bracket
behind it. -/
theorem parse_joined_two :
    (∀ value ∈ [first, second], Closed value.toList) ∧
      several.headerValues "link" = [first, second] ∧
      single.headerValues "link" = [",".intercalate [first, second]] ∧
      several.nextLink? = single.nextLink? ∧ single.nextLink? = some "b,c" ∧
      parse (second ++ "," ++ " <d; rel=\"next\"") = parse second := by
  have hclosed : ∀ value ∈ [first, second], Closed value.toList := by
    simp [closed_first, closed_second]
  have hseveral : several.headerValues "link" = [first, second] := by decide +kernel
  have hsingle : single.headerValues "link" = [",".intercalate [first, second]] := by
    decide +kernel
  obtain ⟨-, htail, hresource⟩ := parse_joined
  refine ⟨hclosed, hseveral, hsingle, hresource _ several single hclosed hseveral hsingle, ?_, ?_⟩
  · decide +kernel
  · exact htail second " <d; rel=\"next\"" closed_second (by decide +kernel)

end Joined

end Link

end ConditionalGet
