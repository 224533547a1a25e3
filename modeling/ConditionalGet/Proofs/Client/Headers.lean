import ConditionalGet.Client.Http
import ConditionalGet.Proofs.Text.Lossy

/-!
# The headers of an answer

The transport gives the fields of an answer one by one, their names in small letters; a resource has
the values by name, whatever the case of its letters. Nothing is lost or reordered on the way: the
values of a name are those of its fields, in order (`values_collect`).

The names in small letters are also why the order in which the fields are collected does not matter
beyond that. No two of them agree up to case (`Headers.Small.pairwise`), so a name looked up in any
case meets one of them at most, and what a resource says of its headers is what came in, in the
order in which it came in (`Resource.Shows`).
-/

set_option autoImplicit false

namespace ConditionalGet

open Text

/-! ## Names in small letters -/

theorem toLower_of_isNameChar {c : Char} (h : isNameChar c = true) : c.toLower = c := by
  have hupper : ¬(c.val ≥ 'A'.val ∧ c.val ≤ 'Z'.val) := by
    rintro ⟨hA, hZ⟩
    have hA : 65 ≤ c.toNat := hA
    have hZ : c.toNat ≤ 90 := hZ
    unfold isNameChar at h
    simp only [Bool.or_eq_true, Bool.and_eq_true, decide_eq_true_eq, List.contains_eq_mem,
      List.mem_cons, List.not_mem_nil, or_false] at h
    rcases h with (⟨ha, -⟩ | ⟨-, h9⟩) | h
    · have ha : 97 ≤ c.toNat := ha
      omega
    · have h9 : c.toNat ≤ 57 := h9
      omega
    · rcases h with rfl | rfl | rfl | rfl | rfl | rfl | rfl | rfl | rfl | rfl | rfl | rfl | rfl |
        rfl | rfl
      all_goals revert hA hZ; decide
  exact dif_neg hupper

theorem FieldName.lower_text (n : FieldName) : lower n.text = n.text := by
  have hchars : ∀ c ∈ n.text.toList, c.toLower = c := by
    have hvalid := n.valid
    simp only [isFieldName, Bool.and_eq_true, List.all_eq_true] at hvalid
    exact fun c hc => toLower_of_isNameChar (hvalid.2 c hc)
  rw [lower, List.map_congr_left hchars, List.map_id', String.ofList_toList]

theorem FieldName.text_inj {n n' : FieldName} : n.text = n'.text ↔ n = n' := by
  obtain ⟨text, _⟩ := n
  obtain ⟨text', _⟩ := n'
  simp

/-- Names in small letters that agree up to case are the same. -/
theorem FieldName.sameLetters_iff {n n' : FieldName} : sameLetters n.text n'.text ↔ n = n' := by
  rw [Text.sameLetters_iff, n.lower_text, n'.lower_text, text_inj]

/-- A name in any case is the name whose letters it has. -/
theorem FieldName.ofString?_eq_some_iff {s : String} {n : FieldName} :
    ofString? s = some n ↔ sameLetters s n.text := by
  rw [Text.sameLetters_iff, n.lower_text]
  constructor
  · intro h
    exact (text_of_ofString? h).symm
  · intro h
    have hvalid : isFieldName (lower s) = true := h ▸ n.valid
    rw [ofString?, dif_pos hvalid]
    exact congrArg some (text_inj.1 h)

theorem sameLetters_congr {a b : String} (h : sameLetters a b) (c : String) :
    sameLetters a c = sameLetters b c := by
  rw [Bool.eq_iff_iff, sameLetters_iff, sameLetters_iff, sameLetters_iff.1 h]

/-! ## Collecting -/

namespace Headers

theorem find?_push (hs : Headers) (name value k : String) :
    (hs.push name value).find? k =
      if k = name then some ((hs.find? name).getD [] ++ [value]) else hs.find? k :=
  Table.find?_insert hs name k _

/-- Where only one key agrees with a name up to case, the values of the name are those of the
key. -/
theorem values_of_keys {es : List (String × List String)} {k : String}
    (hnodup : (es.map Prod.fst).Nodup) (hkeys : ∀ e ∈ es, sameLetters e.1 k ↔ e.1 = k) :
    (es.filter fun e => sameLetters e.1 k).flatMap Prod.snd = (Table.lookup k es).getD [] := by
  induction es with
  | nil => rfl
  | cons e rest ih =>
    obtain ⟨he, hrest⟩ := List.forall_mem_cons.1 hkeys
    obtain ⟨hnew, hnodup⟩ := List.nodup_cons.1 hnodup
    by_cases hk : e.1 = k
    · have hnone : (rest.filter fun e => sameLetters e.1 k) = [] := by
        refine List.filter_eq_nil_iff.2 fun e' he' hsame => hnew ?_
        rw [hk, ← (hrest e' he').1 hsame]
        exact List.mem_map_of_mem he'
      rw [List.filter_cons, if_pos (he.2 hk), List.flatMap_cons, hnone, Table.lookup, if_pos hk]
      simp
    · rw [List.filter_cons, if_neg fun hsame => hk (he.1 hsame), ih hnodup hrest, Table.lookup,
        if_neg hk]

end Headers

namespace HttpResponse

/-- The fields read so far are by name what they are in order. -/
theorem find?_foldl_push (fields : List (FieldName × FieldValue)) (hs : Headers) (n : FieldName) :
    ((fields.foldl (fun hs f => Headers.push hs f.1.text f.2.text) hs).find? n.text).getD [] =
      (hs.find? n.text).getD [] ++
        ((fields.filter (·.1 = n)).map Prod.snd).map FieldValue.text := by
  induction fields generalizing hs with
  | nil => simp
  | cons f fields ih =>
    rw [List.foldl_cons, ih, Headers.find?_push]
    by_cases hf : f.1 = n
    · subst hf
      simp
    · have hne : n.text ≠ f.1.text := fun he => hf (FieldName.text_inj.1 he).symm
      rw [if_neg hne, List.filter_cons_of_neg (by simpa using hf)]

theorem keys_foldl_push (fields : List (FieldName × FieldValue)) {hs : Headers}
    (hkeys : ∀ k ∈ hs.keys, ∃ m : FieldName, k = m.text) :
    ∀ k ∈ (fields.foldl (fun hs f => Headers.push hs f.1.text f.2.text) hs).keys,
      ∃ m : FieldName, k = m.text := by
  induction fields generalizing hs with
  | nil => exact hkeys
  | cons f fields ih =>
    refine ih fun k hk => ?_
    have hk : k ∈ Table.keys (Table.insert hs f.1.text _) := hk
    rw [Table.keys_insert] at hk
    split at hk
    · exact hkeys k hk
    · rcases List.mem_append.1 hk with hk | hk
      · exact hkeys k hk
      · exact ⟨f.1, List.mem_singleton.1 hk⟩

/-- The values of a name are those that came for it. -/
theorem values_collect (fs : Fields) (n : FieldName) :
    (collect fs).values n.text = (fs.values n).map FieldValue.text := by
  have hkeys : ∀ e ∈ (collect fs).entries, sameLetters e.1 n.text ↔ e.1 = n.text := by
    intro e he
    obtain ⟨m, hm⟩ := keys_foldl_push fs.list (by simp [Table.keys, Table.empty]) e.1
      (List.mem_map_of_mem he)
    rw [hm, FieldName.sameLetters_iff, FieldName.text_inj]
  rw [Headers.values, Headers.values_of_keys (collect fs).nodup hkeys]
  exact find?_foldl_push fs.list Table.empty n

end HttpResponse

/-! ## Names of headers -/

namespace Headers

/-- Headers whose names are in small letters, as a transport gives them. -/
def Small (hs : Headers) : Prop := ∀ k ∈ hs.keys, ∃ n : FieldName, k = n.text

variable {hs : Headers}

/-- A name in any case meets one of the names, or none. -/
theorem Small.values (h : hs.Small) (name : String) :
    hs.values name = ((FieldName.ofString? name).bind fun n => hs.find? n.text).getD [] := by
  cases hn : FieldName.ofString? name with
  | none =>
    have hnone : (hs.entries.filter fun e => sameLetters e.1 name) = [] := by
      refine List.filter_eq_nil_iff.2 fun e he hsame => ?_
      obtain ⟨m, hm⟩ := h e.1 (List.mem_map_of_mem he)
      rw [hm, sameLetters_comm] at hsame
      cases (FieldName.ofString?_eq_some_iff.2 hsame).symm.trans hn
    rw [Headers.values, hnone]
    rfl
  | some n =>
    have hfilter : (hs.entries.filter fun e => sameLetters e.1 name) =
        hs.entries.filter fun e => sameLetters e.1 n.text := by
      refine List.filter_congr fun e _ => ?_
      rw [sameLetters_comm, sameLetters_congr (FieldName.ofString?_eq_some_iff.1 hn),
        sameLetters_comm]
    rw [Headers.values, hfilter]
    refine values_of_keys hs.nodup fun e he => ?_
    obtain ⟨m, hm⟩ := h e.1 (List.mem_map_of_mem he)
    rw [hm, FieldName.sameLetters_iff, FieldName.text_inj]

/-- No two names agree up to case. -/
theorem Small.pairwise (h : hs.Small) : hs.keys.Pairwise fun k k' => ¬sameLetters k k' := by
  refine hs.nodup.imp_of_mem fun {k k'} hk hk' hne hsame => hne ?_
  obtain ⟨n, rfl⟩ := h k hk
  obtain ⟨n', rfl⟩ := h k' hk'
  rw [FieldName.sameLetters_iff.1 hsame]

theorem small_collect (fs : Fields) : (HttpResponse.collect fs).Small :=
  HttpResponse.keys_foldl_push fs.list (by simp [Table.keys, Table.empty])

theorem Small.of_perm {hs' : Headers} (h : hs.Small) (hperm : hs'.entries.Perm hs.entries) :
    hs'.Small := fun k hk => h k ((hperm.map Prod.fst).mem_iff.1 hk)

end Headers

/-! ## Headers as they come in -/

/-- A header as it comes in: a name in any case, and a value that is text. -/
structure Received where
  name : String
  value : String
  named : (FieldName.ofString? name).isSome
  valued : (FieldValue.ofString? value).isSome

namespace Received

def fieldName (h : Received) : FieldName := (FieldName.ofString? h.name).get h.named

def fieldValue (h : Received) : FieldValue := (FieldValue.ofString? h.value).get h.valued

/-- The headers as a transport keeps them. -/
def fields (received : List Received) : Fields :=
  received.foldl (fun fs h => fs.append h.fieldName h.fieldValue) .empty

theorem fieldName_eq_iff {h : Received} {n : FieldName} :
    h.fieldName = n ↔ sameLetters h.name n.text := by
  rw [← FieldName.ofString?_eq_some_iff, Option.eq_some_iff_get_eq]
  exact ⟨fun hn => ⟨h.named, hn⟩, fun ⟨_, hn⟩ => hn⟩

/-- Values that are text are read as that text. -/
theorem text_fieldValue (h : Received) : h.fieldValue.text = h.value := by
  have hv : FieldValue.ofString? h.value = some h.fieldValue := (Option.some_get h.valued).symm
  have hbytes : h.fieldValue.bytes = bytes h.value := FieldValue.bytes_of_ofBytes? hv
  rw [FieldValue.text, hbytes, decodeLossy_bytes]

theorem values_fields (received : List Received) (n : FieldName) :
    (fields received).values n = (received.filter (·.fieldName = n)).map fieldValue := by
  have hfold : ∀ fs : Fields,
      (received.foldl (fun fs h => fs.append h.fieldName h.fieldValue) fs).values n =
        fs.values n ++ (received.filter (·.fieldName = n)).map fieldValue := by
    induction received with
    | nil => simp
    | cons h rest ih =>
      intro fs
      rw [List.foldl_cons, ih, Fields.values_append, List.filter_cons]
      by_cases hn : h.fieldName = n
      · simp [hn]
      · simp [hn, Ne.symm hn]
  rw [fields, hfold, Fields.values_empty, List.nil_append]

/-- The values that came in for a name in any case. -/
def values (received : List Received) (name : String) : List String :=
  (received.filter fun h => sameLetters h.name name).map value

theorem values_eq_nil_of_ofString? {received : List Received} {name : String}
    (h : FieldName.ofString? name = none) : values received name = [] := by
  rw [values, List.map_eq_nil_iff, List.filter_eq_nil_iff]
  intro r _ hsame
  have hname := fieldName_eq_iff.1 (rfl : r.fieldName = r.fieldName)
  rw [sameLetters_congr hsame] at hname
  cases (FieldName.ofString?_eq_some_iff.2 hname).symm.trans h

/-- What a transport keeps for a name, read as text, is what came in for it. -/
theorem map_text_values_fields (received : List Received) {name : String} {n : FieldName}
    (hn : FieldName.ofString? name = some n) :
    ((fields received).values n).map FieldValue.text = values received name := by
  have hfilter : (received.filter (·.fieldName = n)) =
      received.filter fun h => sameLetters h.name name := by
    refine List.filter_congr fun h _ => ?_
    rw [Bool.eq_iff_iff, decide_eq_true_iff, fieldName_eq_iff, sameLetters_comm h.name name,
      sameLetters_congr (FieldName.ofString?_eq_some_iff.1 hn), sameLetters_comm]
  rw [values_fields, List.map_map, hfilter, values]
  exact List.map_congr_left fun h _ => h.text_fieldValue

end Received

/-- What a resource says of its headers is what came in. -/
structure Resource.Shows (r : Resource) (received : List Received) : Prop where
  values : ∀ name, r.headerValues name = Received.values received name
  first : ∀ name, r.header? name =
    (received.find? fun h => sameLetters h.name name).map Received.value
  absent : ∀ name, r.header? name = none ↔ ∀ h ∈ received, ¬sameLetters h.name name
  etag : r.etag? = (received.find? fun h => sameLetters h.name "etag").map Received.value
  nextLink : r.nextLink? = (((Received.values received "link").flatMap Link.parse).find?
    (·.hasRelation "next")).map Link.target
  distinct : r.headers.keys.Pairwise fun k k' => ¬sameLetters k k'

/-- All is said by the values of each name. -/
theorem Resource.Shows.of_values {r : Resource} {received : List Received}
    (hvalues : ∀ name, r.headerValues name = Received.values received name)
    (hsmall : r.headers.Small) : r.Shows received := by
  have hfirst : ∀ name, r.header? name =
      (received.find? fun h => sameLetters h.name name).map Received.value := by
    intro name
    rw [Resource.header?, hvalues, Received.values, List.head?_map, List.head?_filter]
  refine ⟨hvalues, hfirst, fun name => ?_, hfirst "etag", ?_, hsmall.pairwise⟩
  · rw [hfirst, Option.map_eq_none_iff, List.find?_eq_none]
  · rw [Resource.nextLink?, hvalues]

/-- **Response headers survive collection.** Whatever headers come in, repeated and interleaved,
their names in any case: in whatever order the transport goes through the names, and in whatever
order they stand in the resource, the values of a name in any case are those that came in for it, in
that order, and all that is read of them follows. A resource derived from it shows the same. -/
theorem headers_survive_collection (received : List Received) {response : HttpResponse}
    (hresponse : ∀ n, response.headers.values n = (Received.fields received).values n)
    {r : Resource} (hr : r.headers.entries.Perm response.resource.headers.entries) :
    r.Shows received ∧ ∀ status body, (r.derive status body).Shows received := by
  have hsmall : r.headers.Small := (Headers.small_collect response.headers).of_perm hr
  have hvalues : ∀ name, r.headers.values name = Received.values received name := by
    intro name
    rw [hsmall.values]
    cases hn : FieldName.ofString? name with
    | none => rw [Received.values_eq_nil_of_ofString? hn]; rfl
    | some n =>
      rw [← Received.map_text_values_fields received hn, ← hresponse, Option.bind_some,
        Table.find?_of_perm hr]
      exact HttpResponse.find?_foldl_push response.headers.list Table.empty n
  exact ⟨.of_values hvalues hsmall, fun _ _ => .of_values hvalues hsmall⟩

/-! ### Two links around a validator -/

namespace Interleaved

def previous : Received :=
  ⟨"Link", "</a>; rel=\"prev\"", by decide +kernel, by decide +kernel⟩

def validator : Received := ⟨"ETag", "\"v1\"", by decide +kernel, by decide +kernel⟩

def next : Received := ⟨"LINK", "</b>; rel=\"next\"", by decide +kernel, by decide +kernel⟩

/-- The transport goes through the validator first. -/
def response : HttpResponse := ⟨200, Received.fields [validator, previous, next], "[]"⟩

/-- The resource has its headers in the order opposite to that. -/
def resource : Resource where
  status := 200
  body := "[]"
  headers :=
    { entries := response.resource.headers.entries.reverse
      nodup := ((List.reverse_perm _).map Prod.fst).nodup_iff.2 response.resource.headers.nodup }

theorem values_response (n : FieldName) :
    response.headers.values n = (Received.fields [previous, validator, next]).values n := by
  have hne : validator.fieldName ≠ previous.fieldName := by decide +kernel
  rw [response, Received.values_fields, Received.values_fields]
  by_cases hv : validator.fieldName = n
  · have hp : previous.fieldName ≠ n := fun hp => hne (hv.trans hp.symm)
    simp [hv, hp]
  · simp [hv, List.filter_cons]

theorem headers_survive_collection_interleaved :
    (∀ n, response.headers.values n =
      (Received.fields [previous, validator, next]).values n) ∧
    resource.headers.entries.Perm response.resource.headers.entries ∧
    resource.Shows [previous, validator, next] ∧ resource.nextLink? = some "/b" := by
  have hperm : resource.headers.entries.Perm response.resource.headers.entries :=
    List.reverse_perm _
  have hshows := (headers_survive_collection _ values_response hperm).1
  refine ⟨values_response, hperm, hshows, ?_⟩
  rw [hshows.nextLink]
  decide +kernel

end Interleaved

end ConditionalGet
