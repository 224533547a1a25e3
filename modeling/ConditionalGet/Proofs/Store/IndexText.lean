import ConditionalGet.Proofs.Instant.Reading
import ConditionalGet.Proofs.Json.Reading
import ConditionalGet.Store.Index

/-!
# The index is read as it is written

`Index.parse` gives back every index that `Index.text` writes, whatever its keys, validators and
body files are (`Index.parse_text`): the reader follows the text from member to member, and each
entry is put where it stood.
-/

set_option autoImplicit false

namespace ConditionalGet

open Json Reader

namespace Index

/-! ## Entries -/

theorem plainText_stringChars (s : String) (rest : List Char) :
    plainText (' ' :: (stringChars s ++ rest)) = .ok (s, rest) := by
  have hs := string_stringChars s rest
  rw [stringChars_append] at hs ⊢
  exact (bind_ok (token_space (by decide) _)).trans hs

theorem instant_text (t : Instant) (rest : List Char) :
    instant (' ' :: (stringChars t.text ++ rest)) = .ok (t, rest) := by
  have hs := string_stringChars t.text rest
  rw [stringChars_append] at hs ⊢
  refine (bind_ok (token_space (by decide) _)).trans ((bind_ok hs).trans ?_)
  rw [Instant.parse_text]
  rfl

theorem entryField_etag (etag : String) (rest : List Char) :
    entryField {} "etag" (':' :: ' ' :: (stringChars etag ++ rest)) =
      .ok ({ etag := some etag }, rest) :=
  (bind_ok (colon_cons _)).trans ((bind_ok (plainText_stringChars etag rest)).trans rfl)

theorem entryField_bodyFile (etag bodyFile : String) (rest : List Char) :
    entryField { etag := some etag } "body_file" (':' :: ' ' :: (stringChars bodyFile ++ rest)) =
      .ok ({ etag := some etag, bodyFile := some bodyFile }, rest) :=
  (bind_ok (colon_cons _)).trans ((bind_ok (plainText_stringChars bodyFile rest)).trans rfl)

theorem entryField_storedAt (etag bodyFile : String) (t : Instant) (rest : List Char) :
    entryField { etag := some etag, bodyFile := some bodyFile } "stored_at"
        (':' :: ' ' :: (stringChars t.text ++ rest)) =
      .ok ({ etag := some etag, bodyFile := some bodyFile, storedAt := some t }, rest) :=
  (bind_ok (colon_cons _)).trans ((bind_ok (instant_text t rest)).trans rfl)

theorem entry_entryValue (e : IndexEntry) (level : Nat) (rest : List Char) :
    entry (' ' :: ((entryValue e).prettyChars level ++ rest)) = .ok (e, rest) := by
  have hfields : ∀ bound, 3 < bound → foldMembers entryField bound true {}
      (newLine (level + 1) ++ (stringChars "etag" ++ (':' :: ' ' :: (stringChars e.etag ++
        (laterMembers level [("body_file", .string e.bodyFile),
          ("stored_at", .string e.storedAt.text)] ++ (newLine level ++ '\x7d' :: rest)))))) =
      .ok ({ etag := some e.etag, bodyFile := some e.bodyFile, storedAt := some e.storedAt },
        '\x7d' :: rest) := by
    intro bound hbound
    obtain ⟨b, rfl⟩ : ∃ b, bound = b + 4 := ⟨bound - 4, by omega⟩
    have hb := blank_newLine (level + 1)
    simp only [laterMembers, List.flatMap_cons, List.flatMap_nil, List.append_nil, List.append_assoc,
      List.cons_append, Value.prettyChars]
    rw [foldMembers_first hb, bind_ok (entryField_etag _ _), foldMembers_next hb,
      bind_ok (entryField_bodyFile _ _ _), foldMembers_next hb,
      bind_ok (entryField_storedAt _ _ _ _), foldMembers_end (blank_newLine level)]
  rw [entryValue, prettyChars_object]
  refine (bind_ok (token_space (by decide) _)).trans (braced_ok ?_)
  have hlen : 3 ≤ (newLine (level + 1) ++ (stringChars "etag" ++ (':' :: ' ' ::
      (stringChars e.etag ++ (laterMembers level [("body_file", .string e.bodyFile),
        ("stored_at", .string e.storedAt.text)] ++ (newLine level ++ '\x7d' :: rest)))))).length := by
    simp only [List.length_append, List.length_cons]
    omega
  exact (bind_ok (eachMember_ok hlen hfields)).trans rfl

/-! ## The index -/

theorem entries_text (index : Index) (level : Nat) (rest : List Char) :
    entries (' ' :: ((Value.object (Table.entries index |>.map fun e =>
      (e.1, entryValue e.2))).prettyChars level ++ rest)) = .ok (index, rest) := by
  have hstep : ∀ (s : Index) name e rest,
      (do colon; return s.insert name (← entry) : Reader Index)
        (':' :: ' ' :: ((entryValue e).prettyChars (level + 1) ++ rest)) =
        .ok (s.insert name e, rest) := fun s name e rest =>
    (bind_ok (colon_cons _)).trans ((bind_ok (entry_entryValue e (level + 1) rest)).trans rfl)
  have hput := Table.ofList_entries index
  cases hes : Table.entries index with
  | nil =>
    rw [hes] at hput
    rw [List.map_nil, Value.prettyChars, ← hput]
    refine (bind_ok (token_space (by decide) _)).trans (braced_ok ?_)
    exact eachMember_ok (Nat.zero_le _) fun bound hbound => by
      obtain ⟨b, rfl⟩ := Nat.exists_eq_succ_of_ne_zero (Nat.ne_of_gt hbound)
      exact foldMembers_end (show Blank [] by simp [Blank]) _ b _ true rest
  | cons e es =>
    rw [hes] at hput
    rw [List.map_cons, prettyChars_object]
    refine (bind_ok (token_space (by decide) _)).trans (braced_ok ?_)
    have hlen := length_laterMembers level (es.map fun e => (e.1, entryValue e.2))
    rw [List.length_map] at hlen
    rw [← hput]
    refine eachMember_ok (n := es.length + 1) ?_ fun bound hbound => ?_
    · simp only [List.length_append, List.length_cons]
      omega
    · obtain ⟨b, rfl⟩ : ∃ b, bound = b + 1 := ⟨bound - 1, by omega⟩
      rw [foldMembers_first (blank_newLine (level + 1)), bind_ok (hstep _ _ _ _)]
      exact foldMembers_later hstep es _ rest (by omega)

theorem indexField_version (rest : List Char) :
    indexField {} "version" (':' :: ' ' :: '1' :: ',' :: rest) =
      .ok ({ version := some 1 }, ',' :: rest) :=
  (bind_ok (colon_cons _)).trans rfl

theorem indexField_entries (index : Index) (level : Nat) (rest : List Char) :
    indexField { version := some 1 } "entries" (':' :: ' ' :: ((Value.object
        (Table.entries index |>.map fun e => (e.1, entryValue e.2))).prettyChars level ++ rest)) =
      .ok ({ version := some 1, entries := some index }, rest) :=
  (bind_ok (colon_cons _)).trans ((bind_ok (entries_text index level rest)).trans rfl)

/-- **What is written is read.** -/
theorem parse_text (index : Index) : parse index.text = .ok index := by
  have hone : integerChars (Int.ofNat version) = ['1'] := by decide +kernel
  have hfields : ∀ bound, 2 < bound → foldMembers indexField bound true {}
      (newLine 1 ++ (stringChars "version" ++ (':' :: ' ' :: ('1' ::
        (laterMembers 0 [("entries", .object
          (Table.entries index |>.map fun e => (e.1, entryValue e.2)))] ++
          (newLine 0 ++ '\x7d' :: [])))))) =
      .ok ({ version := some 1, entries := some index }, ['\x7d']) := by
    intro bound hbound
    obtain ⟨b, rfl⟩ : ∃ b, bound = b + 3 := ⟨bound - 3, by omega⟩
    have hb := blank_newLine 1
    simp only [laterMembers, List.flatMap_cons, List.flatMap_nil, List.append_nil, List.append_assoc,
      List.cons_append]
    rw [foldMembers_first hb, bind_ok (indexField_version _), foldMembers_next hb,
      bind_ok (indexField_entries _ _ _), foldMembers_end (blank_newLine 0)]
  have htext := prettyChars_object 0 ("version", .number (.integer (Int.ofNat version)))
    [("entries", .object (Table.entries index |>.map fun e => (e.1, entryValue e.2)))] []
  have hread : versioned index.text.toList = .ok ((1, index), []) := by
    rw [text, value, Value.pretty, String.toList_ofList, ← List.append_nil (Value.prettyChars _ _),
      htext]
    refine (bind_ok (token_cons (by decide) _)).trans (braced_ok ?_)
    rw [Value.prettyChars, Number.chars, hone]
    exact (bind_ok (eachMember_ok (by simp only [List.length_append, List.length_cons]; omega)
      hfields)).trans rfl
  rw [parse, whole_ok hread]
  rfl

end Index

end ConditionalGet
