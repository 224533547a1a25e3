import ConditionalGet.Credential
import ConditionalGet.Proofs.Base64
import ConditionalGet.Proofs.Text.Words

/-!
# Users and passwords as credentials

Whatever user and password are given, base64 makes a text of them that can stand in a header
(`field_basic`), and `Credential.parts?` reads from this text what was given, unless the user has a
colon (`parts?_basicText_iff`). `basic_sendable` puts this together.
-/

set_option autoImplicit false

namespace ConditionalGet

namespace Base64

variable {bytes : List UInt8}

/-- What is written is in the alphabet or a sign of padding. -/
theorem mem_encode {c : Char} (h : c ∈ encode bytes) : c ∈ '=' :: alphabet := by
  obtain ⟨places, characters, zeros, pads, -, -, hcharacters, htext, -, -⟩ := standard_encode bytes
  rw [htext, List.mem_append, List.mem_replicate] at h
  rcases h with hc | ⟨-, rfl⟩
  · have hmem : some c ∈ places.map (alphabet[·]?) := hcharacters ▸ List.mem_map_of_mem hc
    obtain ⟨n, -, hn⟩ := List.mem_map.1 hmem
    exact List.mem_cons_of_mem _ (List.mem_of_getElem? hn)
  · exact List.mem_cons_self

/-- What is written can stand in a header. -/
theorem encode_sendable (bytes : List UInt8) :
    (Text.bytes (String.ofList (encode bytes))).all isValueByte = true := by
  have hall : ('=' :: alphabet).all (fun c => (String.utf8EncodeChar c).all isValueByte) = true := by
    decide +kernel
  rw [Text.bytes_ofList, List.all_flatMap, List.all_eq_true]
  exact fun c hc => List.all_eq_true.1 hall c (mem_encode hc)

end Base64

namespace Credential

/-- What a server reads from base64: the bytes are a text, which is split at its first colon. -/
def parts? (written : String) : Option (String × String) := do
  let bytes ← Base64.decode? written.toList
  let text ← Text.decode? ⟨bytes.toArray⟩
  let (user, password) ← Text.cut? (· = ':') text.toList
  return (String.ofList user, String.ofList password)

theorem decode?_basicText (user password : String) :
    Base64.decode? (basicText user password).toList =
      some (Text.bytes user ++ Text.bytes ":" ++ Text.bytes password) := by
  rw [basicText, String.toList_ofList, Base64.decode?_encode, Text.bytes_append, Text.bytes_append]

theorem parts?_basicText (user password : String) :
    parts? (basicText user password) =
      (Text.cut? (· = ':') (user.toList ++ ':' :: password.toList)).map
        fun p => (String.ofList p.1, String.ofList p.2) := by
  have hbytes : Text.bytes user ++ Text.bytes ":" ++ Text.bytes password =
      Text.bytes (user ++ ":" ++ password) := by
    rw [Text.bytes_append, Text.bytes_append]
  have htext : (user ++ ":" ++ password).toList = user.toList ++ ':' :: password.toList := by
    simp
  rw [parts?, decode?_basicText, hbytes, ← htext]
  simp only [Option.bind_eq_bind, Option.bind_some, Text.decode?_bytes]
  cases Text.cut? (· = ':') (user ++ ":" ++ password).toList <;> rfl

/-- The user and the password come out again exactly if the first colon is the one between them. -/
theorem parts?_basicText_iff {user password : String} :
    parts? (basicText user password) = some (user, password) ↔ ':' ∉ user.toList := by
  rw [parts?_basicText]
  constructor
  · intro h hcolon
    obtain ⟨⟨before, behind⟩, hcut, hparts⟩ := Option.map_eq_some_iff.1 h
    obtain ⟨rfl, -⟩ := Prod.mk.inj hparts
    rw [String.toList_ofList] at hcolon
    simpa using Text.eq_false_of_cut? hcut ':' hcolon
  · intro h
    rw [Text.cut?_append_cons (Text.eq_false_of_not_mem h) (decide_eq_true rfl), Option.map_some,
      String.ofList_toList, String.ofList_toList]

/-- Users without a colon and their passwords are told by the text. -/
theorem basicText_inj {user password user' password' : String} (hu : ':' ∉ user.toList)
    (hu' : ':' ∉ user'.toList) (h : basicText user password = basicText user' password') :
    user = user' ∧ password = password' := by
  have hparts : parts? (basicText user password) = some (user, password) :=
    parts?_basicText_iff.2 hu
  rw [h, parts?_basicText_iff.2 hu'] at hparts
  exact (Prod.mk.inj (Option.some.inj hparts)).imp Eq.symm Eq.symm

theorem field_basic (user password : String) : ∃ value : FieldValue,
    (basic user password).field = .ok (.authorization, value) ∧ value.sensitive = true ∧
      value.bytes = Text.bytes ("Basic " ++ basicText user password) := by
  have hname : FieldName.ofString? "Authorization" = some .authorization := by decide +kernel
  have hscheme : (Text.bytes "Basic ").all isValueByte = true := by decide +kernel
  have hsome : (FieldValue.ofString? ("Basic " ++ basicText user password)).isSome = true := by
    rw [FieldValue.isSome_ofString?, Text.bytes_append, List.all_append, hscheme, Bool.true_and]
    exact Base64.encode_sendable _
  obtain ⟨value, hvalue⟩ := Option.isSome_iff_exists.1 hsome
  have hbytes : value.bytes = Text.bytes ("Basic " ++ basicText user password) :=
    FieldValue.bytes_of_ofBytes? hvalue
  refine ⟨{ value with sensitive := true }, ?_, rfl, hbytes⟩
  rw [field, basic, hname]
  dsimp only
  rw [hvalue]

/-- As `basicText_inj`, of the header that is sent. -/
theorem field_basic_inj {user password user' password' : String} (hu : ':' ∉ user.toList)
    (hu' : ':' ∉ user'.toList) (h : (basic user password).field = (basic user' password').field) :
    user = user' ∧ password = password' := by
  obtain ⟨value, hfield, -, hbytes⟩ := field_basic user password
  obtain ⟨value', hfield', -, hbytes'⟩ := field_basic user' password'
  rw [hfield, hfield'] at h
  obtain rfl : value = value' := (Prod.mk.inj (Except.ok.inj h)).2
  rw [hbytes, Text.bytes_append, Text.bytes_append] at hbytes'
  exact basicText_inj hu hu' (Text.bytes_injective (List.append_cancel_left hbytes'))

/-- **Every user and password make a credential that can be sent and read.** The header is made
whatever characters they have; its value is `Basic` and the base64 of the user, a colon and the
password. What is read from it, split at the first colon, is what was given exactly if the user has
no colon, and then no other pair of that kind makes the same header. -/
theorem basic_sendable (user password : String) : ∃ (value : FieldValue) (written : String),
    (basic user password).field = .ok (.authorization, value) ∧ value.sensitive = true ∧
    value.bytes = Text.bytes ("Basic " ++ written) ∧
    Base64.Standard (Text.bytes user ++ Text.bytes ":" ++ Text.bytes password) written.toList ∧
    Base64.decode? written.toList =
      some (Text.bytes user ++ Text.bytes ":" ++ Text.bytes password) ∧
    (parts? written = some (user, password) ↔ ':' ∉ user.toList) ∧
    ∀ user' password' : String, ':' ∉ user.toList → ':' ∉ user'.toList →
      (basic user' password').field = (basic user password).field →
        user' = user ∧ password' = password := by
  obtain ⟨value, hfield, hsensitive, hbytes⟩ := field_basic user password
  refine ⟨value, basicText user password, hfield, hsensitive, hbytes, ?_,
    decode?_basicText user password, parts?_basicText_iff, fun user' password' hu hu' h => ?_⟩
  · rw [basicText, String.toList_ofList, Text.bytes_append, Text.bytes_append]
    exact Base64.standard_encode _
  · exact field_basic_inj hu' hu h

/-- A line break, a control character and a colon in the password do no harm, and a user with a
line break is not mistaken for one without. -/
theorem basic_sendable_controls : ∃ (value : FieldValue) (written : String),
    (basic "a\n" "p:\x7fé").field = .ok (.authorization, value) ∧
    written = "YQo6cDp/w6k=" ∧ value.bytes = Text.bytes ("Basic " ++ written) ∧
    parts? written = some ("a\n", "p:\x7fé") ∧
    (basic "a" "\np:\x7fé").field ≠ (basic "a\n" "p:\x7fé").field := by
  obtain ⟨value, written, hfield, -, hbytes, hstandard, -, hparts, hinj⟩ :=
    basic_sendable "a\n" "p:\x7fé"
  refine ⟨value, written, hfield, ?_, hbytes, hparts.2 (by decide), fun h => ?_⟩
  · rw [← String.toList_inj, Base64.standard_iff.1 hstandard]
    decide +kernel
  · exact absurd (hinj "a" "\np:\x7fé" (by decide) (by decide) h).1 (by decide)

end Credential

end ConditionalGet
