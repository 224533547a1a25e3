import ConditionalGet.Proofs.Files.Places
import ConditionalGet.Proofs.Store.Course

/-!
# Where a store on disk keeps its files

The index and the body files of a store in a directory, with the files they are written to first,
are at five kinds of places (`place_indexPath` and the lemmas after it), no two of which meet. The
name of a body file is a digest, so that it is plain (`BodyName.plain`), and what is written before it
is renamed is no body file (`BodyName.temporary_ne`).
-/

set_option autoImplicit false

namespace ConditionalGet

/-! ## Digests -/

namespace Sha256

theorem length_bigEndian (n x : Nat) : (bigEndian n x).length = n := by
  induction n generalizing x with
  | zero => rfl
  | succ n ih => simp [bigEndian, ih]

theorem length_digest (message : List UInt8) : (digest message).length = 32 := by
  simp [digest, length_bigEndian]

end Sha256

namespace DiskStore

open ConditionalGet.Path

def isDigit (c : Char) : Bool := (Text.hexDigit? c).isSome

theorem isDigit_hexDigit {n : Nat} (h : n < 16) : isDigit (Text.hexDigit n) = true := by
  have all : ∀ m ∈ List.range 16, isDigit (Text.hexDigit m) = true := by decide
  exact all n (List.mem_range.2 h)

/-- A digit of a digest takes one byte. -/
theorem utf8Size_of_isDigit {c : Char} (h : isDigit c = true) : c.utf8Size = 1 := by
  rw [Char.utf8Size_eq_one_iff, UInt32.le_iff_toNat_le]
  have h9 : ('9' : Char).val.toNat = 57 := rfl
  have hf : ('f' : Char).val.toNat = 102 := rfl
  have hF : ('F' : Char).val.toNat = 70 := rfl
  have h127 : (127 : UInt32).toNat = 127 := rfl
  unfold isDigit Text.hexDigit? at h
  simp only [Char.le_def, UInt32.le_iff_toNat_le, Bool.and_eq_true, decide_eq_true_eq] at h
  split at h
  · omega
  split at h
  · omega
  split at h
  · omega
  · cases h

theorem utf8ByteSize_ofList {cs : List Char} (h : ∀ c ∈ cs, isDigit c = true) :
    (String.ofList cs).utf8ByteSize = cs.length := by
  induction cs with
  | nil => rfl
  | cons c cs ih =>
    have hc := utf8Size_of_isDigit (h c List.mem_cons_self)
    have hcs := ih fun d hd => h d (List.mem_cons_of_mem _ hd)
    rw [String.ofList_cons, String.utf8ByteSize_append, String.utf8ByteSize_singleton, hc, hcs,
      List.length_cons, Nat.add_comm]

/-- A name of 64 digits with an extension. -/
def DigestName (name extension : String) : Prop :=
  ∃ stem : List Char, name = String.ofList (stem ++ '.' :: extension.toList) ∧ stem.length = 64 ∧
    ∀ c ∈ stem, isDigit c = true

def BodyName (name : String) : Prop := DigestName name "json"

theorem length_flatMap_hexByte (bytes : List UInt8) :
    (bytes.flatMap Text.hexByte).length = 2 * bytes.length := by
  induction bytes with
  | nil => rfl
  | cons b bytes ih =>
    rw [List.flatMap_cons, List.length_append, ih, List.length_cons]
    show 2 + _ = _
    omega

theorem bodyName_bodyName (uri etag : String) (now : Instant) (sequence : UInt64) :
    BodyName (bodyName uri etag now sequence) := by
  refine ⟨(Sha256.digest (nameSeed uri etag now sequence)).flatMap Text.hexByte, ?_, ?_, ?_⟩
  · rw [bodyName, String.ofList_append]
    rfl
  · rw [length_flatMap_hexByte, Sha256.length_digest]
  · intro c hc
    obtain ⟨b, -, hb⟩ := List.mem_flatMap.1 hc
    have hlt : b.toNat < 256 := b.toNat_lt
    simp only [Text.hexByte, List.mem_cons, List.not_mem_nil, or_false] at hb
    rcases hb with rfl | rfl
    · exact isDigit_hexDigit (by omega)
    · exact isDigit_hexDigit (by omega)

theorem ne_of_isDigit {c : Char} (h : isDigit c = true) : c ≠ '/' ∧ c ≠ '.' ∧ c ≠ '\x00' := by
  refine ⟨?_, ?_, ?_⟩ <;>
    · rintro rfl
      revert h
      decide

theorem DigestName.utf8ByteSize {name extension : String} (h : DigestName name extension) :
    name.utf8ByteSize = 65 + extension.utf8ByteSize := by
  obtain ⟨stem, rfl, hlen, hdigit⟩ := h
  rw [String.ofList_append, String.utf8ByteSize_append, utf8ByteSize_ofList hdigit, hlen,
    String.ofList_cons, String.utf8ByteSize_append, String.ofList_toList, ← Nat.add_assoc]
  rfl

theorem DigestName.plain {name extension : String} (h : DigestName name extension)
    (hslash : '/' ∉ extension.toList) (hnul : '\x00' ∉ extension.toList)
    (hshort : extension.utf8ByteSize ≤ 190) : Plain name := by
  have hsize := h.utf8ByteSize
  obtain ⟨stem, rfl, hlen, hdigit⟩ := h
  have hmem : ∀ {c}, c ∈ (String.ofList (stem ++ '.' :: extension.toList)).toList →
      c ∈ stem ∨ c = '.' ∨ c ∈ extension.toList := by
    intro c hc
    simpa using hc
  have hlong : ∀ s : String, s.toList.length < 64 →
      String.ofList (stem ++ '.' :: extension.toList) ≠ s := by
    rintro s hs rfl
    simp only [String.toList_ofList, List.length_append] at hs
    omega
  refine ⟨hlong _ (by decide), hlong _ (by decide), hlong _ (by decide), ?_, ?_, ?_⟩
  · intro hc
    rcases hmem hc with hc | hc | hc
    · exact (ne_of_isDigit (hdigit _ hc)).1 rfl
    · cases hc
    · exact hslash hc
  · intro hc
    rcases hmem hc with hc | hc | hc
    · exact (ne_of_isDigit (hdigit _ hc)).2.2 rfl
    · cases hc
    · exact hnul hc
  · rw [hsize]
    omega

theorem BodyName.plain {name : String} (h : BodyName name) : Plain name :=
  DigestName.plain h (by decide) (by decide) (by decide)

/-- Under which name a body file is written first. -/
def temporaryName (name : String) : String :=
  String.ofList (nameWithExtension name.toList "tmp".toList)

/-- The name of a body file with another extension. -/
theorem BodyName.withExtension {name : String} (h : BodyName name) (extension : String) :
    DigestName (String.ofList (nameWithExtension name.toList extension.toList)) extension := by
  obtain ⟨stem, rfl, hlen, hdigit⟩ := h
  have hstem : stem ≠ [] := by
    rintro rfl
    cases hlen
  refine ⟨stem, ?_, hlen, hdigit⟩
  rw [String.toList_ofList, nameWithExtension_append hstem (by decide)]

theorem BodyName.temporary {name : String} (h : BodyName name) :
    DigestName (temporaryName name) "tmp" := h.withExtension "tmp"

theorem BodyName.plain_temporary {name : String} (h : BodyName name) :
    Plain (temporaryName name) :=
  DigestName.plain h.temporary (by decide) (by decide) (by decide)

/-- What is written before it is renamed is no body file. -/
theorem BodyName.temporary_ne {name other : String} (h : BodyName name) (ho : BodyName other) :
    temporaryName name ≠ other := by
  obtain ⟨stem, hn, hlen, -⟩ := h.temporary
  obtain ⟨stem', rfl, hlen', -⟩ := ho
  intro he
  have hsize := congrArg (fun s => s.toList.length) (hn.symm.trans he)
  simp only [String.toList_ofList, List.length_append, hlen, hlen'] at hsize
  exact absurd hsize (by decide)

/-! ## Places -/

theorem plain_indexName : Plain "index.json" := by constructor <;> decide

theorem plain_indexTemporary : Plain "index.tmp" := by constructor <;> decide

theorem plain_bodies : Plain "bodies" := by constructor <;> decide

theorem temporary_join (base : String) {name : String} (h : Plain name)
    (ht : Plain (temporaryName name)) :
    temporary (join base name) = join base (temporaryName name) := by
  rw [temporary, withExtension_join base h, join_eq_lead_append base ht.isAbsolute]
  rfl

theorem temporary_indexPath (dir : String) :
    temporary (indexPath dir) = join dir "index.tmp" :=
  temporary_join dir plain_indexName plain_indexTemporary

variable (working : List String) (disk : DiskStore) (dir : String)

theorem place_indexPath : place working (indexPath dir) = place working dir ++ ["index.json"] :=
  place_join working dir plain_indexName

theorem place_temporary_indexPath :
    place working (temporary (indexPath dir)) = place working dir ++ ["index.tmp"] := by
  rw [temporary_indexPath, place_join working dir plain_indexTemporary]

theorem place_bodiesPath : place working (bodiesPath dir) = place working dir ++ ["bodies"] :=
  place_join working dir plain_bodies

theorem place_bodyPath {name : String} (h : BodyName name) :
    place working (disk.bodyPath name) = place working disk.dir ++ ["bodies", name] := by
  rw [bodyPath, place_join working _ h.plain, place_bodiesPath, List.append_assoc]
  rfl

theorem place_temporary_bodyPath {name : String} (h : BodyName name) :
    place working (temporary (disk.bodyPath name)) =
      place working disk.dir ++ ["bodies", temporaryName name] := by
  rw [bodyPath, temporary_join _ h.plain h.plain_temporary, place_join working _ h.plain_temporary,
    place_bodiesPath, List.append_assoc]
  rfl

/-! ## Sizes -/

theorem size_join (base : String) {name : String} (h : Plain name) :
    (join base name).utf8ByteSize = (lead base).utf8ByteSize + name.utf8ByteSize := by
  rw [join_eq_lead_append base h.isAbsolute, String.utf8ByteSize_append]

/-- The path of a body file goes on from that of the body files by 70 bytes. -/
theorem BodyName.size_bodyPath {name : String} (h : BodyName name) :
    (disk.bodyPath name).utf8ByteSize = (bodiesPath disk.dir).utf8ByteSize + 70 := by
  rw [bodyPath, size_join _ h.plain, bodiesPath, lead_join _ plain_bodies,
    String.utf8ByteSize_append, DigestName.utf8ByteSize h, Nat.add_assoc]
  rfl

end DiskStore

end ConditionalGet
