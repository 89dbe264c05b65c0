import ConfigRegistry.Proofs.Blob.Entries
import ConfigRegistry.Proofs.Coding.Utf8
import ConfigRegistry.Uuid
import ConfigRegistry.Version.Basic

/-!
The names under which archives are kept. Every version has a name of its own, and none of these is
the name of a file that is written before it becomes an archive.
-/
namespace ConfigRegistry

/-- A new version has an identifier under which an archive can be kept. -/
theorem isId_make (draws : List Nat) :
    Blob.isId (ResourceId.make Version.idKind (ResourceId.suffix draws)) = true := by
  have halphabet : ResourceId.alphabet.all Blob.isIdChar = true := by decide
  have hdrawn : ∀ n : Nat,
      Blob.isIdChar (ResourceId.alphabet.getD (n % ResourceId.alphabet.length) 'A') = true := by
    intro n
    rw [List.getD_eq_getElem?_getD, List.getElem?_eq_getElem (Nat.mod_lt n (by decide))]
    exact List.all_eq_true.mp halphabet _ (List.getElem_mem _)
  have hkind : "cv".toList.all Blob.isIdChar = true := by decide
  have hhyphen : "-".toList.all Blob.isIdChar = true := by decide
  simp only [Blob.isId, ResourceId.make, ResourceId.suffix, Version.idKind, String.toList_append,
    String.toList_ofList, Bool.and_eq_true, List.all_append, List.all_map]
  exact ⟨by simp, ⟨hkind, hhyphen⟩, List.all_eq_true.mpr fun n _ => hdrawn n⟩

namespace Blob

open FileTree

def archiveName (id : String) : String := id ++ ".tar.gz"

/-- The name of the file that is written before it becomes the archive. -/
def draftName (id mark : String) : String := id ++ ".tar.tmp-" ++ mark

theorem keyOf_eq_ok_iff {id key : String} :
    keyOf id = .ok key ↔ isId id = true ∧ key = "configs/" ++ archiveName id := by
  unfold keyOf
  split
  · next h => simp [h, archiveName, String.append_assoc, eq_comm]
  · next h => simp [h]

theorem keyOf_inj {id other key : String} (h : keyOf id = .ok key) (h' : keyOf other = .ok key) :
    id = other := by
  have heq := (keyOf_eq_ok_iff.mp h).2.symm.trans (keyOf_eq_ok_iff.mp h').2
  simpa [archiveName, ← String.toList_inj] using heq

theorem isId_char {id : String} (h : isId id = true) {c : Char} (hc : c ∈ id.toList) :
    isIdChar c = true := by
  simp only [isId, Bool.and_eq_true, List.all_eq_true] at h
  exact h.2 c hc

theorem not_mem_of_isId {id : String} (h : isId id = true) {c : Char} (hc : isIdChar c = false) :
    c ∉ id.toList := by
  intro hmem
  rw [isId_char h hmem] at hc
  contradiction

theorem isName_archiveName {id : String} (h : isId id = true) : IsName (archiveName id) where
  ne_empty := by simp [archiveName]
  no_slash := by
    have hslash := not_mem_of_isId h (c := '/') (by decide)
    simp [archiveName, hslash]

theorem isName_draftName {id mark : String} (h : isId id = true) (hmark : '/' ∉ mark.toList) :
    IsName (draftName id mark) where
  ne_empty := by simp [draftName]
  no_slash := by
    have hslash := not_mem_of_isId h (c := '/') (by decide)
    simp [draftName, hslash, hmark]

theorem isDots_of_length {name : String} (h : 2 < name.length) : isDots name = false := by
  have hdot : ".".length = 1 := rfl
  have hup : "..".length = 2 := rfl
  have hne : name ≠ "." := by
    rintro rfl
    omega
  have hne' : name ≠ ".." := by
    rintro rfl
    omega
  simp [isDots, hne, hne']

theorem isDots_archiveName (id : String) : isDots (archiveName id) = false := by
  apply isDots_of_length
  simp only [archiveName, String.length_append]
  have h : ".tar.gz".length = 7 := rfl
  omega

/-- No archive has the name of a file that is written first. -/
theorem archiveName_ne_draftName {id other mark : String} (h : isId id = true)
    (h' : isId other = true) : archiveName other ≠ draftName id mark := by
  intro heq
  have hdot := not_mem_of_isId h (c := '.') (by decide)
  have hdot' := not_mem_of_isId h' (c := '.') (by decide)
  have harchive : (archiveName other).toList = other.toList ++ '.' :: "tar.gz".toList := by
    simp [archiveName]
  have hdraft : (draftName id mark).toList =
      id.toList ++ '.' :: ("tar.tmp-".toList ++ mark.toList) := by
    simp [draftName]
  have hlist := congrArg (fun s => (s.toList.dropWhile (· != '.')).drop 5) heq
  have hskip : ∀ c ∈ id.toList, (c != '.') = true := fun c hc =>
    bne_iff_ne.mpr (ne_of_mem_of_not_mem hc hdot)
  have hskip' : ∀ c ∈ other.toList, (c != '.') = true := fun c hc =>
    bne_iff_ne.mpr (ne_of_mem_of_not_mem hc hdot')
  simp [harchive, hdraft, List.dropWhile_append_of_pos hskip,
    List.dropWhile_append_of_pos hskip'] at hlist

/-- A mark is written with digits and hyphens. -/
theorem render_char (u : Uuid) {c : Char} (hc : c ∈ u.render.toList) :
    c = '-' ∨ ∃ n : Fin 16, c = Coding.Hex.digit n := by
  have hgroup : ∀ bytes : List UInt8, c ∈ (Coding.Hex.encode bytes).toList →
      ∃ n : Fin 16, c = Coding.Hex.digit n := by
    intro bytes hmem
    simp only [Coding.Hex.encode, String.toList_ofList, List.mem_flatMap, Coding.Hex.pair,
      List.mem_cons, List.not_mem_nil, or_false] at hmem
    obtain ⟨b, _, hhigh | hlow⟩ := hmem
    · have hb := b.toNat_lt
      exact ⟨⟨b.toNat / 16, by omega⟩, hhigh⟩
    · exact ⟨⟨b.toNat % 16, by omega⟩, hlow⟩
  simp only [Uuid.render, String.toList_append, List.mem_append] at hc
  have hhyphen : "-".toList = ['-'] := rfl
  simp only [hhyphen, List.mem_singleton] at hc
  rcases hc with (((((((hc | hc) | hc) | hc) | hc) | hc) | hc) | hc) | hc <;>
    first | exact .inl hc | exact .inr (hgroup _ hc)

theorem not_mem_render (u : Uuid) {c : Char} (hhyphen : c ≠ '-')
    (hdigit : ∀ n : Fin 16, Coding.Hex.digit n ≠ c) : c ∉ u.render.toList := by
  intro hc
  rcases render_char u hc with rfl | ⟨n, rfl⟩
  · exact hhyphen rfl
  · exact hdigit n rfl

/-- An identifier that is written out can be part of a name. -/
theorem slash_not_mem_render (u : Uuid) : '/' ∉ u.render.toList :=
  not_mem_render u (by decide) (by decide)

theorem length_hexEncode (bytes : List UInt8) :
    (Coding.Hex.encode bytes).toList.length = 2 * bytes.length := by
  induction bytes with
  | nil => rfl
  | cons b rest ih =>
    simp only [Coding.Hex.encode, String.toList_ofList] at ih ⊢
    simp only [List.flatMap_cons, List.length_append, ih, Coding.Hex.pair, List.length_cons,
      List.length_nil]
    omega

/-- An identifier is written with 36 bytes. -/
theorem utf8ByteSize_render (u : Uuid) : u.render.utf8ByteSize = 36 := by
  have hsmall : ∀ c ∈ u.render.toList, c.toNat < 128 := by
    have hdigit : ∀ n : Fin 16, (Coding.Hex.digit n).toNat < 128 := by decide
    intro c hc
    rcases render_char u hc with rfl | ⟨n, rfl⟩
    · decide
    · exact hdigit n
  have hhyphen : "-".toList.length = 1 := rfl
  rw [Coding.Utf8.utf8ByteSize_of_small hsmall]
  simp only [Uuid.render, String.toList_append, List.length_append, length_hexEncode,
    List.length_take, List.length_drop, u.length_bytes, hhyphen]
  decide

/-- An identifier has as many bytes as characters. -/
theorem utf8ByteSize_of_isId {id : String} (h : isId id = true) :
    id.utf8ByteSize = id.length := by
  rw [Coding.Utf8.utf8ByteSize_of_small, String.length_toList]
  intro c hc
  have hid := isId_char h hc
  simp only [isIdChar, Bool.or_eq_true, beq_iff_eq] at hid
  rcases hid with (halphanum | rfl) | rfl
  · exact Coding.Utf8.toNat_lt_of_isAlphanum halphanum
  · decide
  · decide

/-! Paths. -/

theorem entryPath_eq (base name : String) :
    entryPath base name = configsPath base ++ "/" ++ name := by
  unfold entryPath configsPath Directory.join
  split <;> simp only [String.append_assoc] <;> rfl

/-- The path of an archive from its end: the name, and then the directory. -/
theorem reversed_archive {id : String} (base : String) (h : isId id = true) :
    (entryPath base (archiveName id)).toList.reverse = "zg.rat.".toList ++ id.toList.reverse ++
        '/' :: (configsPath base).toList.reverse ∧
      dropTrailing (entryPath base (archiveName id)).toList.reverse =
        (entryPath base (archiveName id)).toList.reverse ∧
      (entryPath base (archiveName id)).toList.reverse.takeWhile (· != '/') =
        "zg.rat.".toList ++ id.toList.reverse ∧
      (entryPath base (archiveName id)).toList.reverse.dropWhile (· != '/') =
        '/' :: (configsPath base).toList.reverse := by
  have hslash := not_mem_of_isId h (c := '/') (by decide)
  have hreversed : (entryPath base (archiveName id)).toList.reverse =
      "zg.rat.".toList ++ id.toList.reverse ++
        '/' :: (configsPath base).toList.reverse := by
    simp [entryPath_eq, archiveName]
  have hkeep : ∀ c ∈ id.toList.reverse, (c != '/') = true := fun c hc =>
    bne_iff_ne.mpr (ne_of_mem_of_not_mem (List.mem_reverse.mp hc) hslash)
  have hname : ∀ c ∈ "zg.rat.".toList ++ id.toList.reverse, (c != '/') = true := by
    intro c hc
    rcases List.mem_append.mp hc with hc | hc
    · have hending : "zg.rat.".toList.all (· != '/') = true := rfl
      exact List.all_eq_true.mp hending c hc
    · exact hkeep c hc
  rw [hreversed]
  refine ⟨rfl, by simp [dropTrailing], ?_, ?_⟩
  · rw [List.takeWhile_append_of_pos hname]
    simp
  · rw [List.dropWhile_append_of_pos hname]
    simp

/-- The file that is written first lies beside the archive. -/
theorem temporaryPath_archive {id : String} (base mark : String) (h : isId id = true) :
    Directory.temporaryPath (entryPath base (archiveName id)) mark =
      entryPath base (draftName id mark) := by
  obtain ⟨_, hdrop, htake, hparents⟩ := reversed_archive base h
  have hname : String.ofList ("zg.rat.".toList ++ id.toList.reverse).reverse = archiveName id := by
    rw [← String.toList_inj]
    simp [archiveName]
  have hempty : (archiveName id).isEmpty = false := by simp [archiveName]
  rw [← String.toList_inj]
  simp only [Directory.temporaryPath, Directory.withExtension, Directory.stem, hdrop, htake,
    hparents, hname, hempty, isDots_archiveName, Bool.or_self, Bool.false_eq_true, if_false]
  simp [entryPath_eq, draftName]

/-- Archives lie in one directory below the base. -/
theorem parentPath?_archive {id : String} (base : String) (h : isId id = true) :
    parentPath? (entryPath base (archiveName id)) = some (configsPath base) := by
  obtain ⟨hreversed, hdrop, _, hparents⟩ := reversed_archive base h
  have hconfigs : ∃ front, (configsPath base).toList.reverse = 's' :: front := by
    unfold configsPath Directory.join
    split
    · exact ⟨"gifnoc".toList ++ base.toList.reverse, by simp⟩
    · exact ⟨"gifnoc".toList ++ '/' :: base.toList.reverse, by simp⟩
  obtain ⟨front, hfront⟩ := hconfigs
  have hdirectory : dropTrailing ('/' :: (configsPath base).toList.reverse) =
      (configsPath base).toList.reverse := by
    rw [hfront]
    simp [dropTrailing]
  unfold parentPath?
  simp only [hdrop, hparents, hdirectory]
  rw [hreversed, hfront]
  simp only [List.isEmpty_cons, Bool.false_and, Bool.false_eq_true, if_false]
  rw [← hfront, List.reverse_reverse, String.ofList_toList]
  simp

end Blob

end ConfigRegistry
