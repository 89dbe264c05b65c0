import ConfigRegistry.Coding.Form
import ConfigRegistry.Proofs.Coding.Utf8

/-!
Form-encoded texts are read back as they were. No byte of an encoded text is a mark between names,
values and pairs, so that the names and values of encoded pairs can be told.
-/
namespace ConfigRegistry.Coding

namespace Percent

theorem decode_cons {b : UInt8} (h : b ≠ 0x25) (rest : List UInt8) :
    decode (b :: rest) = b :: decode rest := by
  rw [decode]
  intro _ _ _ hpercent
  exact absurd hpercent h

/-- Bytes without escapes stand for themselves. -/
theorem decode_of_not_mem {bytes : List UInt8} (h : (0x25 : UInt8) ∉ bytes) :
    decode bytes = bytes := by
  induction bytes with
  | nil => rw [decode]
  | cons b rest ih =>
    rw [List.mem_cons, not_or] at h
    rw [decode_cons (Ne.symm h.1), ih h.2]

theorem value?_digitByte : ∀ n : Fin 16, value? (digitByte n) = some n.val := by decide

/-- An escape stands for its byte. -/
theorem decode_escape (b : UInt8) (rest : List UInt8) :
    decode (escape b ++ rest) = b :: decode rest := by
  have hb := b.toNat_lt
  have high := value?_digitByte ⟨b.toNat / 16, by omega⟩
  have low := value?_digitByte ⟨b.toNat % 16, by omega⟩
  simp only at high low
  have hval : UInt8.ofNat (16 * (b.toNat / 16) + b.toNat % 16) = b := by
    rw [Nat.div_add_mod, UInt8.ofNat_toNat]
  simp only [escape, List.cons_append, List.nil_append, decode, high, low, hval]

end Percent

namespace Form

def spaced (bytes : List UInt8) : List UInt8 := bytes.map fun b => if b == 0x2b then 0x20 else b

@[simp] theorem spaced_append (l l' : List UInt8) : spaced (l ++ l') = spaced l ++ spaced l' :=
  List.map_append

theorem keeps_digitByte : ∀ n : Fin 16, keeps (Percent.digitByte n) = true := by decide

theorem ne_of_keeps {b mark : UInt8} (h : keeps b = true) (hmark : keeps mark = false) :
    b ≠ mark := by
  rintro rfl
  rw [h] at hmark
  contradiction

theorem toNat_lt_of_keeps {b : UInt8} (h : keeps b = true) : b.toNat < 128 := by
  simp only [keeps, Bool.or_eq_true, Bool.and_eq_true, decide_eq_true_eq, beq_iff_eq,
    UInt8.le_iff_toNat_le] at h
  rcases h with ((((((⟨_, h⟩ | ⟨_, h⟩) | ⟨_, h⟩) | rfl) | rfl) | rfl) | rfl)
  · exact Nat.lt_of_le_of_lt h (by decide)
  · exact Nat.lt_of_le_of_lt h (by decide)
  · exact Nat.lt_of_le_of_lt h (by decide)
  · decide
  · decide
  · decide
  · decide

/-- What an encoded byte is made of. -/
theorem mem_encodeByte {b x : UInt8} (h : x ∈ encodeByte b) :
    x = 0x2b ∨ x = 0x25 ∨ keeps x = true := by
  have hb := b.toNat_lt
  unfold encodeByte at h
  split at h
  · exact .inl (List.mem_singleton.mp h)
  · split at h
    · next hkeeps =>
      obtain rfl := List.mem_singleton.mp h
      exact .inr (.inr hkeeps)
    · have high := keeps_digitByte ⟨b.toNat / 16, by omega⟩
      have low := keeps_digitByte ⟨b.toNat % 16, by omega⟩
      simp only [Percent.escape, List.mem_cons, List.not_mem_nil, or_false] at h
      rcases h with rfl | rfl | rfl
      · exact .inr (.inl rfl)
      · exact .inr (.inr high)
      · exact .inr (.inr low)

/-- An encoded text has no marks. -/
theorem not_mem_encodeText {b : UInt8} (hkeeps : keeps b = false) (hplus : b ≠ 0x2b)
    (hpercent : b ≠ 0x25) (s : String) : b ∉ encodeText s := by
  intro h
  obtain ⟨_, _, hb⟩ := List.mem_flatMap.mp h
  rcases mem_encodeByte hb with h | h | h
  · exact hplus h
  · exact hpercent h
  · rw [hkeeps] at h
    contradiction

theorem equals_not_mem_encodeText (s : String) : (0x3d : UInt8) ∉ encodeText s :=
  not_mem_encodeText rfl (by decide) (by decide) s

theorem spaced_escape (b : UInt8) : spaced (Percent.escape b) = Percent.escape b := by
  have hb := b.toNat_lt
  have high := keeps_digitByte ⟨b.toNat / 16, by omega⟩
  have low := keeps_digitByte ⟨b.toNat % 16, by omega⟩
  have hhigh := ne_of_keeps high (show keeps 0x2b = false from by decide)
  have hlow := ne_of_keeps low (show keeps 0x2b = false from by decide)
  simp only at hhigh hlow
  simp [spaced, Percent.escape, hhigh, hlow]

/-- One byte at a time, a form is decoded to what was encoded. -/
theorem decode_encodeByte (b : UInt8) (rest : List UInt8) :
    Percent.decode (spaced (encodeByte b) ++ rest) = b :: Percent.decode rest := by
  unfold encodeByte
  split
  · next hspace =>
    obtain rfl := eq_of_beq hspace
    exact Percent.decode_cons (by decide) rest
  · split
    · next hkeeps =>
      have hplus := ne_of_keeps hkeeps (show keeps 0x2b = false from by decide)
      have hpercent := ne_of_keeps hkeeps (show keeps 0x25 = false from by decide)
      simpa [spaced, hplus] using Percent.decode_cons hpercent rest
    · rw [spaced_escape]
      exact Percent.decode_escape b rest

/-- The bytes of a text are read back from its encoding. -/
theorem decode_encodeText (s : String) :
    Percent.decode (spaced (encodeText s)) = Utf8.encode s := by
  unfold encodeText
  induction Utf8.encode s with
  | nil => rfl
  | cons b rest ih => rw [List.flatMap_cons, spaced_append, decode_encodeByte, ih]

theorem decodeText_encodeText (s : String) :
    decodeText (encodeText s) = Utf8.lossy (Utf8.encode s) :=
  congrArg Utf8.lossy (decode_encodeText s)

/-- An encoded text is no shorter than the text. -/
theorem length_le_encodeText (s : String) : (Utf8.encode s).length ≤ (encodeText s).length := by
  unfold encodeText
  induction Utf8.encode s with
  | nil => exact Nat.le_refl 0
  | cons b rest ih =>
    have hb : 0 < (encodeByte b).length := by
      unfold encodeByte
      split
      · exact Nat.one_pos
      · split
        · exact Nat.one_pos
        · exact Nat.succ_pos _
    rw [List.flatMap_cons, List.length_append, List.length_cons]
    omega

/-! Pairs. -/

theorem encode_cons_cons (pair next : String × String) (others : List (String × String)) :
    encode (pair :: next :: others) = encodePair pair ++ 0x26 :: encode (next :: others) := by
  simp [encode, List.intercalate_cons_cons]

/-- The value of the last pair stands at the end. -/
theorem encode_concat (pairs : List (String × String)) (name : String) :
    ∃ front, ∀ value, encode (pairs ++ [(name, value)]) = front ++ encodeText value := by
  induction pairs with
  | nil => exact ⟨encodeText name ++ [0x3d], fun value => by simp [encode, encodePair]⟩
  | cons pair rest ih =>
    obtain ⟨front, hfront⟩ := ih
    refine ⟨encodePair pair ++ 0x26 :: front, fun value => ?_⟩
    rw [List.append_assoc, List.cons_append, List.cons_append, ← hfront]
    cases rest with
    | nil => rfl
    | cons next others => rfl

/-! Reading pairs back. -/

theorem splitOn_cons (mark b : UInt8) (l : List UInt8) : splitOn mark (b :: l) =
    if b == mark then [] :: splitOn mark l else
      match splitOn mark l with
      | [] => [[b]]
      | first :: others => (b :: first) :: others := rfl

theorem splitOn_ne_nil (mark : UInt8) (l : List UInt8) : splitOn mark l ≠ [] := by
  cases l with
  | nil => exact List.cons_ne_nil _ _
  | cons b rest =>
    rw [splitOn_cons]
    split
    · exact List.cons_ne_nil _ _
    · split
      · exact List.cons_ne_nil _ _
      · exact List.cons_ne_nil _ _

theorem splitOn_append (mark : UInt8) (l l' : List UInt8) :
    splitOn mark (l ++ mark :: l') = splitOn mark l ++ splitOn mark l' := by
  induction l with
  | nil => simp [splitOn]
  | cons b rest ih =>
    rw [List.cons_append, splitOn_cons, splitOn_cons, ih]
    split
    · rfl
    · cases hpieces : splitOn mark rest with
      | nil => exact absurd hpieces (splitOn_ne_nil mark rest)
      | cons first others => rfl

theorem splitOn_of_not_mem {mark : UInt8} {l : List UInt8} (h : mark ∉ l) :
    splitOn mark l = [l] := by
  induction l with
  | nil => rfl
  | cons b rest ih =>
    rw [List.mem_cons, not_or] at h
    have hb : (b == mark) = false := by simpa using Ne.symm h.1
    rw [splitOn_cons, ih h.2, hb]
    rfl

/-- Texts of pairs that are joined by a mark are read one behind the other. -/
theorem decode_append (l l' : List UInt8) : decode (l ++ 0x26 :: l') = decode l ++ decode l' := by
  simp only [decode, splitOn_append, List.filter_append, List.map_append]

theorem decodePair_encodePair (pair : String × String) : decodePair (encodePair pair) = pair := by
  have hname : ∀ b ∈ encodeText pair.1, (b != 0x3d) = true := fun b hb =>
    bne_iff_ne.mpr (ne_of_mem_of_not_mem hb (equals_not_mem_encodeText pair.1))
  simp only [decodePair, encodePair, List.takeWhile_append_of_pos hname,
    List.dropWhile_append_of_pos hname]
  simp [decodeText_encodeText]

theorem decode_encodePair (pair : String × String) : decode (encodePair pair) = [pair] := by
  have hmark : (0x26 : UInt8) ∉ encodePair pair := by
    simp only [encodePair, List.mem_append, List.mem_cons, not_or]
    exact ⟨not_mem_encodeText rfl (by decide) (by decide) _, by decide,
      not_mem_encodeText rfl (by decide) (by decide) _⟩
  have hfull : (encodePair pair).isEmpty = false := by simp [encodePair]
  simp only [decode, splitOn_of_not_mem hmark]
  simp [hfull, decodePair_encodePair]

/-- Pairs are read back from their text. -/
theorem decode_encode (pairs : List (String × String)) : decode (encode pairs) = pairs := by
  induction pairs with
  | nil => rfl
  | cons pair rest ih =>
    cases rest with
    | nil => simpa [encode] using decode_encodePair pair
    | cons next others =>
      rw [encode_cons_cons, decode_append, decode_encodePair, ih]
      rfl

/-- Different pairs have different texts. -/
theorem encode_inj {pairs pairs' : List (String × String)} (h : encode pairs = encode pairs') :
    pairs = pairs' := by
  rw [← decode_encode pairs, h, decode_encode]

/-- What the text of pairs is made of. -/
theorem mem_encode {pairs : List (String × String)} {b : UInt8} (h : b ∈ encode pairs) :
    b = 0x26 ∨ b = 0x3d ∨ b = 0x2b ∨ b = 0x25 ∨ keeps b = true := by
  have htext : ∀ s, b ∈ encodeText s → b = 0x2b ∨ b = 0x25 ∨ keeps b = true := by
    intro s hs
    obtain ⟨_, _, hb⟩ := List.mem_flatMap.mp hs
    exact mem_encodeByte hb
  induction pairs with
  | nil => simp [encode] at h
  | cons pair rest ih =>
    have hpair : b ∈ encodePair pair → b = 0x3d ∨ b = 0x2b ∨ b = 0x25 ∨ keeps b = true := by
      simp only [encodePair, List.mem_append, List.mem_cons]
      rintro (hb | hb | hb)
      · exact .inr (htext _ hb)
      · exact .inl hb
      · exact .inr (htext _ hb)
    cases rest with
    | nil => exact .inr (hpair (by simpa [encode] using h))
    | cons next others =>
      rw [encode_cons_cons, List.mem_append, List.mem_cons] at h
      rcases h with h | h | h
      · exact .inr (hpair h)
      · exact .inl h
      · exact ih h

end Form

end ConfigRegistry.Coding
