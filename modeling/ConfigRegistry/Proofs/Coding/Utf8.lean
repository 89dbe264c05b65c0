import ConfigRegistry.Coding.Utf8

/-!
The bytes of a text as a list. Different texts have different bytes, since a text is read back from
its bytes, character by character.
-/
namespace ConfigRegistry.Coding.Utf8

theorem toList_loop (bytes : ByteArray) (i : Nat) (read : List UInt8) :
    ByteArray.toList.loop bytes i read = read.reverse ++ bytes.data.toList.drop i := by
  fun_induction ByteArray.toList.loop bytes i read with
  | case1 i read hi ih =>
    have hi' : i < bytes.data.toList.length := by simpa using hi
    have hbyte : bytes.get! i = bytes.data.toList[i] := by
      simpa [ByteArray.get!] using getElem!_pos bytes.data i hi
    rw [ih, hbyte, List.drop_eq_getElem_cons hi', List.reverse_cons, List.append_assoc]
    rfl
  | case2 i read hi =>
    have hlength : bytes.data.toList.length ≤ i := by simpa using hi
    rw [List.drop_eq_nil_of_le hlength, List.append_nil]

theorem toList_eq_data (bytes : ByteArray) : bytes.toList = bytes.data.toList := by
  rw [ByteArray.toList, toList_loop, List.reverse_nil, List.nil_append, List.drop_zero]

theorem encode_inj {s t : String} : encode s = encode t ↔ s = t := by
  constructor
  · intro h
    have hdata : s.toUTF8.data = t.toUTF8.data := by
      simpa only [encode, toList_eq_data, Array.toList_inj] using h
    exact String.toByteArray_inj.mp (ByteArray.ext hdata)
  · rintro rfl
    rfl

/-- The bytes of a text are those of its characters, one after the other. -/
theorem encode_eq_flatMap (s : String) : encode s = s.toList.flatMap String.utf8EncodeChar := by
  have hbytes : s.toUTF8 = s.toList.utf8Encode := by
    rw [String.toUTF8, ← String.toByteArray_ofList, String.ofList_toList]
  rw [encode, toList_eq_data, hbytes, List.utf8Encode, List.data_toByteArray]

/-- A byte that continues a character within its bounds. -/
theorem readTail_cons {n acc v : Nat} {low high : UInt8} (rest : List UInt8) (hv : v < 64)
    (hlow : low.toNat ≤ v + 128) (hhigh : v + 128 ≤ high.toNat) :
    readTail (n + 1) low high acc (UInt8.ofNat (v + 128) :: rest) =
      readTail n 0x80 0xbf (acc * 64 + v) rest := by
  have hbyte : (UInt8.ofNat (v + 128)).toNat = v + 128 := by
    rw [UInt8.toNat_ofNat']
    omega
  have hbounds : low ≤ UInt8.ofNat (v + 128) ∧ UInt8.ofNat (v + 128) ≤ high := by
    rw [UInt8.le_iff_toNat_le, UInt8.le_iff_toNat_le, hbyte]
    exact ⟨hlow, hhigh⟩
  rw [readTail, if_pos hbounds, hbyte, Nat.add_sub_cancel]

theorem readChar_of_lead {b : UInt8} {rest tail : List UInt8} {lead : Lead} {code : Nat}
    (hlead : lead? b = some lead)
    (htail : readTail lead.owed lead.low lead.high lead.bits rest = (some code, tail)) :
    readChar b rest = (some (Char.ofNat code), tail) := by
  simp [readChar, hlead, htail]

/-- The first byte of a character says how the character goes on. -/
theorem lead?_ofNat (n : Nat) (h : n < 256) : lead? (UInt8.ofNat n) =
    if n < 0x80 then some ⟨0, n, 0x80, 0xbf⟩
    else if 0xc2 ≤ n ∧ n ≤ 0xdf then some ⟨1, n - 0xc0, 0x80, 0xbf⟩
    else if n = 0xe0 then some ⟨2, 0, 0xa0, 0xbf⟩
    else if n = 0xed then some ⟨2, 0xd, 0x80, 0x9f⟩
    else if 0xe1 ≤ n ∧ n ≤ 0xef then some ⟨2, n - 0xe0, 0x80, 0xbf⟩
    else if n = 0xf0 then some ⟨3, 0, 0x90, 0xbf⟩
    else if 0xf1 ≤ n ∧ n ≤ 0xf3 then some ⟨3, n - 0xf0, 0x80, 0xbf⟩
    else if n = 0xf4 then some ⟨3, 4, 0x80, 0x8f⟩
    else none := by
  have hbyte : (UInt8.ofNat n).toNat = n := by
    rw [UInt8.toNat_ofNat']
    omega
  rw [lead?, hbyte]

/-- The first of three bytes, and what it asks of the second. -/
theorem lead?_three {n : Nat} (hlow : 0x800 ≤ n) (hhigh : n < 0x10000)
    (hvalid : n < 0xd800 ∨ 0xdfff < n) : ∃ low high,
      lead? (UInt8.ofNat (n / 4096 % 16 + 224)) = some ⟨2, n / 4096, low, high⟩ ∧
        low.toNat ≤ n / 64 % 64 + 128 ∧ n / 64 % 64 + 128 ≤ high.toNat := by
  have hlead := lead?_ofNat (n / 4096 % 16 + 224) (by omega)
  rw [if_neg (by omega), if_neg (by omega)] at hlead
  by_cases hzero : n / 4096 = 0
  · rw [if_pos (by omega)] at hlead
    exact ⟨0xa0, 0xbf, by rw [hlead, hzero], by simp; omega, by simp; omega⟩
  · rw [if_neg (by omega)] at hlead
    by_cases hd : n / 4096 = 0xd
    · rw [if_pos (by omega)] at hlead
      exact ⟨0x80, 0x9f, by rw [hlead, hd], by simp, by simp; omega⟩
    · rw [if_neg (by omega), if_pos (by omega)] at hlead
      have hbits : n / 4096 % 16 + 224 - 0xe0 = n / 4096 := by omega
      exact ⟨0x80, 0xbf, by rw [hlead, hbits], by simp, by simp; omega⟩

/-- The first of four bytes, and what it asks of the second. -/
theorem lead?_four {n : Nat} (hlow : 0x10000 ≤ n) (hhigh : n < 0x110000) : ∃ low high,
      lead? (UInt8.ofNat (n / 262144 % 8 + 240)) = some ⟨3, n / 262144, low, high⟩ ∧
        low.toNat ≤ n / 4096 % 64 + 128 ∧ n / 4096 % 64 + 128 ≤ high.toNat := by
  have hlead := lead?_ofNat (n / 262144 % 8 + 240) (by omega)
  rw [if_neg (by omega), if_neg (by omega), if_neg (by omega), if_neg (by omega),
    if_neg (by omega)] at hlead
  by_cases hzero : n / 262144 = 0
  · rw [if_pos (by omega)] at hlead
    exact ⟨0x90, 0xbf, by rw [hlead, hzero], by simp; omega, by simp; omega⟩
  · rw [if_neg (by omega)] at hlead
    by_cases hfour : n / 262144 = 4
    · rw [if_neg (by omega), if_pos (by omega)] at hlead
      exact ⟨0x80, 0x8f, by rw [hlead, hfour], by simp, by simp; omega⟩
    · rw [if_pos (by omega)] at hlead
      have hbits : n / 262144 % 8 + 240 - 0xf0 = n / 262144 := by omega
      exact ⟨0x80, 0xbf, by rw [hlead, hbits], by simp, by simp; omega⟩

/-- A character is read back from its bytes, whatever follows them. -/
theorem readChar_utf8EncodeChar (c : Char) (tail : List UInt8) :
    ∃ b rest, String.utf8EncodeChar c = b :: rest ∧ readChar b (rest ++ tail) = (some c, tail) := by
  have hvalid : c.toNat < 0xd800 ∨ 0xdfff < c.toNat ∧ c.toNat < 0x110000 := c.valid
  have hc : Char.ofNat c.toNat = c := Char.ofNat_toNat c
  have hval : c.val.toNat = c.toNat := rfl
  simp only [String.utf8EncodeChar, hval]
  generalize c.toNat = n at hvalid hc
  subst hc
  split
  · next hone =>
    have hlead := lead?_ofNat n (by omega)
    rw [if_pos (by omega)] at hlead
    exact ⟨_, _, rfl, readChar_of_lead hlead rfl⟩
  · split
    · next hone htwo =>
      have hlead := lead?_ofNat (n / 64 % 32 + 192) (by omega)
      rw [if_neg (by omega), if_pos (by omega)] at hlead
      refine ⟨_, _, rfl, readChar_of_lead hlead ?_⟩
      dsimp only [List.cons_append, List.nil_append]
      rw [readTail_cons tail (by omega) (by simp) (by simp; omega), readTail]
      congr 2
      omega
    · split
      · next hone htwo hthree =>
        obtain ⟨low, high, hlead, hlow, hhigh⟩ :=
          lead?_three (n := n) (by omega) (by omega) (by omega)
        refine ⟨_, _, rfl, readChar_of_lead hlead ?_⟩
        dsimp only [List.cons_append, List.nil_append]
        rw [readTail_cons _ (by omega) hlow hhigh,
          readTail_cons tail (by omega) (by simp) (by simp; omega), readTail]
        congr 2
        omega
      · next hone htwo hthree =>
        obtain ⟨low, high, hlead, hlow, hhigh⟩ := lead?_four (n := n) (by omega) (by omega)
        refine ⟨_, _, rfl, readChar_of_lead hlead ?_⟩
        dsimp only [List.cons_append, List.nil_append]
        rw [readTail_cons _ (by omega) hlow hhigh,
          readTail_cons _ (by omega) (by simp) (by simp; omega),
          readTail_cons tail (by omega) (by simp) (by simp; omega), readTail]
        congr 2
        omega

theorem decode?_flatMap (l : List Char) : decode? (l.flatMap String.utf8EncodeChar) = some l := by
  induction l with
  | nil => simp [decode?]
  | cons c rest ih =>
    obtain ⟨b, more, hbytes, hread⟩ :=
      readChar_utf8EncodeChar c (rest.flatMap String.utf8EncodeChar)
    rw [List.flatMap_cons, hbytes, List.cons_append, decode?, hread]
    simp [ih]

theorem decodeLossy_flatMap (l : List Char) :
    decodeLossy (l.flatMap String.utf8EncodeChar) = l := by
  induction l with
  | nil => simp [decodeLossy]
  | cons c rest ih =>
    obtain ⟨b, more, hbytes, hread⟩ :=
      readChar_utf8EncodeChar c (rest.flatMap String.utf8EncodeChar)
    rw [List.flatMap_cons, hbytes, List.cons_append, decodeLossy, hread]
    simp [ih]

theorem fault?_flatMap (l : List Char) : fault? (l.flatMap String.utf8EncodeChar) = none := by
  have hfrom : ∀ index, faultFrom? index (l.flatMap String.utf8EncodeChar) = none := by
    induction l with
    | nil => intro index; simp [faultFrom?]
    | cons c rest ih =>
      intro index
      obtain ⟨b, more, hbytes, hread⟩ :=
        readChar_utf8EncodeChar c (rest.flatMap String.utf8EncodeChar)
      rw [List.flatMap_cons, hbytes, List.cons_append, faultFrom?, hread]
      exact ih _
  exact hfrom 0

theorem encode_append (s t : String) : encode (s ++ t) = encode s ++ encode t := by
  rw [encode_eq_flatMap, String.toList_append, List.flatMap_append, ← encode_eq_flatMap,
    ← encode_eq_flatMap]

theorem encode_ofList (l : List Char) :
    encode (String.ofList l) = l.flatMap String.utf8EncodeChar := by
  rw [encode_eq_flatMap, String.toList_ofList]

/-- A text is read back from its bytes. -/
@[simp] theorem string?_encode (s : String) : string? (encode s) = some s := by
  simp [string?, encode_eq_flatMap, decode?_flatMap]

/-- The lenient reader reads a text back from its bytes as well. -/
@[simp] theorem lossy_encode (s : String) : lossy (encode s) = s := by
  simp [lossy, encode_eq_flatMap, decodeLossy_flatMap]

/-! Characters of one byte. -/

/-- A byte below 128 among the bytes of a character is the character. -/
theorem toNat_of_mem_utf8EncodeChar {c : Char} {b : UInt8} (hb : b.toNat < 128)
    (h : b ∈ String.utf8EncodeChar c) : c.toNat = b.toNat := by
  have hval : c.val.toNat = c.toNat := rfl
  have hlarge : ∀ n : Nat, 128 ≤ n → n < 256 → b ≠ UInt8.ofNat n := by
    rintro n hlow hhigh rfl
    rw [UInt8.toNat_ofNat'] at hb
    omega
  simp only [String.utf8EncodeChar, hval] at h
  split at h
  · rw [List.mem_singleton.mp h, UInt8.toNat_ofNat']
    omega
  · split at h
    · simp only [List.mem_cons, List.not_mem_nil, or_false] at h
      rcases h with h | h
      · exact absurd h (hlarge _ (by omega) (by omega))
      · exact absurd h (hlarge _ (by omega) (by omega))
    · split at h
      · simp only [List.mem_cons, List.not_mem_nil, or_false] at h
        rcases h with h | h | h
        · exact absurd h (hlarge _ (by omega) (by omega))
        · exact absurd h (hlarge _ (by omega) (by omega))
        · exact absurd h (hlarge _ (by omega) (by omega))
      · simp only [List.mem_cons, List.not_mem_nil, or_false] at h
        rcases h with h | h | h | h
        · exact absurd h (hlarge _ (by omega) (by omega))
        · exact absurd h (hlarge _ (by omega) (by omega))
        · exact absurd h (hlarge _ (by omega) (by omega))
        · exact absurd h (hlarge _ (by omega) (by omega))

theorem ofNat_toNat_inj {b c : UInt8} (h : Char.ofNat b.toNat = Char.ofNat c.toNat) : b = c := by
  have hvalid : ∀ x : UInt8, (Char.ofNat x.toNat).toNat = x.toNat := by
    intro x
    have hx := x.toNat_lt
    have hchar : x.toNat.isValidChar := .inl (by omega)
    have hval : Char.ofNat x.toNat = Char.ofNatAux x.toNat hchar := dif_pos hchar
    rw [hval]
    rfl
  rw [← UInt8.toNat_inj, ← hvalid b, h, hvalid c]

theorem mem_of_mem_encode {s : String} {b : UInt8} (hb : b.toNat < 128) (h : b ∈ encode s) :
    Char.ofNat b.toNat ∈ s.toList := by
  rw [encode_eq_flatMap] at h
  obtain ⟨c, hc, hmem⟩ := List.mem_flatMap.mp h
  rw [← toNat_of_mem_utf8EncodeChar hb hmem, Char.ofNat_toNat]
  exact hc

theorem utf8EncodeChar_ofNat : ∀ n : Fin 128,
    String.utf8EncodeChar (Char.ofNat n) = [UInt8.ofNat n] := by decide

/-- A text of characters of one byte is encoded as their numbers. -/
theorem encode_of_small {s : String} (h : ∀ c ∈ s.toList, c.toNat < 128) :
    encode s = s.toList.map fun c => UInt8.ofNat c.toNat := by
  rw [encode_eq_flatMap]
  generalize s.toList = l at h
  induction l with
  | nil => rfl
  | cons c rest ih =>
    have hc := utf8EncodeChar_ofNat ⟨c.toNat, h c List.mem_cons_self⟩
    simp only [Char.ofNat_toNat] at hc
    rw [List.flatMap_cons, hc, ih fun d hd => h d (List.mem_cons_of_mem c hd)]
    rfl

/-- The characters of the bytes of a text of characters of one byte are that text. -/
theorem ofList_map_encode {s : String} (h : ∀ c ∈ s.toList, c.toNat < 128) :
    String.ofList ((encode s).map fun b => Char.ofNat b.toNat) = s := by
  have hchar : ∀ c ∈ s.toList,
      ((fun b : UInt8 => Char.ofNat b.toNat) ∘ fun c => UInt8.ofNat c.toNat) c = c := by
    intro c hc
    have hsmall := Nat.lt_trans (h c hc) (show 128 < 256 by decide)
    simp [Nat.mod_eq_of_lt hsmall]
  rw [encode_of_small h, List.map_map, List.map_congr_left hchar, List.map_id',
    String.ofList_toList]

/-- Bytes below 128 are those of the text of their characters. -/
theorem encode_ofList_map {bytes : List UInt8} (h : ∀ b ∈ bytes, b.toNat < 128) :
    encode (String.ofList (bytes.map fun b => Char.ofNat b.toNat)) = bytes := by
  rw [encode_ofList]
  induction bytes with
  | nil => rfl
  | cons b rest ih =>
    have hb := utf8EncodeChar_ofNat ⟨b.toNat, h b List.mem_cons_self⟩
    simp only [UInt8.ofNat_toNat] at hb
    rw [List.map_cons, List.flatMap_cons, hb, ih fun c hc => h c (List.mem_cons_of_mem b hc)]
    rfl

theorem toNat_lt_of_isAlphanum {c : Char} (h : c.isAlphanum = true) : c.toNat < 128 := by
  have hval : c.val.toNat = c.toNat := rfl
  have hletter : c.isAlpha = (decide (c.val ≥ 65 ∧ c.val ≤ 90) ||
    (decide (c.val ≥ 97) && decide (c.val ≤ 122))) := rfl
  simp only [Char.isAlphanum, hletter, Char.isDigit, Bool.or_eq_true, Bool.and_eq_true,
    decide_eq_true_eq, ge_iff_le, UInt32.le_iff_toNat_le, hval] at h
  rcases h with (⟨_, h⟩ | ⟨_, h⟩) | ⟨_, h⟩
  · exact Nat.lt_of_le_of_lt h (by decide)
  · exact Nat.lt_of_le_of_lt h (by decide)
  · exact Nat.lt_of_le_of_lt h (by decide)

/-- A text of characters of one byte has as many bytes as characters. -/
theorem utf8ByteSize_of_small {s : String} (h : ∀ c ∈ s.toList, c.toNat < 128) :
    s.utf8ByteSize = s.toList.length := by
  have hsize : s.utf8ByteSize = (encode s).length := by
    rw [encode, toList_eq_data]
    rfl
  rw [hsize, encode_of_small h, List.length_map]

end ConfigRegistry.Coding.Utf8
