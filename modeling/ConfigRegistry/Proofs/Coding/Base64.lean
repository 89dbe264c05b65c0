import ConfigRegistry.Coding.Base64

/-!
Bytes are read back from their base 64 text. The text has letters, digits and the two signs of its
alphabet, and no other characters.
-/
namespace ConfigRegistry.Coding.Base64

/-- Every number below 64 is read back from its character. -/
def Alphabet.Faithful (a : Alphabet) : Prop := ∀ n : Fin 64, a.value? (a.char n) = some n.val

theorem faithful_standard : standard.Faithful := by
  unfold Alphabet.Faithful
  decide

theorem faithful_urlSafe : urlSafe.Faithful := by
  unfold Alphabet.Faithful
  decide

variable {a : Alphabet}

theorem Alphabet.Faithful.value?_char (ha : a.Faithful) {n : Nat} (hn : n < 64) :
    a.value? (a.char n) = some n := ha ⟨n, hn⟩

/-- The numbers that stand for bytes, six bits each, the last ones filled up with zeros. -/
def sextets : List UInt8 → List Nat
  | [] => []
  | [x] => [x.toNat / 4, x.toNat % 4 * 16]
  | [x, y] => [x.toNat / 4, x.toNat % 4 * 16 + y.toNat / 16, y.toNat % 16 * 4]
  | x :: y :: z :: rest =>
    x.toNat / 4 :: (x.toNat % 4 * 16 + y.toNat / 16) :: (y.toNat % 16 * 4 + z.toNat / 64) ::
      z.toNat % 64 :: sextets rest

theorem encodeBytes_eq (a : Alphabet) (bytes : List UInt8) :
    encodeBytes a bytes = (sextets bytes).map a.char := by
  induction bytes using sextets.induct with
  | case1 => rfl
  | case2 x => rfl
  | case3 x y => rfl
  | case4 x y z rest ih => simp [encodeBytes, sextets, ih]

theorem sextets_lt (bytes : List UInt8) : ∀ n ∈ sextets bytes, n < 64 := by
  induction bytes using sextets.induct with
  | case1 => simp [sextets]
  | case2 x =>
    have hx := x.toNat_lt
    simp only [sextets, List.mem_cons, List.not_mem_nil, or_false]
    rintro n (rfl | rfl) <;> omega
  | case3 x y =>
    have hx := x.toNat_lt
    have hy := y.toNat_lt
    simp only [sextets, List.mem_cons, List.not_mem_nil, or_false]
    rintro n (rfl | rfl | rfl) <;> omega
  | case4 x y z rest ih =>
    have hx := x.toNat_lt
    have hy := y.toNat_lt
    have hz := z.toNat_lt
    simp only [sextets, List.mem_cons]
    rintro n (rfl | rfl | rfl | rfl | hn)
    · omega
    · omega
    · omega
    · omega
    · exact ih n hn

theorem ofNat_eq {b : UInt8} {n : Nat} (h : n = b.toNat) : UInt8.ofNat n = b := by
  rw [h, UInt8.ofNat_toNat]

/-- Bytes cut into groups of six bits are put together again, with any padding left out. -/
theorem decodeValues_sextets (bytes : List UInt8) : decodeValues (sextets bytes) = some bytes := by
  induction bytes using sextets.induct with
  | case1 => rfl
  | case2 x =>
    have hx := x.toNat_lt
    have hfirst : UInt8.ofNat (x.toNat / 4 * 4 + x.toNat % 4 * 16 / 16) = x := ofNat_eq (by omega)
    have hzero : x.toNat % 4 * 16 % 16 = 0 := by omega
    simp only [sextets, decodeValues, hzero, if_true, hfirst]
  | case3 x y =>
    have hx := x.toNat_lt
    have hy := y.toNat_lt
    have hfirst : UInt8.ofNat (x.toNat / 4 * 4 + (x.toNat % 4 * 16 + y.toNat / 16) / 16) = x :=
      ofNat_eq (by omega)
    have hsecond : UInt8.ofNat ((x.toNat % 4 * 16 + y.toNat / 16) % 16 * 16 +
        y.toNat % 16 * 4 / 4) = y := ofNat_eq (by omega)
    have hzero : y.toNat % 16 * 4 % 4 = 0 := by omega
    simp only [sextets, decodeValues, hzero, if_true, hfirst, hsecond]
  | case4 x y z rest ih =>
    have hx := x.toNat_lt
    have hy := y.toNat_lt
    have hz := z.toNat_lt
    have hfirst : UInt8.ofNat (x.toNat / 4 * 4 + (x.toNat % 4 * 16 + y.toNat / 16) / 16) = x :=
      ofNat_eq (by omega)
    have hsecond : UInt8.ofNat ((x.toNat % 4 * 16 + y.toNat / 16) % 16 * 16 +
        (y.toNat % 16 * 4 + z.toNat / 64) / 4) = y := ofNat_eq (by omega)
    have hthird : UInt8.ofNat ((y.toNat % 16 * 4 + z.toNat / 64) % 4 * 64 + z.toNat % 64) = z :=
      ofNat_eq (by omega)
    simp only [sextets, decodeValues, ih, hfirst, hsecond, hthird, Option.bind_eq_bind,
      Option.bind_some, Option.pure_def]

theorem mapM_value?_char (ha : a.Faithful) {l : List Nat} (h : ∀ n ∈ l, n < 64) :
    (l.map a.char).mapM a.value? = some l := by
  induction l with
  | nil => rfl
  | cons n rest ih =>
    rw [List.map_cons, List.mapM_cons, ha.value?_char (h n List.mem_cons_self),
      ih fun m hm => h m (List.mem_cons_of_mem n hm)]
    rfl

/-- Bytes are read back from their text. -/
theorem decode_encode (ha : a.Faithful) (bytes : List UInt8) :
    decode a (encode a bytes) = some bytes := by
  rw [decode, encode, String.toList_ofList, encodeBytes_eq, mapM_value?_char ha (sextets_lt bytes),
    Option.bind_some, decodeValues_sextets]

/-- A text has only characters of its alphabet. -/
theorem mem_encode {bytes : List UInt8} {c : Char} (h : c ∈ (encode a bytes).toList) :
    ∃ n < 64, c = a.char n := by
  rw [encode, String.toList_ofList, encodeBytes_eq] at h
  obtain ⟨n, hn, rfl⟩ := List.mem_map.mp h
  exact ⟨n, sextets_lt bytes n hn, rfl⟩

/-- How long the text of bytes is: four characters for three bytes. -/
theorem length_sextets (bytes : List UInt8) :
    3 * (sextets bytes).length ≤ 4 * bytes.length + 2 ∧
      4 * bytes.length ≤ 3 * (sextets bytes).length := by
  induction bytes using sextets.induct with
  | case1 => simp [sextets]
  | case2 x => simp [sextets]
  | case3 x y => simp [sextets]
  | case4 x y z rest ih =>
    simp only [sextets, List.length_cons]
    omega

theorem length_encode (a : Alphabet) (bytes : List UInt8) :
    3 * (encode a bytes).toList.length ≤ 4 * bytes.length + 2 ∧
      4 * bytes.length ≤ 3 * (encode a bytes).toList.length := by
  rw [encode, String.toList_ofList, encodeBytes_eq, List.length_map]
  exact length_sextets bytes

def isUrlSafe (c : Char) : Bool := c.isAlphanum || c == '-' || c == '_'

theorem isUrlSafe_char : ∀ n : Fin 64, isUrlSafe (urlSafe.char n) = true := by decide

theorem isUrlSafe_of_mem_encode {bytes : List UInt8} {c : Char}
    (h : c ∈ (encode urlSafe bytes).toList) : isUrlSafe c = true := by
  obtain ⟨n, hn, rfl⟩ := mem_encode h
  exact isUrlSafe_char ⟨n, hn⟩

/-! One text for all bytes. -/

theorem charOfNat_eq {c : Char} {n : Nat} (h : n = c.toNat) : Char.ofNat n = c := by
  rw [h, Char.ofNat_toNat]

/-- A character has the number by which it is written, and no other. -/
theorem Alphabet.char_of_value? {c : Char} {n : Nat} (h : a.value? c = some n) :
    n < 64 ∧ a.char n = c := by
  have hbounds : ∀ {x y : Char}, x ≤ c ∧ c ≤ y → x.toNat ≤ c.toNat ∧ c.toNat ≤ y.toNat :=
    fun h => h
  unfold value? at h
  split at h
  · next hupper =>
    have hc := hbounds hupper
    simp only [Char.reduceToNat] at hc
    obtain rfl := Option.some.inj h
    refine ⟨by omega, ?_⟩
    rw [char, if_pos (by omega)]
    exact charOfNat_eq (by omega)
  · split at h
    · next hlower =>
      have hc := hbounds hlower
      simp only [Char.reduceToNat] at hc
      obtain rfl := Option.some.inj h
      refine ⟨by omega, ?_⟩
      rw [char, if_neg (by omega), if_pos (by omega)]
      exact charOfNat_eq (by omega)
    · split at h
      · next hdigit =>
        have hc := hbounds hdigit
        simp only [Char.reduceToNat] at hc
        obtain rfl := Option.some.inj h
        refine ⟨by omega, ?_⟩
        rw [char, if_neg (by omega), if_neg (by omega), if_pos (by omega)]
        exact charOfNat_eq (by omega)
      · split at h
        · next hplus =>
          obtain rfl := Option.some.inj h
          exact ⟨by omega, hplus.symm⟩
        · split at h
          · next hslash =>
            obtain rfl := Option.some.inj h
            exact ⟨by omega, hslash.symm⟩
          · contradiction

/-- A text that can be read as numbers is the text that these numbers are written as. -/
theorem map_char_of_mapM_value? {chars : List Char} {l : List Nat}
    (h : chars.mapM a.value? = some l) : (∀ n ∈ l, n < 64) ∧ l.map a.char = chars := by
  induction chars generalizing l with
  | nil =>
    obtain rfl : [] = l := by simpa using h
    exact ⟨by simp, rfl⟩
  | cons c rest ih =>
    rw [List.mapM_cons] at h
    obtain ⟨n, hn, h⟩ := Option.bind_eq_some_iff.mp h
    obtain ⟨l', hl', h⟩ := Option.bind_eq_some_iff.mp h
    obtain rfl := Option.some.inj h
    obtain ⟨hlt, hchar⟩ := Alphabet.char_of_value? hn
    obtain ⟨hrest, hmap⟩ := ih hl'
    refine ⟨?_, by rw [List.map_cons, hchar, hmap]⟩
    intro m hm
    rcases List.mem_cons.mp hm with rfl | hm
    · exact hlt
    · exact hrest m hm

/-- Numbers are read as bytes only if they are those that the bytes are written with: the bits that
fill up the last number have to be zero. -/
theorem sextets_of_decodeValues {l : List Nat} {bytes : List UInt8} (hl : ∀ n ∈ l, n < 64)
    (h : decodeValues l = some bytes) : sextets bytes = l := by
  have hbyte : ∀ {n : Nat}, n < 256 → (UInt8.ofNat n).toNat = n := fun hn =>
    UInt8.toNat_ofNat_of_lt' hn
  induction l using decodeValues.induct generalizing bytes with
  | case1 =>
    obtain rfl : [] = bytes := by simpa [decodeValues] using h
    rfl
  | case2 => simp [decodeValues] at h
  | case3 p q hzero =>
    have hp := hl p (by simp)
    have hq := hl q (by simp)
    simp only [decodeValues, if_pos hzero] at h
    obtain rfl := Option.some.inj h
    simp only [sextets, hbyte (show p * 4 + q / 16 < 256 by omega), List.cons.injEq, and_true]
    omega
  | case4 p q hzero => simp [decodeValues, hzero] at h
  | case5 p q r hzero =>
    have hp := hl p (by simp)
    have hq := hl q (by simp)
    have hr := hl r (by simp)
    simp only [decodeValues, if_pos hzero] at h
    obtain rfl := Option.some.inj h
    simp only [sextets, hbyte (show p * 4 + q / 16 < 256 by omega),
      hbyte (show q % 16 * 16 + r / 4 < 256 by omega), List.cons.injEq, and_true]
    omega
  | case6 p q r hzero => simp [decodeValues, hzero] at h
  | case7 p q r s rest ih =>
    have hp := hl p (by simp)
    have hq := hl q (by simp)
    have hr := hl r (by simp)
    have hs := hl s (by simp)
    simp only [decodeValues] at h
    obtain ⟨bytes', hrest, h⟩ := Option.bind_eq_some_iff.mp h
    obtain rfl := Option.some.inj h
    have hsame := ih (fun n hn => hl n (by simp [hn])) hrest
    simp only [sextets, hbyte (show p * 4 + q / 16 < 256 by omega),
      hbyte (show q % 16 * 16 + r / 4 < 256 by omega),
      hbyte (show r % 4 * 64 + s < 256 by omega), hsame, List.cons.injEq, and_true]
    omega

/-- A text that is read as bytes is the text of these bytes. -/
theorem encode_of_decode {s : String} {bytes : List UInt8} (h : decode a s = some bytes) :
    encode a bytes = s := by
  obtain ⟨l, hvalues, hbytes⟩ := Option.bind_eq_some_iff.mp h
  obtain ⟨hlt, hchars⟩ := map_char_of_mapM_value? hvalues
  rw [encode, encodeBytes_eq, sextets_of_decodeValues hlt hbytes, hchars, String.ofList_toList]

/-- Bytes have one text. -/
theorem decode_inj {s t : String} {bytes : List UInt8} (hs : decode a s = some bytes)
    (ht : decode a t = some bytes) : s = t :=
  (encode_of_decode hs).symm.trans (encode_of_decode ht)

end ConfigRegistry.Coding.Base64
