import ConfigRegistry.Json.Text
import ConfigRegistry.Proofs.Coding.Utf8
import ConfigRegistry.Proofs.Json.Reading

/-!
Strings are read back from their text. A text is a row of runs of characters that stand for
themselves, with an escape behind each run but the last.
-/
namespace ConfigRegistry.Json.Text

open ConfigRegistry.Coding

def isUnescaped (c : Char) : Bool := c != '"' && c != '\\' && 0x20 ≤ c.toNat

theorem escapeChar_of_isUnescaped {c : Char} (h : isUnescaped c = true) : escapeChar c = [c] := by
  simp only [isUnescaped, Bool.and_eq_true, bne_iff_ne, ne_eq, decide_eq_true_eq] at h
  obtain ⟨⟨hquote, hslash⟩, hlow⟩ := h
  have hne : ∀ d : Char, d.toNat < 0x20 → c ≠ d := by
    rintro d hd rfl
    omega
  rw [escapeChar, if_neg hquote, if_neg hslash, if_neg (hne _ (by decide)),
    if_neg (hne _ (by decide)), if_neg (hne _ (by decide)), if_neg (hne _ (by decide)),
    if_neg (hne _ (by decide)), if_neg (by omega)]

/-- No byte of a character that needs no escape ends a string or begins an escape. -/
theorem isPlain_of_isUnescaped {c : Char} (h : isUnescaped c = true) {b : UInt8}
    (hb : b ∈ String.utf8EncodeChar c) : isPlain b = true := by
  simp only [isUnescaped, Bool.and_eq_true, bne_iff_ne, ne_eq, decide_eq_true_eq] at h
  obtain ⟨⟨hquote, hslash⟩, hlow⟩ := h
  have hchar : b.toNat < 128 → c.toNat = b.toNat := fun hsmall =>
    Utf8.toNat_of_mem_utf8EncodeChar hsmall hb
  have hne : ∀ d : Char, d.toNat < 128 → c ≠ d → b.toNat ≠ d.toNat := by
    intro d hd hcd hbd
    exact hcd (Char.toNat_inj.mp ((hchar (by omega)).trans hbd))
  have hquote' : b ≠ 0x22 := fun heq => hne '"' (by decide) hquote (by rw [heq]; rfl)
  have hslash' : b ≠ 0x5c := fun heq => hne '\\' (by decide) hslash (by rw [heq]; rfl)
  have hlow' : (0x20 : UInt8) ≤ b := by
    rw [UInt8.le_iff_toNat_le]
    by_cases hsmall : b.toNat < 128
    · rw [← hchar hsmall]
      exact hlow
    · show 32 ≤ b.toNat
      omega
  simp [isPlain, hquote', hslash', hlow']

/-- A run of characters is read up to the quote or the backslash behind it. -/
theorem reads_readRun {l : List Char} (hl : ∀ c ∈ l, isUnescaped c = true) {b : UInt8}
    (hb : b = 0x22 ∨ b = 0x5c) (left : List UInt8) :
    Reads readRun (l.flatMap String.utf8EncodeChar ++ b :: left) l (b :: left) := by
  intro c hc
  have hplain : ∀ x ∈ l.flatMap String.utf8EncodeChar, isPlain x = true := by
    intro x hx
    obtain ⟨d, hd, hx⟩ := List.mem_flatMap.mp hx
    exact isPlain_of_isUnescaped (hl d hd) hx
  have hmark : isPlain b = false ∧ ¬ b < 0x20 := by
    rcases hb with rfl | rfl <;> decide
  have hrun : c.rest.takeWhile isPlain = l.flatMap String.utf8EncodeChar := by
    rw [hc, List.takeWhile_append_of_pos hplain, List.takeWhile_cons_of_neg (by simp [hmark.1]),
      List.append_nil]
  have hafter : (c.advanceBy (l.flatMap String.utf8EncodeChar).length).rest = b :: left := by
    rw [Cursor.rest_advanceBy, hc, List.drop_left]
  refine ⟨_, ?_, hafter⟩
  simp only [readRun, hrun, hafter, if_neg hmark.2, Utf8.fault?_flatMap, Utf8.decodeLossy_flatMap]

/-! Escapes. -/

def escapeBytes (c : Char) : List UInt8 := (escapeChar c).flatMap String.utf8EncodeChar

theorem escapeBytes_control : ∀ n : Fin 32,
    let bytes := escapeBytes (Char.ofNat n)
    (bytes = [0x5c, bytes.getD 1 0] ∧ plainEscape? (bytes.getD 1 0) = some (Char.ofNat n)) ∨
      (bytes = 0x5c :: 0x75 :: bytes.drop 2 ∧ (bytes.drop 2).length = 4 ∧
        hexValue 0 (bytes.drop 2) = some n.val) := by decide

/-- A character that does not stand for itself is written with a letter or with its number. -/
theorem escapeBytes_cases {c : Char} (h : isUnescaped c = false) :
    (∃ b, escapeBytes c = [0x5c, b] ∧ plainEscape? b = some c) ∨
      ∃ digits, escapeBytes c = 0x5c :: 0x75 :: digits ∧ digits.length = 4 ∧
        hexValue 0 digits = some c.toNat ∧ c.toNat < 0x20 := by
  by_cases hlow : c.toNat < 0x20
  · rcases escapeBytes_control ⟨c.toNat, hlow⟩ with ⟨hbytes, hplain⟩ | ⟨hbytes, hlength, hvalue⟩
    · rw [Char.ofNat_toNat] at hbytes hplain
      exact .inl ⟨_, hbytes, hplain⟩
    · rw [Char.ofNat_toNat] at hbytes hlength hvalue
      exact .inr ⟨_, hbytes, hlength, hvalue, hlow⟩
  · have hmark : c = '"' ∨ c = '\\' := by
      by_cases hquote : c = '"'
      · exact .inl hquote
      · by_cases hslash : c = '\\'
        · exact .inr hslash
        · have hplain : isUnescaped c = true := by
            simp [isUnescaped, hquote, hslash, Nat.le_of_not_lt hlow]
          rw [h] at hplain
          contradiction
    rcases hmark with rfl | rfl
    · exact .inl ⟨0x22, rfl, rfl⟩
    · exact .inl ⟨0x5c, rfl, rfl⟩

theorem reads_readHex {digits : List UInt8} {n : Nat} (hlength : digits.length = 4)
    (hvalue : hexValue 0 digits = some n) (left : List UInt8) :
    Reads readHex (digits ++ left) n left := by
  intro c hc
  have hdigits : c.rest.take 4 = digits := by rw [hc, List.take_left' hlength]
  refine ⟨c.advanceBy digits.length, ?_, ?_⟩
  · simp only [readHex, hdigits, hlength, hvalue, Nat.lt_irrefl, if_false]
  · rw [Cursor.rest_advanceBy, hc, List.drop_left]

theorem reads_readNumbered {digits : List UInt8} {c : Char} (hlength : digits.length = 4)
    (hvalue : hexValue 0 digits = some c.toNat) (hlow : c.toNat < 0x20) (left : List UInt8) :
    Reads readNumbered (digits ++ left) c left := by
  have htrailing : isTrailingSurrogate c.toNat = false := by
    simp [isTrailingSurrogate]
    omega
  have hleading : isLeadingSurrogate c.toNat = false := by
    simp [isLeadingSurrogate]
    omega
  refine (reads_readHex hlength hvalue left).bind ?_
  simp only [htrailing, hleading, Char.ofNat_toNat]
  exact Reads.pure c left

/-- An escape is read back behind its backslash. -/
theorem reads_readEscape {c : Char} (h : isUnescaped c = false) (left : List UInt8) :
    ∃ tail, escapeBytes c ++ left = 0x5c :: tail ∧ Reads readEscape tail c left := by
  rcases escapeBytes_cases h with ⟨b, hbytes, hplain⟩ | ⟨digits, hbytes, hlength, hvalue, hlow⟩
  · refine ⟨b :: left, by rw [hbytes]; rfl, (Reads.next b left).bind ?_⟩
    simp only [hplain]
    exact Reads.pure c left
  · refine ⟨0x75 :: (digits ++ left), by rw [hbytes]; rfl, (Reads.next 0x75 _).bind ?_⟩
    exact reads_readNumbered hlength hvalue hlow left

/-! Whole strings. -/

theorem reads_step_quote {l : List Char} (hl : ∀ c ∈ l, isUnescaped c = true) (s : String)
    (left : List UInt8) : Reads (step s) (l.flatMap String.utf8EncodeChar ++ 0x22 :: left)
      (.inr (s ++ String.ofList l)) left := by
  refine (reads_readRun hl (.inl rfl) left).bind ((Reads.next 0x22 left).bind ?_)
  exact Reads.pure _ left

theorem reads_step_escape {l : List Char} (hl : ∀ c ∈ l, isUnescaped c = true) {c : Char}
    (hc : isUnescaped c = false) (s : String) (left : List UInt8) :
    Reads (step s) (l.flatMap String.utf8EncodeChar ++ (escapeBytes c ++ left))
      (.inl ((s ++ String.ofList l).push c)) left := by
  obtain ⟨tail, hbytes, hescape⟩ := reads_readEscape hc left
  rw [hbytes]
  refine (reads_readRun hl (.inr rfl) tail).bind ((Reads.next 0x5c tail).bind ?_)
  exact hescape.bind (Reads.pure _ left)

def escapedBytes (l : List Char) : List UInt8 := l.flatMap escapeBytes

theorem escapedBytes_append (l l' : List Char) :
    escapedBytes (l ++ l') = escapedBytes l ++ escapedBytes l' := List.flatMap_append

theorem escapedBytes_of_isUnescaped {l : List Char} (hl : ∀ c ∈ l, isUnescaped c = true) :
    escapedBytes l = l.flatMap String.utf8EncodeChar := by
  induction l with
  | nil => rfl
  | cons c rest ih =>
    rw [escapedBytes, List.flatMap_cons, List.flatMap_cons, escapeBytes,
      escapeChar_of_isUnescaped (hl c List.mem_cons_self), List.flatMap_singleton]
    exact congrArg _ (ih fun c hc => hl c (List.mem_cons_of_mem _ hc))

/-- Characters are a run of those that stand for themselves, and an escape unless they end there. -/
theorem runs_cases (l : List Char) :
    (∀ c ∈ l, isUnescaped c = true) ∨ ∃ run c rest, l = run ++ c :: rest ∧
      (∀ c ∈ run, isUnescaped c = true) ∧ isUnescaped c = false := by
  induction l with
  | nil => exact .inl (by simp)
  | cons d l ih =>
    by_cases hd : isUnescaped d = true
    · rcases ih with hl | ⟨run, c, rest, rfl, hrun, hc⟩
      · exact .inl fun c hc => (List.mem_cons.mp hc).elim (fun heq => heq ▸ hd) (hl c)
      · exact .inr ⟨d :: run, c, rest, rfl,
          fun c hc => (List.mem_cons.mp hc).elim (fun heq => heq ▸ hd) (hrun c), hc⟩
    · exact .inr ⟨[], d, l, rfl, by simp, by simpa using hd⟩

/-- The escaped characters of a text are read back, behind what was read before them. -/
theorem reads_loop (l : List Char) (s : String) (left : List UInt8) {fuel : Nat}
    (hfuel : l.length < fuel) : Reads (Read.loop step fuel s) (escapedBytes l ++ 0x22 :: left)
      (s ++ String.ofList l) left := by
  obtain ⟨fuel, rfl⟩ : ∃ n, fuel = n + 1 := ⟨fuel - 1, by omega⟩
  induction hlength : l.length using Nat.strongRecOn generalizing l s fuel with
  | ind n ih =>
    rcases runs_cases l with hl | ⟨run, c, rest, rfl, hrun, hc⟩
    · rw [escapedBytes_of_isUnescaped hl]
      exact (reads_step_quote hl s left).loop_done
    · rw [List.length_append, List.length_cons] at hfuel hlength
      obtain ⟨fuel, rfl⟩ : ∃ n, fuel = n + 1 := ⟨fuel - 1, by omega⟩
      have hrest := ih rest.length (by omega) rest ((s ++ String.ofList run).push c) fuel
        (by omega) rfl
      have htext : (s ++ String.ofList run).push c ++ String.ofList rest =
          s ++ String.ofList (run ++ c :: rest) := by
        apply String.toList_inj.mp
        simp
      rw [htext] at hrest
      rw [escapedBytes_append, escapedBytes_of_isUnescaped hrun, escapedBytes, List.flatMap_cons,
        List.append_assoc, List.append_assoc]
      exact (reads_step_escape hrun hc s _).loop_next hrest

theorem length_le_escapedBytes (l : List Char) : l.length ≤ (escapedBytes l).length := by
  induction l with
  | nil => exact Nat.le_refl 0
  | cons c rest ih =>
    have hc : 0 < (escapeBytes c).length := by
      by_cases h : isUnescaped c = true
      · obtain ⟨b, more, hbytes, _⟩ := Utf8.readChar_utf8EncodeChar c []
        simp [escapeBytes, escapeChar_of_isUnescaped h, hbytes]
      · rcases escapeBytes_cases (by simpa using h) with ⟨b, hbytes, _⟩ | ⟨digits, hbytes, _⟩
        · simp [hbytes]
        · simp [hbytes]
    rw [escapedBytes, List.flatMap_cons, List.length_append, List.length_cons]
    have hrest : rest.length ≤ (rest.flatMap escapeBytes).length := ih
    omega

/-- A string is read back behind its opening quote. -/
theorem reads_read (s : String) (left : List UInt8) :
    Reads read (escapedBytes s.toList ++ 0x22 :: left) s left := by
  have hfuel : s.toList.length < (escapedBytes s.toList ++ 0x22 :: left).length + 1 := by
    have hlength := length_le_escapedBytes s.toList
    rw [List.length_append]
    omega
  refine Reads.iterate ?_
  simpa using reads_loop s.toList "" left hfuel

theorem encode_quote (s : String) :
    Utf8.encode (quote s) = 0x22 :: (escapedBytes s.toList ++ [0x22]) := by
  have hquote : String.utf8EncodeChar '"' = [0x22] := by decide
  have hescaped : (s.toList.flatMap escapeChar).flatMap String.utf8EncodeChar =
      escapedBytes s.toList := List.flatMap_assoc
  rw [quote, Utf8.encode_ofList, List.flatMap_append, List.flatMap_cons, hescaped, hquote]
  simp [hquote]

end ConfigRegistry.Json.Text
