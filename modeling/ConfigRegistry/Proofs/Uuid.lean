import ConfigRegistry.Uuid

/-!
Identifiers are read back from their text, which has five groups of hexadecimal digits.
-/
namespace ConfigRegistry.Uuid

open Coding

def IsDigit (c : Char) : Prop := ∃ n : Fin 16, c = Hex.digit n

theorem isDigit_of_mem_pair {b : UInt8} {c : Char} (h : c ∈ Hex.pair b) : IsDigit c := by
  have hb := b.toNat_lt
  simp only [Hex.pair, List.mem_cons, List.not_mem_nil, or_false] at h
  rcases h with rfl | rfl
  · exact ⟨⟨b.toNat / 16, by omega⟩, rfl⟩
  · exact ⟨⟨b.toNat % 16, by omega⟩, rfl⟩

theorem digit_ne_mark : ∀ n : Fin 16,
    Hex.digit n ≠ '-' ∧ Hex.digit n ≠ '\x7b' ∧ Hex.digit n ≠ 'u' := by decide

theorem digit_visible : ∀ n : Fin 16,
    0x20 ≤ (Hex.digit n).toNat ∧ (Hex.digit n).toNat < 0x7f := by decide

def digitsAt (u : Uuid) (i n : Nat) : List Char := ((u.bytes.drop i).take n).flatMap Hex.pair

variable {u : Uuid}

theorem isDigit_of_mem_digitsAt {i n : Nat} {c : Char} (h : c ∈ u.digitsAt i n) : IsDigit c := by
  obtain ⟨b, _, hc⟩ := List.mem_flatMap.mp h
  exact isDigit_of_mem_pair hc

theorem hyphen_not_mem_digitsAt (u : Uuid) (i n : Nat) : '-' ∉ u.digitsAt i n := by
  intro h
  obtain ⟨d, hd⟩ := isDigit_of_mem_digitsAt h
  exact (digit_ne_mark d).1 hd.symm

theorem length_digitsAt {i n : Nat} (h : i + n ≤ 16) : (u.digitsAt i n).length = 2 * n := by
  have hpairs : ∀ l : List UInt8, (l.flatMap Hex.pair).length = 2 * l.length := by
    intro l
    induction l with
    | nil => rfl
    | cons b rest ih =>
      rw [List.flatMap_cons, List.length_append, ih, List.length_cons]
      show 2 + _ = _
      omega
  rw [digitsAt, hpairs, List.length_take, List.length_drop, u.length_bytes]
  omega

theorem toList_render (u : Uuid) :
    u.render.toList = u.digitsAt 0 4 ++ '-' :: (u.digitsAt 4 2 ++ '-' :: (u.digitsAt 6 2 ++
      '-' :: (u.digitsAt 8 2 ++ '-' :: u.digitsAt 10 6))) := by
  have hyphen : "-".toList = ['-'] := rfl
  simp [render, Hex.encode, digitsAt, hyphen]

/-! Reading. -/

theorem groups_of_not_mem {l : List Char} (h : '-' ∉ l) : groups l = [l] := by
  induction l with
  | nil => rfl
  | cons c rest ih =>
    simp only [List.mem_cons, not_or] at h
    obtain ⟨hc, hrest⟩ := h
    rw [groups, if_neg (Ne.symm hc), ih hrest]

theorem groups_append {l : List Char} (h : '-' ∉ l) (rest : List Char) :
    groups (l ++ '-' :: rest) = l :: groups rest := by
  induction l with
  | nil => rfl
  | cons c l ih =>
    simp only [List.mem_cons, not_or] at h
    obtain ⟨hc, hl⟩ := h
    rw [List.cons_append, groups, if_neg (Ne.symm hc), ih hl]

theorem groups_render (u : Uuid) : groups u.render.toList =
    [u.digitsAt 0 4, u.digitsAt 4 2, u.digitsAt 6 2, u.digitsAt 8 2, u.digitsAt 10 6] := by
  have hclean := hyphen_not_mem_digitsAt u
  rw [toList_render, groups_append (hclean 0 4), groups_append (hclean 4 2),
    groups_append (hclean 6 2), groups_append (hclean 8 2), groups_of_not_mem (hclean 10 6)]

/-- The digits of all groups are those of all bytes. -/
theorem flatten_groups_render (u : Uuid) :
    (groups u.render.toList).flatten = u.bytes.flatMap Hex.pair := by
  have hsplit : ∀ i n, (u.bytes.drop i).flatMap Hex.pair =
      u.digitsAt i n ++ (u.bytes.drop (i + n)).flatMap Hex.pair := by
    intro i n
    rw [digitsAt, ← List.flatMap_append, ← List.drop_drop, List.take_append_drop]
  have hend : u.bytes.drop 16 = [] := List.drop_eq_nil_of_le (Nat.le_of_eq u.length_bytes)
  have hall : u.bytes.flatMap Hex.pair = (u.bytes.drop 0).flatMap Hex.pair := rfl
  rw [groups_render, hall, hsplit 0 4, hsplit 4 2, hsplit 6 2, hsplit 8 2, hsplit 10 6, hend]
  simp

/-- A text that begins with a digit is not wrapped. -/
theorem unwrap_of_isDigit {c : Char} (hc : IsDigit c) (rest : List Char) :
    unwrap (c :: rest) = (c :: rest, 0, true) := by
  obtain ⟨d, rfl⟩ := hc
  obtain ⟨_, hbrace, hurn⟩ := digit_ne_mark d
  unfold unwrap
  split
  · next heq => exact absurd (List.cons.inj heq).1 hbrace
  · next heq => exact absurd (List.cons.inj heq).1 hurn
  · rfl

theorem exists_render_eq_cons (u : Uuid) :
    ∃ c rest, u.render.toList = c :: rest ∧ IsDigit c := by
  have hlength := length_digitsAt (u := u) (i := 0) (n := 4) (by omega)
  cases hfirst : u.digitsAt 0 4 with
  | nil => simp [hfirst] at hlength
  | cons c rest =>
    refine ⟨c, _, by rw [toList_render, hfirst, List.cons_append], ?_⟩
    exact isDigit_of_mem_digitsAt (hfirst ▸ List.mem_cons_self)

/-- An identifier is read back from its text. -/
theorem parse_render (u : Uuid) : parse u.render = .ok u := by
  obtain ⟨c, rest, htext, hc⟩ := exists_render_eq_cons u
  have hlengths : (groups u.render.toList).map List.length = groupLengths := by
    rw [groups_render]
    simp only [List.map_cons, List.map_nil, length_digitsAt (u := u) (i := 0) (n := 4) (by omega),
      length_digitsAt (u := u) (i := 4) (n := 2) (by omega),
      length_digitsAt (u := u) (i := 6) (n := 2) (by omega),
      length_digitsAt (u := u) (i := 8) (n := 2) (by omega),
      length_digitsAt (u := u) (i := 10) (n := 6) (by omega)]
    rfl
  have hbytes : ofBytes? u.bytes = some u := dif_pos u.length_bytes
  have hunwrap : unwrap u.render.toList = (u.render.toList, 0, true) := by
    rw [htext]
    exact unwrap_of_isDigit hc rest
  simp only [parse, parseChars, hunwrap, hlengths, if_true, flatten_groups_render,
    Option.bind_some, Hex.decodeDigits_flatMap_pair, hbytes]

/-- The text of an identifier has visible characters alone. -/
theorem visible_render {c : Char} (h : c ∈ u.render.toList) :
    0x20 ≤ c.toNat ∧ c.toNat < 0x7f := by
  have hdigit : ∀ i n, c ∈ u.digitsAt i n → 0x20 ≤ c.toNat ∧ c.toNat < 0x7f := by
    intro i n hc
    obtain ⟨d, rfl⟩ := isDigit_of_mem_digitsAt hc
    exact digit_visible d
  have hhyphen : c = '-' → 0x20 ≤ c.toNat ∧ c.toNat < 0x7f := by
    rintro rfl
    decide
  rw [toList_render] at h
  simp only [List.mem_append, List.mem_cons] at h
  rcases h with h | h | h | h | h | h | h | h | h
  · exact hdigit 0 4 h
  · exact hhyphen h
  · exact hdigit 4 2 h
  · exact hhyphen h
  · exact hdigit 6 2 h
  · exact hhyphen h
  · exact hdigit 8 2 h
  · exact hhyphen h
  · exact hdigit 10 6 h

end ConfigRegistry.Uuid
