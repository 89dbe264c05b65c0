import ConfigRegistry.Url.Domain

/-!
The plain form of a domain holds no character that is barred from domains. Labels are mapped, read
from their encoded form and encoded again, and none of this brings in a plain character but hyphens,
letters and digits.
-/
namespace ConfigRegistry.Url

theorem exists_of_mem_mapM {α β : Type} {f : α → Option β} {l : List α} {out : List β}
    (h : l.mapM f = some out) {b : β} (hb : b ∈ out) : ∃ a ∈ l, f a = some b := by
  induction l generalizing out with
  | nil =>
    obtain rfl : out = [] := by simpa using h.symm
    exact absurd hb List.not_mem_nil
  | cons a rest ih =>
    rw [List.mapM_cons] at h
    obtain ⟨first, hfirst, h⟩ := Option.bind_eq_some_iff.mp h
    obtain ⟨others, hothers, h⟩ := Option.bind_eq_some_iff.mp h
    obtain rfl : out = first :: others := (Option.some.inj h).symm
    rcases List.mem_cons.mp hb with rfl | hb
    · exact ⟨a, List.mem_cons_self, hfirst⟩
    · obtain ⟨a', ha', hf⟩ := ih hothers hb
      exact ⟨a', List.mem_cons_of_mem a ha', hf⟩

namespace Punycode

def IsDigit (c : Char) : Prop := ∃ d < base, c = digitChar d

theorem isDigit_of_mem_digits {bias k n : Nat} {c : Char} (h : c ∈ digits bias k n) :
    IsDigit c := by
  fun_induction digits bias k n with
  | case1 k n t hn =>
    exact ⟨n, Nat.lt_trans hn (threshold_lt k bias), List.mem_singleton.mp h⟩
  | case2 k n t hn ih =>
    rcases List.mem_cons.mp h with rfl | h
    · have ht := threshold_lt k bias
      have hmod := Nat.mod_lt (n - t) (show 0 < base - t by omega)
      exact ⟨t + (n - t) % (base - t), by omega, rfl⟩
    · exact ih h

theorem isDigit_of_mem_note {plain code : Nat} {p : Progress} (hp : ∀ c ∈ p.written, IsDigit c)
    (x : Char) : ∀ c ∈ (p.note plain code x).written, IsDigit c := by
  unfold Progress.note
  split
  · exact hp
  · split
    · intro c hc
      rcases List.mem_append.mp hc with hc | hc
      · exact hp c hc
      · exact isDigit_of_mem_digits hc
    · exact hp

theorem isDigit_of_mem_notes {plain code : Nat} (l : List Char) {p : Progress}
    (hp : ∀ c ∈ p.written, IsDigit c) :
    ∀ c ∈ (l.foldl (Progress.note plain code) p).written, IsDigit c := by
  induction l generalizing p with
  | nil => exact hp
  | cons x rest ih => exact ih (isDigit_of_mem_note hp x)

/-- What is written for the characters that are not plain are letters and digits. -/
theorem isDigit_of_mem_encodeFrom {l : List Char} {plain code : Nat} {codes : List Nat}
    {p : Progress} (hp : ∀ c ∈ p.written, IsDigit c) :
    ∀ c ∈ encodeFrom l plain code codes p, IsDigit c := by
  induction codes generalizing code p with
  | nil => exact hp
  | cons next rest ih => exact ih (isDigit_of_mem_notes l hp)

/-- An encoded label has the plain characters of the label, hyphens, letters and digits. -/
theorem mem_encode? {l out : List Char} (h : encode? l = some out) {c : Char} (hc : c ∈ out) :
    (c ∈ l ∧ c.toNat < firstCode) ∨ c = '-' ∨ IsDigit c := by
  simp only [encode?] at h
  split at h
  · contradiction
  · obtain rfl := Option.some.inj h
    rcases List.mem_append.mp hc with hc | hc
    · split at hc
      · contradiction
      · rcases List.mem_append.mp hc with hc | hc
        · obtain ⟨hmem, hlow⟩ := List.mem_filter.mp hc
          exact .inl ⟨hmem, by simpa using hlow⟩
        · exact .inr (.inl (List.mem_singleton.mp hc))
    · exact .inr (.inr (isDigit_of_mem_encodeFrom (by simp) c hc))

/-- Reading distances only brings in characters that are not plain. -/
theorem mem_decodeFrom {fuel code position bias : Nat} {read l out : List Char}
    (hcode : firstCode ≤ code) (h : decodeFrom fuel read code position bias l = some out)
    {c : Char} (hc : c ∈ out) : c ∈ read ∨ firstCode ≤ c.toNat := by
  induction fuel generalizing read code position bias l with
  | zero =>
    cases l with
    | nil =>
      obtain rfl := Option.some.inj h
      exact .inl hc
    | cons d rest => contradiction
  | succ fuel ih =>
    cases l with
    | nil =>
      obtain rfl := Option.some.inj h
      exact .inl hc
    | cons d rest =>
      dsimp only [decodeFrom] at h
      obtain ⟨⟨far, behind⟩, _, h⟩ := Option.bind_eq_some_iff.mp h
      dsimp only at h
      by_cases hvalid : (code + far / (read.length + 1)).isValidChar
      · rw [dif_pos hvalid] at h
        rcases ih (Nat.le_add_right_of_le hcode) h with hmem | hhigh
        · have hplace : far % (read.length + 1) ≤ read.length :=
            Nat.le_of_lt_succ (Nat.mod_lt far (Nat.succ_pos _))
          rcases (List.mem_insertIdx hplace).mp hmem with rfl | hmem
          · exact .inr (Nat.le_add_right_of_le hcode)
          · exact .inl hmem
        · exact .inr hhigh
      · rw [dif_neg hvalid] at h
        contradiction

/-- A decoded character was written as it is, or lies beyond the plain ones. -/
theorem mem_decode? {l out : List Char} (h : decode? l = some out) {c : Char} (hc : c ∈ out) :
    c ∈ l ∨ firstCode ≤ c.toNat := by
  unfold decode? at h
  split at h
  · contradiction
  · rcases mem_decodeFrom (Nat.le_refl _) h hc with hmem | hhigh
    · refine .inl ?_
      simp only [split] at hmem
      split at hmem
      · contradiction
      · exact List.mem_of_mem_take hmem
    · exact .inr hhigh

end Punycode

namespace Domain

theorem mem_of_mem_labels {l label : List Char} (h : label ∈ labels l) {c : Char}
    (hc : c ∈ label) : c ∈ l := by
  induction l generalizing label with
  | nil =>
    obtain rfl := List.mem_singleton.mp h
    exact hc
  | cons d rest ih =>
    rw [labels] at h
    split at h
    · rcases List.mem_cons.mp h with rfl | h
      · contradiction
      · exact List.mem_cons_of_mem d (ih h hc)
    · split at h
      · obtain rfl := List.mem_singleton.mp h
        exact List.mem_singleton.mp hc ▸ List.mem_cons_self
      · next first others hlabels =>
        rcases List.mem_cons.mp h with rfl | h
        · rcases List.mem_cons.mp hc with rfl | hc
          · exact List.mem_cons_self
          · exact List.mem_cons_of_mem d (ih (hlabels ▸ List.mem_cons_self) hc)
        · exact List.mem_cons_of_mem d (ih (hlabels ▸ List.mem_cons_of_mem first h) hc)

/-- Characters that a domain in its plain form may hold. -/
def isAllowed (c : Char) : Bool := isPlain c && !isBarred c

theorem isAllowed_digitChar : ∀ d : Fin 36, isAllowed (Punycode.digitChar d) = true := by decide

theorem isAllowed_encodedMark : ∀ c ∈ encodedMark, isAllowed c = true :=
  List.all_eq_true.mp (by decide)

theorem isAllowed_of_isDigit {c : Char} (h : Punycode.IsDigit c) : isAllowed c = true := by
  obtain ⟨d, hd, rfl⟩ := h
  exact isAllowed_digitChar ⟨d, hd⟩

/-- What a label shows are characters of the label, and others that are not plain. -/
theorem mem_shown? {label shown : List Char} (h : shown? label = some shown) {c : Char}
    (hc : c ∈ shown) : c ∈ label ∨ Punycode.firstCode ≤ c.toNat := by
  unfold shown? at h
  split at h
  · split at h
    · contradiction
    · next l hdecode =>
      split at h
      · contradiction
      · obtain rfl := Option.some.inj h
        rcases Punycode.mem_decode? hdecode hc with hmem | hhigh
        · exact .inl (List.mem_of_mem_drop hmem)
        · exact .inr hhigh
  · obtain rfl := Option.some.inj h
    exact .inl hc

/-- A label with plain characters only has those of the label, hyphens, letters and digits. -/
theorem mem_plainLabel? {label out : List Char} (h : plainLabel? label = some out) {c : Char}
    (hc : c ∈ out) :
    (c ∈ label ∧ c.toNat < Punycode.firstCode) ∨ c ∈ encodedMark ∨ c = '-' ∨
      Punycode.IsDigit c := by
  unfold plainLabel? at h
  split at h
  · next hplain =>
    obtain rfl := Option.some.inj h
    exact .inl ⟨hc, of_decide_eq_true (List.all_eq_true.mp hplain c hc)⟩
  · obtain ⟨digits, hdigits, rfl⟩ := Option.map_eq_some_iff.mp h
    rcases List.mem_append.mp hc with hc | hc
    · exact .inr (.inl hc)
    · rcases Punycode.mem_encode? hdigits hc with hmem | hdigit
      · exact .inl hmem
      · exact .inr (.inr hdigit)

theorem mem_intercalate {c d : Char} {texts : List (List Char)}
    (h : c ∈ List.intercalate [d] texts) : c = d ∨ ∃ text ∈ texts, c ∈ text := by
  induction texts with
  | nil => exact absurd h List.not_mem_nil
  | cons text rest ih =>
    cases rest with
    | nil =>
      rw [List.intercalate_singleton] at h
      exact .inr ⟨text, List.mem_cons_self, h⟩
    | cons next others =>
      rw [List.intercalate_cons_cons, List.mem_append, List.mem_append, List.mem_singleton] at h
      rcases h with (h | h) | h
      · exact .inr ⟨text, List.mem_cons_self, h⟩
      · exact .inl h
      · exact (ih h).imp_right fun ⟨t, ht, hc⟩ => ⟨t, List.mem_cons_of_mem text ht, hc⟩

/-- A domain in its plain form holds plain characters that are not barred. -/
theorem isAllowed_of_mem_toPlain? {l out : List Char} (h : toPlain? l = some out) {c : Char}
    (hc : c ∈ out) : isAllowed c = true := by
  unfold toPlain? at h
  split at h
  · contradiction
  · next mapped _ =>
    split at h
    · contradiction
    · next shown hshown =>
      split at h
      · contradiction
      · next hfit =>
        have hbarred : ∀ c ∈ mapped, isBarred c = false := by
          simp only [Bool.or_eq_true, not_or] at hfit
          simpa using hfit.1.1
        obtain ⟨plain, hplain, rfl⟩ := Option.map_eq_some_iff.mp h
        rcases mem_intercalate hc with rfl | ⟨out, hout, hc⟩
        · rfl
        · obtain ⟨label, hlabel, hout⟩ := exists_of_mem_mapM hplain hout
          rcases mem_plainLabel? hout hc with ⟨hmem, hlow⟩ | hmark | rfl | hdigit
          · obtain ⟨before, hbefore, hlabel⟩ := exists_of_mem_mapM hshown hlabel
            rcases mem_shown? hlabel hmem with hmem | hhigh
            · have hfree := hbarred c (mem_of_mem_labels hbefore hmem)
              have hplain : isPlain c = true := decide_eq_true hlow
              simp [isAllowed, hfree, hplain]
            · exact absurd hlow (Nat.not_lt.mpr hhigh)
          · exact isAllowed_encodedMark c hmark
          · rfl
          · exact isAllowed_of_isDigit hdigit

end Domain

end ConfigRegistry.Url
