import Mathlib.Algebra.Group.Nat.Defs
import ConfigRegistry.Text.Decimal

/-!
Numbers are read back from their decimal digits.
-/
namespace ConfigRegistry.Text.Decimal

theorem digit?_digitChar : ∀ n : Fin 10, digit? (Nat.digitChar n) = some n.val := by decide

/-- Reading goes on behind a first part with the number that this part stands for. -/
theorem readDigits_append (bound acc : Nat) (l l' : List Char) :
    readDigits bound acc (l ++ l') =
      (readDigits bound acc l).bind fun n => readDigits bound n l' := by
  induction l generalizing acc with
  | nil => rfl
  | cons c rest ih =>
    simp only [List.cons_append, readDigits]
    split
    · rfl
    · split
      · exact ih _
      · rfl

theorem readDigits_digit {bound acc d : Nat} (hd : d < 10) (h : acc * 10 + d ≤ bound) :
    readDigits bound acc [Nat.digitChar d] = .ok (acc * 10 + d) := by
  simp only [readDigits, digit?_digitChar ⟨d, hd⟩, if_pos h]

/-- A number within the bound is read back from its digits. -/
theorem readDigits_toDigits {bound n : Nat} (h : n ≤ bound) :
    readDigits bound 0 (Nat.toDigits 10 n) = .ok n := by
  induction n using Nat.strongRecOn with
  | ind n ih =>
    rw [Nat.toDigits_eq_if (by omega)]
    split
    · next hsmall =>
      rw [readDigits_digit hsmall (by omega)]
      simp
    · next hlarge =>
      have hfront := ih (n / 10) (by omega) (by omega)
      have hdigit : readDigits bound (n / 10) [Nat.digitChar (n % 10)] =
          .ok (n / 10 * 10 + n % 10) := readDigits_digit (by omega) (by omega)
      rw [readDigits_append, hfront, Except.bind, hdigit]
      congr 1
      omega

theorem isDigit_of_mem_toDigits {n : Nat} {c : Char} (h : c ∈ Nat.toDigits 10 n) :
    c.isDigit = true := Nat.isDigit_of_mem_toDigits (by omega) (Nat.le_refl 10) h

/-- A number within the bound is read back from its text. -/
theorem natural_toString {bound n : Nat} (h : n ≤ bound) : natural bound (toString n) = .ok n := by
  have hread := readDigits_toDigits h
  have hdigits : ∀ c ∈ Nat.toDigits 10 n, c.isDigit = true := fun c => isDigit_of_mem_toDigits
  unfold natural
  rw [Nat.toString_eq_repr, Nat.toList_repr]
  generalize hl : Nat.toDigits 10 n = l at hread hdigits
  split
  · exact absurd hl Nat.toDigits_ne_nil
  · exact absurd (hdigits '+' List.mem_cons_self) (by decide)
  · exact absurd (hdigits '+' List.mem_cons_self) (by decide)
  · exact hread

theorem toString_inj {m n : Nat} (h : toString m = toString n) : m = n := by
  have hm := natural_toString (Nat.le_max_left m n)
  rw [h, natural_toString (Nat.le_max_right m n)] at hm
  exact (Except.ok.inj hm).symm

/-! Padded numbers. -/

theorem toList_padded (width n : Nat) : (padded width n).toList =
    List.replicate (width - (Nat.toDigits 10 n).length) '0' ++ Nat.toDigits 10 n :=
  String.toList_ofList

/-- A number within the bound is read back from its digits behind zeros. -/
theorem readDigits_padded {bound n : Nat} (h : n ≤ bound) (width : Nat) :
    readDigits bound 0 (padded width n).toList = .ok n := by
  have hzeros : ∀ k, readDigits bound 0 (List.replicate k '0') = .ok 0 := by
    intro k
    induction k with
    | zero => rfl
    | succ k ih =>
      have hzero : digit? '0' = some 0 := rfl
      rw [List.replicate_succ, readDigits, hzero]
      simpa using ih
  rw [toList_padded, readDigits_append, hzeros, Except.bind, readDigits_toDigits h]

theorem length_padded {width n : Nat} (hwidth : 0 < width) (h : n < 10 ^ width) :
    (padded width n).toList.length = width := by
  have hdigits := (Nat.length_toDigits_le_iff (by omega) hwidth).mpr h
  rw [toList_padded, List.length_append, List.length_replicate]
  omega

theorem padded_ne_nil (width n : Nat) : (padded width n).toList ≠ [] := by
  simp [toList_padded, Nat.toDigits_ne_nil]

end ConfigRegistry.Text.Decimal
