import ConfigRegistry.Proofs.Coding.Utf8
import ConfigRegistry.Proofs.Json.Reading

/-!
Whole numbers are read back from their digits, if what follows them cannot belong to a number.
-/
namespace ConfigRegistry.Json

open Coding

namespace Number

def digitBytes (n : Nat) : List UInt8 := Utf8.encode (toString n)

theorem utf8EncodeChar_digitChar : ∀ d : Fin 10,
    String.utf8EncodeChar (Nat.digitChar d) = [UInt8.ofNat (0x30 + d)] := by decide

theorem digitBytes_of_lt {n : Nat} (h : n < 10) : digitBytes n = [UInt8.ofNat (0x30 + n)] := by
  rw [digitBytes, Utf8.encode_eq_flatMap, Nat.toString_eq_repr, Nat.toList_repr,
    Nat.toDigits_eq_if (by omega), if_pos h, List.flatMap_singleton]
  exact utf8EncodeChar_digitChar ⟨n, h⟩

theorem digitBytes_of_le {n : Nat} (h : 10 ≤ n) :
    digitBytes n = digitBytes (n / 10) ++ [UInt8.ofNat (0x30 + n % 10)] := by
  have hlast := utf8EncodeChar_digitChar ⟨n % 10, by omega⟩
  simp only at hlast
  rw [digitBytes, digitBytes, Utf8.encode_eq_flatMap, Utf8.encode_eq_flatMap,
    Nat.toString_eq_repr, Nat.toString_eq_repr, Nat.toList_repr, Nat.toList_repr,
    Nat.toDigits_eq_if (by omega), if_neg (by omega), List.flatMap_append,
    List.flatMap_singleton, hlast]

theorem toNat_digit {d : Nat} (hd : d < 10) : (UInt8.ofNat (0x30 + d)).toNat = 0x30 + d := by
  rw [UInt8.toNat_ofNat']
  omega

theorem isDigit_digit {d : Nat} (hd : d < 10) : isDigit (UInt8.ofNat (0x30 + d)) = true := by
  have hvalue := toNat_digit hd
  simp only [isDigit, Bool.and_eq_true, decide_eq_true_eq, UInt8.le_iff_toNat_le, hvalue]
  exact ⟨Nat.le_add_right .., by show 0x30 + d ≤ 57; omega⟩

/-- Digits behind a significand make it this number, all of them below the bound. -/
def Absorbs : Nat → List UInt8 → Nat → Prop
  | significand, [], n => significand = n
  | significand, d :: rest, n => significand * 10 + (d.toNat - 0x30) < UInt64.size ∧
      Absorbs (significand * 10 + (d.toNat - 0x30)) rest n

theorem Absorbs.absorb_eq {significand n : Nat} {digits : List UInt8}
    (h : Absorbs significand digits n) (taken : Nat) :
    ∃ taken', absorb significand taken digits = (n, taken', 0) := by
  induction digits generalizing significand taken with
  | nil =>
    obtain rfl : significand = n := h
    exact ⟨taken, rfl⟩
  | cons d rest ih =>
    obtain ⟨taken', hrest⟩ := ih h.2 (taken + 1)
    exact ⟨taken', by rw [absorb, if_pos h.1, hrest]⟩

/-- One more digit. -/
theorem Absorbs.concat {significand n d : Nat} {digits : List UInt8}
    (h : Absorbs significand digits n) (hd : d < 10) (hsize : n * 10 + d < UInt64.size) :
    Absorbs significand (digits ++ [UInt8.ofNat (0x30 + d)]) (n * 10 + d) := by
  induction digits generalizing significand with
  | nil =>
    obtain rfl : significand = n := h
    simp only [List.nil_append, Absorbs, toNat_digit hd, Nat.add_sub_cancel_left]
    exact ⟨hsize, trivial⟩
  | cons b rest ih => exact ⟨h.1, ih h.2⟩

/-- The first digit, the others, and what reading them comes to. -/
structure Digits (n : Nat) (b : UInt8) (digits : List UInt8) : Prop where
  bytes : digitBytes n = b :: digits
  first : isDigit b = true
  others : ∀ d ∈ digits, isDigit d = true
  /-- No digits are behind a leading zero. -/
  zero : b = 0x30 → n = 0 ∧ digits = []
  absorbed : Absorbs (b.toNat - 0x30) digits n

theorem digits_of_lt {n : Nat} (h : n < 10) : Digits n (UInt8.ofNat (0x30 + n)) [] where
  bytes := digitBytes_of_lt h
  first := isDigit_digit h
  others := by simp
  zero := by
    intro hzero
    have hvalue := congrArg UInt8.toNat hzero
    rw [toNat_digit h] at hvalue
    exact ⟨by simpa using hvalue, rfl⟩
  absorbed := by
    rw [toNat_digit h, Nat.add_sub_cancel_left]
    exact rfl

/-- Every number of 64 bits has digits that can be read, with no zero in front. -/
theorem digits_of_lt_size {n : Nat} (h : n < UInt64.size) : ∃ b digits, Digits n b digits := by
  induction n using Nat.strongRecOn with
  | ind n ih =>
    by_cases hsmall : n < 10
    · exact ⟨_, _, digits_of_lt hsmall⟩
    · obtain ⟨b, digits, hfront⟩ := ih (n / 10) (by omega) (by omega)
      have hn : n / 10 * 10 + n % 10 = n := by omega
      refine ⟨b, digits ++ [UInt8.ofNat (0x30 + n % 10)], ?_, hfront.first, ?_, ?_, ?_⟩
      · rw [digitBytes_of_le (by omega), hfront.bytes, List.cons_append]
      · intro d hd
        rcases List.mem_append.mp hd with hd | hd
        · exact hfront.others d hd
        · rw [List.mem_singleton.mp hd]
          exact isDigit_digit (by omega)
      · intro hb
        have hzero := (hfront.zero hb).1
        omega
      · have hmore := hfront.absorbed.concat (d := n % 10) (by omega) (by omega)
        rwa [hn] at hmore

/-- What follows a number: nothing that could belong to it. -/
def Ends (left : List UInt8) : Prop :=
  ∀ b ∈ left.head?, isDigit b = false ∧ b ≠ 0x2e ∧ b ≠ 0x65 ∧ b ≠ 0x45

theorem Ends.head? {left : List UInt8} (h : Ends left) : left.head?.any isDigit = false ∧
    (left.head? == some 0x2e) = false ∧ isExponentMark left.head? = false := by
  cases hhead : left.head? with
  | none => exact ⟨rfl, rfl, rfl⟩
  | some b =>
    obtain ⟨hdigit, hpoint, hlower, hupper⟩ := h b hhead
    exact ⟨hdigit, by simpa using hpoint, by simp [isExponentMark, hlower, hupper]⟩

/-- The digits of a number are read as they are, with its sign. -/
theorem reads_readUnsigned {n : Nat} (hn : n < UInt64.size) (positive : Bool) {left : List UInt8}
    (hleft : Ends left) :
    Reads (readUnsigned positive) (digitBytes n ++ left) (whole positive n) left := by
  obtain ⟨b, digits, hdigits⟩ := digits_of_lt_size hn
  obtain ⟨hdigit, hpoint, hexponent⟩ := hleft.head?
  obtain ⟨_, habsorb⟩ := hdigits.absorbed.absorb_eq 0
  rw [hdigits.bytes, List.cons_append]
  refine (Reads.next b _).bind ?_
  simp only [hdigits.first, Bool.not_true, Bool.false_eq_true, if_false]
  by_cases hzero : b = 0x30
  · obtain ⟨rfl, rfl⟩ := hdigits.zero hzero
    simp only [hzero, beq_self_eq_true, if_true]
    refine (Reads.pure [] _).bind ((Reads.peek _).bind ?_)
    rw [hzero] at habsorb
    simp only [List.nil_append, hdigit, hpoint, hexponent, habsorb, Bool.and_false,
      Bool.false_eq_true, if_false, if_true]
    exact Reads.pure _ left
  · have hrun : Reads (Read.run isDigit) (digits ++ left) digits left := by
      have hread := Reads.run isDigit (digits ++ left)
      have hstop : left.takeWhile isDigit = [] ∧ left.dropWhile isDigit = left := by
        cases left with
        | nil => exact ⟨rfl, rfl⟩
        | cons d rest =>
          have hd : ¬ isDigit d = true := by simpa using hdigit
          exact ⟨List.takeWhile_cons_of_neg hd, List.dropWhile_cons_of_neg hd⟩
      rw [List.takeWhile_append_of_pos hdigits.others, List.dropWhile_append_of_pos hdigits.others,
        hstop.1, hstop.2, List.append_nil] at hread
      exact hread
    have hne : (b == 0x30) = false := by simpa using hzero
    simp only [hne, Bool.false_eq_true, if_false]
    refine hrun.bind ((Reads.peek _).bind ?_)
    simp only [hpoint, hexponent, habsorb, Bool.false_and, Bool.false_eq_true, if_false, if_true]
    exact Reads.pure _ left

theorem head?_digitBytes {n : Nat} (hn : n < UInt64.size) (left : List UInt8) :
    ∃ b, (digitBytes n ++ left).head? = some b ∧ isDigit b = true := by
  obtain ⟨b, digits, hdigits⟩ := digits_of_lt_size hn
  exact ⟨b, by rw [hdigits.bytes]; rfl, hdigits.first⟩

theorem reads_natural {n : Nat} (hn : n < UInt64.size) {left : List UInt8} (hleft : Ends left) :
    Reads read (digitBytes n ++ left) (.natural n) left := by
  obtain ⟨b, hhead, hdigit⟩ := head?_digitBytes hn left
  refine (Reads.peek _).bind ?_
  have hsign : (some b == some (0x2d : UInt8)) = false := by
    simp only [Option.some_beq_some, beq_eq_false_iff_ne]
    rintro rfl
    contradiction
  rw [hhead, hsign]
  exact reads_readUnsigned hn true hleft

theorem encode_negative {n : Int} (hn : n < 0) :
    Utf8.encode (toString n) = 0x2d :: digitBytes n.natAbs := by
  have htext : toString n = "-" ++ toString n.natAbs := by
    cases n with
    | ofNat n => exact absurd hn (by simp)
    | negSucc n => rfl
  have hsign : Utf8.encode "-" = [0x2d] := (Utf8.encode_eq_flatMap _).trans rfl
  rw [htext, Utf8.encode_append, hsign]
  rfl

theorem reads_negative {n : Int} (hlow : -0x8000000000000000 ≤ n) (hn : n < 0) {left : List UInt8}
    (hleft : Ends left) :
    Reads read (Utf8.encode (toString n) ++ left) (.negative n) left := by
  have hsize : n.natAbs < UInt64.size := by
    show n.natAbs < 18446744073709551616
    omega
  have hwhole : whole false n.natAbs = .negative n := by
    have hfits : ¬ (n.natAbs = 0 ∨ 0x8000000000000000 < n.natAbs) := by omega
    have hvalue : -(n.natAbs : Int) = n := by omega
    simp only [whole, Bool.false_eq_true, if_false, if_neg hfits, hvalue]
  rw [encode_negative hn, List.cons_append, ← hwhole]
  refine (Reads.peek _).bind ?_
  exact (Reads.eat 0x2d _).bind (reads_readUnsigned hsize false hleft)

end Number

theorem encode_integer (n : Int) : Utf8.encode (Value.integer n).render =
    if n < 0 then Utf8.encode (toString n) else Number.digitBytes n.toNat := by
  unfold Value.integer
  split
  · rfl
  · rfl

theorem isBlank_of_isDigit {b : UInt8} (h : Number.isDigit b = true) : Read.isBlank b = false := by
  simp only [Number.isDigit, Bool.and_eq_true, decide_eq_true_eq, UInt8.le_iff_toNat_le] at h
  have hne : ∀ x : UInt8, x.toNat < 0x30 → b ≠ x := by
    rintro x hx rfl
    exact absurd h.1 (Nat.not_le.mpr hx)
  simp [Read.isBlank, hne 0x20 (by decide), hne 0x0a (by decide), hne 0x09 (by decide),
    hne 0x0d (by decide)]

/-- A number that is written as a natural or a negative one is read if it is accepted. -/
theorem reads_wholeNumber {α : Type} {expected : String} {accept : Int → Option α} {a : α}
    {number : Number} {n : Int} {b : UInt8} {more left : List UInt8}
    (hb : b = 0x2d ∨ Number.isDigit b = true) (hread : Reads Number.read (b :: more) number left)
    (hnumber : number = .negative n ∨ ∃ m : Nat, number = .natural m ∧ n = m)
    (haccept : accept n = some a) :
    Reads (Read.wholeNumber expected accept) (b :: more) a left := by
  have hblank : Read.isBlank b = false := by
    rcases hb with rfl | hdigit
    · rfl
    · exact isBlank_of_isDigit hdigit
  have hstart : (b == 0x2d || Number.isDigit b) = true := by simpa using hb
  refine Reads.located ((Reads.first hblank more).bind ?_)
  simp only [hstart, if_true]
  refine hread.bind ?_
  rcases hnumber with rfl | ⟨m, rfl, rfl⟩
  · simp only [haccept]
    exact Reads.pure a left
  · simp only [haccept]
    exact Reads.pure a left

/-- A whole number of 64 bits is read back from its text. -/
theorem reads_integer {n : Int} (hlow : -0x8000000000000000 ≤ n) (hhigh : n < 0x8000000000000000)
    {left : List UInt8} (hleft : Number.Ends left) :
    Reads Read.integer (Utf8.encode (Value.integer n).render ++ left) n left := by
  rw [encode_integer]
  split
  · next hn =>
    have hread := Number.reads_negative hlow hn hleft
    rw [Number.encode_negative hn] at hread ⊢
    exact reads_wholeNumber (.inl rfl) hread (.inl rfl) (if_pos ⟨hlow, hhigh⟩)
  · next hn =>
    have hsize : n.toNat < UInt64.size := by
      show n.toNat < 18446744073709551616
      omega
    have hread := Number.reads_natural hsize hleft
    obtain ⟨b, digits, hdigits⟩ := Number.digits_of_lt_size hsize
    rw [hdigits.bytes] at hread ⊢
    exact reads_wholeNumber (.inr hdigits.first) hread (.inr ⟨n.toNat, rfl, by omega⟩)
      (if_pos ⟨hlow, hhigh⟩)

end ConfigRegistry.Json
