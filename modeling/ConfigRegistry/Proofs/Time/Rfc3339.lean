import ConfigRegistry.Proofs.Sequencing
import ConfigRegistry.Proofs.Text.Decimal
import ConfigRegistry.Proofs.Time.Calendar
import ConfigRegistry.Time.Rfc3339

/-!
Moments are read back from their text, whatever their year, with all their digits of a second, and
as leap seconds if they are.
-/
namespace ConfigRegistry.Time

/-- A moment within the range of moments. The part of a second behind it is less than a second, or
that and the leap second at the end of a minute. -/
structure Instant.IsMoment (t : Instant) : Prop where
  range : minSeconds ≤ t.seconds ∧ t.seconds ≤ maxSeconds
  nanos : t.nanos < 1000000000 ∨ t.nanos < 2000000000 ∧ t.seconds % 60 = 59

/-- A moment with a part of less than two seconds, whatever second that is behind. -/
structure Instant.IsRepresentable (t : Instant) : Prop where
  range : minSeconds ≤ t.seconds ∧ t.seconds ≤ maxSeconds
  nanos : t.nanos < 2000000000

/-- A leap second that does not end a minute is taken for the second behind it. -/
def Instant.normal (t : Instant) : Instant :=
  if 1000000000 ≤ t.nanos ∧ t.seconds % 60 ≠ 59 then ⟨t.seconds + 1, t.nanos - 1000000000⟩ else t

/-- Carried into the next second where need be, a moment has a text of its own. -/
theorem Instant.IsRepresentable.isMoment_normal {t : Instant} (h : t.IsRepresentable) :
    t.normal.IsMoment := by
  obtain ⟨⟨hlow, hhigh⟩, hnanos⟩ := h
  unfold normal
  split
  · next hodd =>
    -- the last second of the range ends a minute
    have hlast : maxSeconds % 60 = 59 := by decide
    have hinside : t.seconds ≠ maxSeconds := fun heq => hodd.2 (heq ▸ hlast)
    exact ⟨⟨by dsimp only; omega, by dsimp only; omega⟩, .inl (by dsimp only; omega)⟩
  · next heven =>
    refine ⟨⟨hlow, hhigh⟩, ?_⟩
    by_cases hleap : 1000000000 ≤ t.nanos
    · exact .inr ⟨hnanos, Decidable.not_not.mp fun hne => heven ⟨hleap, hne⟩⟩
    · exact .inl (Nat.lt_of_not_le hleap)

theorem Instant.IsMoment.normal_eq {t : Instant} (h : t.IsMoment) : t.normal = t := by
  refine if_neg fun ⟨hleap, hodd⟩ => ?_
  rcases h.nanos with hplain | ⟨_, hlast⟩
  · omega
  · exact hodd hlast

theorem Instant.addSeconds?_eq_some {t moved : Instant} {n : Int}
    (h : t.addSeconds? n = some moved) :
    (minSeconds ≤ moved.seconds ∧ moved.seconds ≤ maxSeconds) ∧
      moved.seconds = t.seconds + n ∧ moved.nanos = t.nanos := by
  unfold addSeconds? at h
  dsimp only at h
  split at h
  · next hrange =>
    obtain rfl := Option.some.inj h
    exact ⟨hrange, rfl, rfl⟩
  · contradiction

namespace Rfc3339

open Text Text.Decimal

/-! Numbers. -/

/-- Digits are read up to the number of them that is allowed, and the rest is left. -/
theorem digits_append {acc n : Nat} {l : List Char}
    (h : readDigits 0x7fffffffffffffff acc l = .ok n) {count : Option Nat}
    (hcount : ∀ k ∈ count, l.length ≤ k) (rest : List Char) :
    digits count acc (l ++ rest) = digits (count.map (· - l.length)) n rest := by
  induction l generalizing acc count with
  | nil =>
    obtain rfl : acc = n := Except.ok.inj h
    simp
  | cons c l ih =>
    have hsome : count ≠ some 0 := by
      rintro rfl
      exact absurd (hcount 0 rfl) (by simp)
    have hfewer : ∀ k ∈ count.map (· - 1), l.length ≤ k := by
      intro k hk
      obtain ⟨m, hm, rfl⟩ := Option.map_eq_some_iff.mp hk
      have := hcount m hm
      rw [List.length_cons] at this
      omega
    have hcounts : (count.map (· - 1)).map (· - l.length) = count.map (· - (c :: l).length) := by
      rw [Option.map_map]
      congr 1
      funext k
      simp only [Function.comp_apply, List.length_cons]
      omega
    simp only [readDigits] at h
    cases hdigit : digit? c with
    | none => simp [hdigit] at h
    | some d =>
      simp only [hdigit] at h
      by_cases hbound : acc * 10 + d ≤ 0x7fffffffffffffff
      · rw [if_pos hbound] at h
        rw [List.cons_append, digits, if_neg hsome]
        simp only [hdigit]
        rw [if_pos (by omega), ih h hfewer, hcounts]
      · rw [if_neg hbound] at h
        contradiction

/-- Reading digits stops where there are enough of them, and where there is none. -/
theorem digits_stop {count : Option Nat} {rest : List Char}
    (h : count = some 0 ∨ ∀ c ∈ rest.head?, digit? c = none) (n : Nat) :
    digits count n rest = .ok (n, rest) := by
  cases rest with
  | nil => rfl
  | cons c rest =>
    rw [digits]
    rcases h with rfl | hnone
    · rw [if_pos rfl]
    · split
      · rfl
      · simp [hnone c rfl]

theorem no_digit_of_cons {c : Char} (hc : digit? c = none) (rest : List Char) :
    ∀ d ∈ (c :: rest).head?, digit? d = none := by
  intro d hd
  exact Option.some.inj hd ▸ hc

theorem exists_padded_eq_cons {n : Nat} (hn : n ≤ 0x7fffffffffffffff) (width : Nat) :
    ∃ c l d, (padded width n).toList = c :: l ∧ digit? c = some d := by
  have hread := readDigits_padded hn width
  cases hl : (padded width n).toList with
  | nil => exact absurd hl (padded_ne_nil width n)
  | cons c l =>
    rw [hl, readDigits] at hread
    cases hdigit : digit? c with
    | none => simp [hdigit] at hread
    | some d => exact ⟨c, l, d, rfl, hdigit⟩

/-- A padded number is read if it has as many digits as are asked for, or if no more follow. -/
theorem number_padded {n : Nat} (hn : n ≤ 0x7fffffffffffffff) {width : Nat}
    {count : Option Nat} (hcount : ∀ k ∈ count, (padded width n).toList.length ≤ k)
    {rest : List Char}
    (hstop : count = some (padded width n).toList.length ∨ ∀ c ∈ rest.head?, digit? c = none) :
    number count ((padded width n).toList ++ rest) = .ok (n, rest) := by
  have hread := digits_append (readDigits_padded hn width) hcount rest
  have hdone : digits (count.map (· - (padded width n).toList.length)) n rest = .ok (n, rest) := by
    refine digits_stop (hstop.imp_left ?_) n
    rintro rfl
    simp
  obtain ⟨c, l, d, hl, hdigit⟩ := exists_padded_eq_cons hn width
  rw [hl] at hread hdone ⊢
  rw [List.cons_append] at hread ⊢
  simp only [number, hdigit, Option.isNone_some, Bool.false_eq_true, if_false, hread, hdone]

/-! Parts of the text. -/

theorem ne_of_digit? {c : Char} {d : Nat} (h : digit? c = some d) :
    isBlank c = false ∧ c ≠ '-' ∧ c ≠ '+' := by
  have hrange : 48 ≤ c.toNat ∧ c.toNat ≤ 57 := by
    unfold digit? at h
    split at h
    · next hc => exact hc
    · contradiction
  have hne : ∀ d : Char, d.toNat < 48 → c ≠ d := by
    rintro d hd rfl
    omega
  refine ⟨?_, hne '-' (by decide), hne '+' (by decide)⟩
  simp only [isBlank, Bool.or_eq_false_iff, Bool.and_eq_false_iff, decide_eq_false_iff_not,
    beq_eq_false_iff_ne]
  omega

theorem skipBlank_cons {c : Char} (hc : isBlank c = false) (rest : List Char) :
    skipBlank (c :: rest) = c :: rest := List.dropWhile_cons_of_neg (by simp [hc])

theorem skipBlank_padded {n : Nat} (hn : n ≤ 0x7fffffffffffffff) (width : Nat)
    (rest : List Char) :
    skipBlank ((padded width n).toList ++ rest) = (padded width n).toList ++ rest := by
  obtain ⟨c, l, d, hl, hdigit⟩ := exists_padded_eq_cons hn width
  rw [hl]
  exact skipBlank_cons (ne_of_digit? hdigit).1 _

theorem part_padded {low high n : Nat} (hlow : low ≤ n) (hhigh : n ≤ high) (hn : n < 100)
    (rest : List Char) : part low high ((padded 2 n).toList ++ rest) = .ok (n, rest) := by
  have hlength : (padded 2 n).toList.length = 2 := length_padded (by omega) hn
  have hnumber : number (some 2) ((padded 2 n).toList ++ rest) = .ok (n, rest) :=
    number_padded (by omega) (by simp [hlength]) (.inl (by rw [hlength]))
  unfold part
  rw [skipBlank_padded (by omega), hnumber]
  exact if_pos ⟨hlow, hhigh⟩

theorem mark_cons {c : Char} (hc : isBlank c = false) (rest : List Char) :
    mark c (c :: rest) = .ok rest := by
  simp [mark, skipBlank_cons hc]

/-- A year in four digits needs no sign. -/
theorem yearPart_padded {year : Nat} (h : year ≤ 9999) {rest : List Char} :
    yearPart ((padded 4 year).toList ++ rest) = .ok ((year : Int), rest) := by
  have hlength : (padded 4 year).toList.length = 4 := length_padded (by omega) (by omega)
  have hnumber : number (some 4) ((padded 4 year).toList ++ rest) = .ok (year, rest) :=
    number_padded (by omega) (by simp [hlength]) (.inl (by rw [hlength]))
  have hrange : -0x80000000 ≤ (year : Int) ∧ (year : Int) < 0x80000000 := by omega
  obtain ⟨c, l, d, hl, hdigit⟩ : ∃ c l d, (padded 4 year).toList = c :: l ∧ digit? c = some d :=
    exists_padded_eq_cons (by omega) 4
  obtain ⟨hblank, hminus, hplus⟩ := ne_of_digit? hdigit
  rw [hl, List.cons_append] at hnumber ⊢
  unfold yearPart
  rw [skipBlank_cons hblank]
  dsimp only
  split
  · next heq => exact absurd (List.cons.inj heq).1 hminus
  · next heq => exact absurd (List.cons.inj heq).1 hplus
  · simp only [hnumber, Except.map, bind, Except.bind]
    rw [if_pos hrange]
    rfl

/-- A year behind a sign ends where its digits do. -/
theorem number_padded_none {n : Nat} (hn : n ≤ 0x7fffffffffffffff) {rest : List Char}
    (hrest : ∀ c ∈ rest.head?, digit? c = none) :
    number none ((padded 4 n).toList ++ rest) = .ok (n, rest) :=
  number_padded hn (by simp) (.inr hrest)

/-- Years beyond four digits are written with a sign and are read back with it. -/
theorem yearPart_yearText {year : Int} (hlow : -0x80000000 ≤ year) (hhigh : year < 0x80000000)
    {rest : List Char} (hrest : ∀ c ∈ rest.head?, digit? c = none) :
    yearPart ((yearText year).toList ++ rest) = .ok (year, rest) := by
  have hnumber : number none ((padded 4 year.natAbs).toList ++ rest) = .ok (year.natAbs, rest) :=
    number_padded_none (by omega) hrest
  unfold yearText
  split
  · next hplain =>
    rw [yearPart_padded (by omega), Int.toNat_of_nonneg hplain.1]
  · next hsigned =>
    split
    · next hnegative =>
      have hminus : "-".toList = ['-'] := rfl
      have hyear : -(year.natAbs : Int) = year := by omega
      rw [String.toList_append, hminus, List.singleton_append, List.cons_append]
      unfold yearPart
      rw [skipBlank_cons (by decide)]
      simp only [hnumber, Except.map, hyear]
      exact if_pos ⟨hlow, hhigh⟩
    · next hpositive =>
      have hplus : "+".toList = ['+'] := rfl
      have hyear : (year.natAbs : Int) = year := by omega
      rw [String.toList_append, hplus, List.singleton_append, List.cons_append]
      unfold yearPart
      rw [skipBlank_cons (by decide)]
      simp only [hnumber, Except.map, hyear]
      exact if_pos ⟨hlow, hhigh⟩

/-- The digits of a second are read in their places. -/
theorem fractionPart_padded {width n : Nat} (hwidth : 0 < width) (hwidth' : width ≤ 9)
    (hn : n < 10 ^ width) :
    fractionPart ('.' :: ((padded width n).toList ++ ['Z'])) =
      .ok (n * 10 ^ (9 - width), ['Z']) := by
  have hlength := length_padded hwidth hn
  have hbound : n < 10 ^ 9 := Nat.lt_of_lt_of_le hn (Nat.pow_le_pow_right (by omega) hwidth')
  have hstop : ∀ c ∈ ['Z'].head?, digit? c = none := no_digit_of_cons (by decide) []
  have hnumber : number (some 9) ((padded width n).toList ++ ['Z']) = .ok (n, ['Z']) :=
    number_padded (by omega) (by simpa [hlength] using hwidth') (.inr hstop)
  have hwritten : ((padded width n).toList ++ ['Z']).length - ['Z'].length = width := by
    rw [List.length_append, hlength, Nat.add_sub_cancel]
  have hend : ['Z'].dropWhile (fun c => (digit? c).isSome) = ['Z'] := by decide
  unfold fractionPart
  simp only [hnumber, bind, Except.bind, hwritten, hend, pure, Except.pure, Nat.pow_eq]

/-- A fraction is written with three, six or nine digits, or not at all, and each is read back. -/
theorem fractionPart_fractionText {n : Nat} (hn : n < 1000000000) :
    fractionPart ((fractionText n).toList ++ ['Z']) = .ok (n, ['Z']) := by
  have hpoint : ".".toList = ['.'] := rfl
  have hdigits : ∀ {width m : Nat}, 0 < width → width ≤ 9 → m < 10 ^ width →
      m * 10 ^ (9 - width) = n →
      fractionPart (("." ++ padded width m).toList ++ ['Z']) = .ok (n, ['Z']) := by
    intro width m hwidth hwidth' hm hvalue
    rw [String.toList_append, hpoint, List.singleton_append, List.cons_append,
      fractionPart_padded hwidth hwidth' hm, hvalue]
  unfold fractionText
  split
  · next hzero => simp [fractionPart, hzero]
  · split
    · exact hdigits (by omega) (by omega) (by omega) (by omega)
    · split
      · exact hdigits (by omega) (by omega) (by omega) (by omega)
      · exact hdigits (by omega) (by omega) (by omega) (by omega)

def textOf (date : Date) (hour minute second nanos : Nat) : List Char :=
  let two := fun n => (padded 2 n).toList
  (yearText date.year).toList ++ '-' :: (two date.month ++ '-' :: (two date.day ++ 'T' ::
    (two hour ++ ':' :: (two minute ++ ':' :: (two second ++
      ((fractionText nanos).toList ++ ['Z']))))))

theorem toList_render (t : Instant) :
    let second := (t.seconds % Instant.secondsPerDay).toNat
    let leap := 1000000000 ≤ t.nanos
    (render t).toList = textOf (Date.ofDays (t.seconds / Instant.secondsPerDay)) (second / 3600)
      (second / 60 % 60) (second % 60 + if leap then 1 else 0)
      (if leap then t.nanos - 1000000000 else t.nanos) := by
  have hhyphen : "-".toList = ['-'] := rfl
  have hcolon : ":".toList = [':'] := rfl
  have hmark : "T".toList = ['T'] := rfl
  have hzone : "Z".toList = ['Z'] := rfl
  simp [render, textOf, hhyphen, hcolon, hmark, hzone]

/-- A moment has the text of that which it is taken for. -/
theorem render_normal {t : Instant} (h : t.IsRepresentable) : render t.normal = render t := by
  obtain ⟨_, hnanos⟩ := h
  unfold Instant.normal
  split
  · next hodd =>
    obtain ⟨hleap, hlast⟩ := hodd
    have hday : (t.seconds + 1) / Instant.secondsPerDay = t.seconds / Instant.secondsPerDay := by
      unfold Instant.secondsPerDay
      omega
    have hsecond : ((t.seconds + 1) % Instant.secondsPerDay).toNat =
        (t.seconds % Instant.secondsPerDay).toNat + 1 := by
      unfold Instant.secondsPerDay
      omega
    have hinside : (t.seconds % Instant.secondsPerDay).toNat % 60 ≠ 59 := by
      unfold Instant.secondsPerDay
      omega
    have hplain : ¬ 1000000000 ≤ t.nanos - 1000000000 := by omega
    rw [← String.toList_inj, toList_render, toList_render]
    dsimp only
    rw [hday, hsecond]
    generalize (t.seconds % Instant.secondsPerDay).toNat = second at hinside ⊢
    have hhour : (second + 1) / 3600 = second / 3600 := by omega
    have hminute : (second + 1) / 60 % 60 = second / 60 % 60 := by omega
    have hnext : (second + 1) % 60 = second % 60 + 1 := by omega
    simp only [if_pos hleap, if_neg hplain, hhour, hminute, hnext, Nat.add_zero]
  · rfl

/-- The parts of a moment are read back one after the other. -/
theorem parseChars_textOf {date : Date} {hour minute second nanos : Nat} (hdate : date.isValid)
    (hyear : Instant.minYear ≤ date.year ∧ date.year ≤ Instant.maxYear) (hhour : hour ≤ 23)
    (hminute : minute ≤ 59) (hsecond : second ≤ 60) (hnanos : nanos < 1000000000) {t : Instant}
    (hseconds : t.seconds = date.days * Instant.secondsPerDay + hour * 3600 + minute * 60 +
      ((if second = 60 then 59 else second : Nat) : Int))
    (hpart : t.nanos = if second = 60 then nanos + 1000000000 else nanos)
    (hrange : Instant.minSeconds ≤ t.seconds ∧ t.seconds ≤ Instant.maxSeconds) :
    parseChars (textOf date hour minute second nanos) = .ok t := by
  have hvalid := hdate
  simp only [Date.isValid, Bool.and_eq_true, decide_eq_true_eq] at hvalid
  obtain ⟨⟨⟨hmonth, hmonth'⟩, hday⟩, hlength⟩ := hvalid
  have hday' : date.day ≤ 31 := by
    have hdays : daysInMonth date.year date.month ≤ 31 := by
      unfold daysInMonth
      split
      · split <;> decide
      all_goals decide
    omega
  have hyearPart : ∀ rest, yearPart ((yearText date.year).toList ++ '-' :: rest) =
      .ok (date.year, '-' :: rest) := by
    unfold Instant.minYear Instant.maxYear at hyear
    exact fun rest => yearPart_yearText (by omega) (by omega) (no_digit_of_cons (by decide) rest)
  have hblank : skipBlank ['Z'] = ['Z'] := skipBlank_cons (by decide) []
  have hzone : offset ['Z'] = .ok (0, []) := rfl
  have hend : skipBlank [] = [] := rfl
  have hinside : ¬ (date.year < Instant.minYear ∨ Instant.maxYear < date.year ∨
      (!date.isValid) = true) := by
    simp only [hdate, Bool.not_true, Bool.false_eq_true, or_false]
    omega
  have hmoved : t.addSeconds? 0 = some t := by
    simp only [Instant.addSeconds?, Int.add_zero]
    exact if_pos hrange
  have hshift : ¬ ((0 : Int) ≤ -Instant.secondsPerDay ∨ Instant.secondsPerDay ≤ 0) := by decide
  simp only [parseChars, textOf, hyearPart, mark_cons (c := '-') (by decide),
    mark_cons (c := ':') (by decide), part_padded hmonth hmonth' (by omega),
    part_padded hday hday' (by omega), separator, part_padded (Nat.zero_le hour) hhour (by omega),
    part_padded (Nat.zero_le minute) hminute (by omega),
    part_padded (Nat.zero_le second) hsecond (by omega), fractionPart_fractionText hnanos,
    hblank, hzone, hend, hinside, hshift, bind, Except.bind, pure, Except.pure, ne_eq,
    not_true_eq_false, true_or, if_true, if_false, Int.neg_zero, ← hseconds, ← hpart, hmoved]

/-- A moment is read back from its text. -/
theorem parse_render {t : Instant} (h : t.IsMoment) : parse (render t) = .ok t := by
  have hrange := h.range
  have hnanos := h.nanos
  have hdays : (Date.mk Instant.minYear 1 1).days ≤ t.seconds / Instant.secondsPerDay ∧
      t.seconds / Instant.secondsPerDay < (Date.mk (Instant.maxYear + 1) 1 1).days := by
    unfold Instant.minSeconds Instant.maxSeconds at hrange
    unfold Instant.secondsPerDay at hrange ⊢
    omega
  have hsecond : ((t.seconds % Instant.secondsPerDay).toNat : Int) =
      t.seconds % Instant.secondsPerDay := by
    unfold Instant.secondsPerDay
    omega
  have hdate := Date.days_ofDays (t.seconds / Instant.secondsPerDay)
  have hsplit : t.seconds / Instant.secondsPerDay * Instant.secondsPerDay +
      t.seconds % Instant.secondsPerDay = t.seconds := Int.ediv_mul_add_emod _ _
  have hday : t.seconds % Instant.secondsPerDay < 86400 := Int.emod_lt_of_pos _ (by decide)
  have hminute : t.seconds % 60 = t.seconds % Instant.secondsPerDay % 60 := by
    unfold Instant.secondsPerDay
    omega
  rw [parse, toList_render]
  generalize (t.seconds % Instant.secondsPerDay).toNat = second at *
  by_cases hleap : 1000000000 ≤ t.nanos
  · have hlast : second % 60 + 1 = 60 := by omega
    simp only [hleap, if_true, hlast]
    refine parseChars_textOf (Date.isValid_ofDays _) (Date.year_ofDays hdays.1 hdays.2) (by omega)
      (by omega) (by omega) (by omega) ?_ ?_ hrange
    · rw [if_pos rfl, hdate]
      omega
    · rw [if_pos rfl]
      omega
  · have hplain : second % 60 + 0 ≠ 60 := by omega
    simp only [hleap, if_false]
    refine parseChars_textOf (Date.isValid_ofDays _) (Date.year_ofDays hdays.1 hdays.2) (by omega)
      (by omega) (by omega) (by omega) ?_ ?_ hrange
    · rw [if_neg hplain, hdate]
      omega
    · rw [if_neg hplain]

/-! What is read. -/

theorem throw_bind_ne_ok {α β : Type} (fault : Fault) (f : α → Except Fault β) (b : β) :
    (throw fault >>= f) ≠ .ok b := by
  intro h
  obtain ⟨a, ha, _⟩ := bind_eq_ok.mp h
  contradiction

theorem digit?_lt {c : Char} {d : Nat} (h : digit? c = some d) : d < 10 := by
  unfold digit? at h
  split at h
  · next hc =>
    have hhigh : c.toNat ≤ 57 := hc.2
    have hzero : '0'.toNat = 48 := rfl
    rw [hzero] at h
    have := Option.some.inj h
    omega
  · contradiction

/-- A number that was read is bounded by the count of its digits. -/
theorem digits_lt {count : Option Nat} {acc n : Nat} {l rest : List Char}
    (h : digits count acc l = .ok (n, rest)) : ∃ k, l.length = rest.length + k ∧
      (∀ m ∈ count, k ≤ m) ∧ n < (acc + 1) * 10 ^ k := by
  induction l generalizing count acc with
  | nil =>
    obtain ⟨rfl, rfl⟩ := Prod.mk.inj (Except.ok.inj h)
    exact ⟨0, rfl, fun _ _ => Nat.zero_le _, by omega⟩
  | cons c l ih =>
    rw [digits] at h
    split at h
    · obtain ⟨rfl, rfl⟩ := Prod.mk.inj (Except.ok.inj h)
      exact ⟨0, rfl, fun _ _ => Nat.zero_le _, by omega⟩
    · next hmore =>
      cases hdigit : digit? c with
      | none =>
        simp only [hdigit] at h
        obtain ⟨rfl, rfl⟩ := Prod.mk.inj (Except.ok.inj h)
        exact ⟨0, rfl, fun _ _ => Nat.zero_le _, by omega⟩
      | some d =>
        simp only [hdigit] at h
        split at h
        · obtain ⟨k, hlength, hcount, hn⟩ := ih h
          have hd : d < 10 := digit?_lt hdigit
          refine ⟨k + 1, by rw [List.length_cons]; omega, fun m hm => ?_, ?_⟩
          · have hfewer := hcount (m - 1) (by simp [Option.mem_def.mp hm])
            have hpos : m ≠ 0 := by
              rintro rfl
              exact hmore hm
            omega
          · calc n < (acc * 10 + d + 1) * 10 ^ k := hn
              _ ≤ ((acc + 1) * 10) * 10 ^ k := Nat.mul_le_mul_right _ (by omega)
              _ = (acc + 1) * 10 ^ (k + 1) := by rw [Nat.pow_succ, Nat.mul_assoc, Nat.mul_comm 10]
        · contradiction

theorem fractionPart_lt {l rest : List Char} {n : Nat} (h : fractionPart l = .ok (n, rest)) :
    n < 1000000000 := by
  unfold fractionPart at h
  split at h
  · obtain ⟨⟨m, after⟩, hnumber, h⟩ := bind_eq_ok.mp h
    obtain ⟨rfl, rfl⟩ := Prod.mk.inj (Except.ok.inj h)
    unfold number at hnumber
    split at hnumber
    · contradiction
    · split at hnumber
      · contradiction
      · obtain ⟨k, hlength, hcount, hm⟩ := digits_lt hnumber
        have hk : k ≤ 9 := hcount 9 rfl
        rw [hlength, Nat.add_sub_cancel_left, Nat.pow_eq]
        calc m * 10 ^ (9 - k) < 10 ^ k * 10 ^ (9 - k) :=
              Nat.mul_lt_mul_of_pos_right (by omega) (Nat.pow_pos (by omega))
          _ = 10 ^ 9 := by rw [← Nat.pow_add, Nat.add_sub_cancel' hk]
  · obtain ⟨rfl, rfl⟩ := Prod.mk.inj (Except.ok.inj h)
    decide

theorem guarded_eq_ok {α : Type} {c : Prop} [Decidable c] {fault : Fault} {a b : α}
    (h : (if c then throw fault >>= fun (_ : PUnit) => pure a else pure a : Except Fault α) =
      .ok b) : b = a := by
  split at h
  · exact (throw_bind_ne_ok _ _ _ h).elim
  · exact (Except.ok.inj h).symm

theorem emod_of_minutes (negative : Bool) (x y p q : Nat) :
    (if negative = true then -((10 * (x : Int) + y) * 3600 + (10 * p + q) * 60)
      else (10 * (x : Int) + y) * 3600 + (10 * p + q) * 60) % 60 = 0 := by
  split <;> omega

/-- An offset is one of whole minutes. -/
theorem signedOffset_emod {l rest : List Char} {shift : Int}
    (h : signedOffset l = .ok (shift, rest)) : shift % 60 = 0 := by
  simp only [signedOffset] at h
  split at h
  · exact (throw_bind_ne_ok _ _ _ h).elim
  · split at h
    · obtain ⟨_, _, h⟩ := bind_eq_ok.mp h
      obtain ⟨_, _, h⟩ := bind_eq_ok.mp h
      obtain ⟨_, _, h⟩ := bind_eq_ok.mp h
      rw [(Prod.mk.inj (guarded_eq_ok h)).1]
      exact emod_of_minutes ..
    · split at h
      · obtain ⟨_, _, h⟩ := bind_eq_ok.mp h
        obtain ⟨_, _, h⟩ := bind_eq_ok.mp h
        obtain ⟨_, _, h⟩ := bind_eq_ok.mp h
        rw [(Prod.mk.inj (guarded_eq_ok h)).1]
        exact emod_of_minutes ..
      · exact (throw_bind_ne_ok _ _ _ h).elim

/-- Offsets are read in whole minutes. -/
theorem offset_emod {l rest : List Char} {shift : Int} (h : offset l = .ok (shift, rest)) :
    shift % 60 = 0 := by
  unfold offset at h
  split at h
  · split at h
    · obtain ⟨rfl, _⟩ := Prod.mk.inj (Except.ok.inj h)
      rfl
    · split at h
      · obtain ⟨rfl, _⟩ := Prod.mk.inj (Except.ok.inj h)
        rfl
      · exact signedOffset_emod h
  · split at h
    · obtain ⟨rfl, _⟩ := Prod.mk.inj (Except.ok.inj h)
      rfl
    · exact signedOffset_emod h
  · contradiction

/-- Whatever is read is a moment. -/
theorem isMoment_of_parse {s : String} {t : Instant} (h : parse s = .ok t) : t.IsMoment := by
  simp only [parse, parseChars, bind_eq_ok] at h
  obtain ⟨year, _, _, _, month, _, _, _, day, _, _, _, hour, _, _, _, minute, _, _, _, second,
    hsecond, fraction, hfraction, shift, hshift, h⟩ := h
  have hnanos := fractionPart_lt hfraction
  have hminutes := offset_emod hshift
  split at h
  · exact (throw_bind_ne_ok _ _ _ h).elim
  · split at h
    · exact (throw_bind_ne_ok _ _ _ h).elim
    · split at h
      · exact (throw_bind_ne_ok _ _ _ h).elim
      · split at h
        · next hmoved =>
          obtain rfl := Except.ok.inj h
          obtain ⟨hrange, hseconds, hpart⟩ := Instant.addSeconds?_eq_some hmoved
          refine ⟨hrange, ?_⟩
          rw [hpart, hseconds]
          unfold Instant.secondsPerDay
          dsimp only
          split <;> omega
        · contradiction

end Rfc3339

end ConfigRegistry.Time
