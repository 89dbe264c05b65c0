import ConfigRegistry.Time.Instant

/-!
The day of a number of days is a day of the calendar, and has that number; it lies in a year that a
moment can lie in if the number is that of such a day.
-/
namespace ConfigRegistry.Time

/-- A day of an era of 400 years: the century in the era, the four years in the century, the year in
those and the day in the year. Only a leap year has the day 365; the last year of a century has it
only at the end of the era. -/
structure EraDay where
  century : Int
  four : Int
  year : Int
  day : Int
  century_bounds : 0 ≤ century ∧ century ≤ 3
  four_bounds : 0 ≤ four ∧ four ≤ 24
  year_bounds : 0 ≤ year ∧ year ≤ 3
  day_bounds : 0 ≤ day ∧ day ≤ 365
  leap : day = 365 → year = 3 ∧ (four = 24 → century = 3)

namespace EraDay

def number (d : EraDay) : Int := 36524 * d.century + 1461 * d.four + 365 * d.year + d.day

def yearOfEra (d : EraDay) : Int := 100 * d.century + 4 * d.four + d.year

/-- Every number of days within an era is that of a day. -/
theorem exists_number_eq {n : Int} (hlow : 0 ≤ n) (hhigh : n < 146097) :
    ∃ d : EraDay, d.number = n := by
  obtain ⟨century, hcentury⟩ : ∃ c, c = min 3 (n / 36524) := ⟨_, rfl⟩
  obtain ⟨inCentury, hinCentury⟩ : ∃ r, r = n - 36524 * century := ⟨_, rfl⟩
  obtain ⟨four, hfour⟩ : ∃ q, q = inCentury / 1461 := ⟨_, rfl⟩
  obtain ⟨inFour, hinFour⟩ : ∃ s, s = inCentury - 1461 * four := ⟨_, rfl⟩
  obtain ⟨year, hyear⟩ : ∃ j, j = min 3 (inFour / 365) := ⟨_, rfl⟩
  have hcenturies : 0 ≤ century ∧ century ≤ 3 ∧ 0 ≤ inCentury ∧ inCentury ≤ 36524 ∧
      (inCentury = 36524 → century = 3) := by omega
  have hfours : 0 ≤ inFour ∧ inFour < 1461 := by omega
  refine ⟨⟨century, four, year, inFour - 365 * year, by omega, by omega, by omega, by omega,
    fun hday => ⟨by omega, by omega⟩⟩, ?_⟩
  show 36524 * century + 1461 * four + 365 * year + (inFour - 365 * year) = n
  omega

variable (d : EraDay)

theorem yearOfEra_bounds : 0 ≤ d.yearOfEra ∧ d.yearOfEra < 400 := by
  have hcentury := d.century_bounds
  have hfour := d.four_bounds
  have hyear := d.year_bounds
  unfold yearOfEra
  omega

theorem number_eq :
    d.number = 365 * d.yearOfEra + d.yearOfEra / 4 - d.yearOfEra / 100 + d.day := by
  have hfour := d.four_bounds
  have hyear := d.year_bounds
  have hfours : d.yearOfEra / 4 = 25 * d.century + d.four := by
    unfold yearOfEra
    omega
  have hcenturies : d.yearOfEra / 100 = d.century := by
    unfold yearOfEra
    omega
  rw [hfours, hcenturies, number, yearOfEra]
  omega

/-- The days that are one too many for years of 365 days do not move a day to another year. -/
theorem yearOfEra_eq : (d.number - d.number / 1460 + d.number / 36524 - d.number / 146096) / 365 =
    d.yearOfEra := by
  obtain ⟨century, four, year, day, hcentury, hfour, hyear, hday, hleap⟩ := d
  simp only [number, yearOfEra]
  generalize hn : 36524 * century + 1461 * four + 365 * year + day = n
  have hcenturies : n / 36524 - n / 146096 = century := by
    have hlast : 0 ≤ n - 36524 * century ∧
        (n - 36524 * century < 36524 ∨ n - 36524 * century = 36524 ∧ century = 3) := by omega
    clear hleap hday hyear hfour hn
    have hcases : century = 0 ∨ century = 1 ∨ century = 2 ∨ century = 3 := by omega
    rcases hcases with rfl | rfl | rfl | rfl <;> omega
  have hfours : n / 1460 =
      25 * century + four + (24 * century + four + 365 * year + day) / 1460 := by omega
  have hrest : 0 ≤ day - (24 * century + four + 365 * year + day) / 1460 ∧
      day - (24 * century + four + 365 * year + day) / 1460 < 365 := by
    clear hn hcenturies hfours
    omega
  clear hleap hday hyear hfour hcentury
  have hsum : n - n / 1460 + n / 36524 - n / 146096 = 365 * (100 * century + 4 * four + year) +
      (day - (24 * century + four + 365 * year + day) / 1460) := by omega
  rw [hsum]
  generalize day - (24 * century + four + 365 * year + day) / 1460 = rest at hrest
  clear hsum hcenturies hfours hn
  omega

/-- A day 365 belongs to a leap year, whose number is that of the year in which it ends. -/
theorem isLeap_of_day_eq (h : d.day = 365) (era : Int) :
    isLeap (era * 400 + d.yearOfEra + 1) := by
  obtain ⟨hyear, hcentury⟩ := d.leap h
  have hcenturies := d.century_bounds
  have hfours := d.four_bounds
  unfold yearOfEra
  simp only [isLeap, decide_eq_true_eq]
  omega

end EraDay

namespace Date

theorem ofDays_eq (n : Int) : ∃ (era : Int) (d : EraDay), n = era * 146097 + d.number - 719468 ∧
    ofDays n =
      let month := (5 * d.day + 2) / 153
      let civil := if month < 10 then month + 3 else month - 9
      ⟨era * 400 + d.yearOfEra + (if civil ≤ 2 then 1 else 0), civil.toNat,
        (d.day - (153 * month + 2) / 5 + 1).toNat⟩ := by
  obtain ⟨d, hd⟩ := EraDay.exists_number_eq (n := (n + 719468) % 146097) (by omega) (by omega)
  refine ⟨(n + 719468) / 146097, d, by omega, ?_⟩
  have hyear := d.yearOfEra_eq
  have hday : d.number - (365 * d.yearOfEra + d.yearOfEra / 4 - d.yearOfEra / 100) = d.day := by
    have hnumber := d.number_eq
    omega
  simp only [ofDays, ← hd, hyear, hday]

def monthFromMarch (d : Date) : Int := if d.month ≤ 2 then d.month + 9 else d.month - 3

/-- A date as a year and a day of it, both counted from March. -/
structure FromMarch (d : Date) (year dayOfYear : Int) : Prop where
  year_eq : d.year = if d.month ≤ 2 then year + 1 else year
  month_bounds : 1 ≤ d.month ∧ d.month ≤ 12
  month_eq : (5 * dayOfYear + 2) / 153 = d.monthFromMarch
  day_pos : 1 ≤ d.day
  day_eq : dayOfYear = (153 * d.monthFromMarch + 2) / 5 + d.day - 1

/-- Whatever the number of a day, its date is counted from a March and within one year. -/
theorem fromMarch_ofDays (n : Int) : ∃ (era : Int) (d : EraDay),
    n = era * 146097 + d.number - 719468 ∧
      (ofDays n).FromMarch (era * 400 + d.yearOfEra) d.day := by
  obtain ⟨era, d, hn, hdate⟩ := ofDays_eq n
  have hday := d.day_bounds
  refine ⟨era, d, hn, ?_⟩
  rw [hdate]
  generalize hmonth : (5 * d.day + 2) / 153 = month
  have hmonths : 0 ≤ month ∧ month ≤ 11 := by omega
  have hstart : (153 * month + 2) / 5 ≤ d.day := by omega
  by_cases hspring : month < 10
  · have hlate : ¬ (month + 3).toNat ≤ 2 ∧ ¬ month + 3 ≤ 2 := by omega
    have hcount : ((month + 3).toNat : Int) - 3 = month := by omega
    simp only [hspring, if_true]
    exact {
      year_eq := by simp only [hlate, if_false, Int.add_zero]
      month_bounds := by simp only; omega
      month_eq := by simp only [monthFromMarch, hlate, if_false, hcount, hmonth]
      day_pos := by simp only; omega
      day_eq := by
        simp only [monthFromMarch, hlate, if_false, hcount]
        omega }
  · have hearly : (month - 9).toNat ≤ 2 ∧ month - 9 ≤ 2 := by omega
    have hcount : ((month - 9).toNat : Int) + 9 = month := by omega
    simp only [hspring, if_false]
    exact {
      year_eq := by simp only [hearly, if_true]
      month_bounds := by simp only; omega
      month_eq := by simp only [monthFromMarch, hearly, if_true, hcount, hmonth]
      day_pos := by simp only; omega
      day_eq := by
        simp only [monthFromMarch, hearly, if_true, hcount]
        omega }

/-- The days before the first of March of a year, from that of the year zero on. -/
def daysBefore (year : Int) : Int := 365 * year + year / 4 - year / 100 + year / 400

/-- A later year begins at least 365 days later. -/
theorem daysBefore_lt {year next : Int} (h : year < next) :
    daysBefore year + 365 ≤ daysBefore next := by
  have hfours : ∀ y : Int, y / 4 = 25 * (y / 100) + y % 100 / 4 := fun y => by omega
  have heras : ∀ y : Int, y / 400 = y / 100 / 4 := fun y => by omega
  have hyears : ∀ y : Int, y = 100 * (y / 100) + y % 100 := fun y => by omega
  have hrest : ∀ y : Int, 0 ≤ y % 100 ∧ y % 100 < 100 := fun y => by omega
  have hsplit := hyears year
  have hsplit' := hyears next
  have hbounds := hrest year
  have hbounds' := hrest next
  unfold daysBefore
  rw [hfours, hfours next, heras, heras next]
  generalize year / 100 = century at *
  generalize year % 100 = rest at *
  generalize next / 100 = century' at *
  generalize next % 100 = rest' at *
  have hcases : century < century' ∨ century = century' ∧ rest < rest' := by omega
  rcases hcases with hless | ⟨rfl, hless⟩ <;> omega

namespace FromMarch

variable {d : Date} {year dayOfYear : Int}

theorem days_eq (h : d.FromMarch year dayOfYear) :
    d.days = daysBefore year + dayOfYear - 719468 := by
  have hyear : (if d.month ≤ 2 then d.year - 1 else d.year) = year := by
    rw [h.year_eq]
    split <;> omega
  have hfours : year / 4 = year / 400 * 100 + year % 400 / 4 := by omega
  have hcenturies : year / 100 = year / 400 * 4 + year % 400 / 100 := by omega
  have hday := h.day_eq
  unfold monthFromMarch at hday
  unfold days daysBefore
  simp only [hyear, ← hday, hfours, hcenturies]
  omega

/-- A day counted from March is a date of the calendar when its year is long enough for it. -/
theorem isValid (h : d.FromMarch year dayOfYear) (hday : dayOfYear ≤ 365)
    (hleap : dayOfYear = 365 → isLeap (year + 1)) : d.isValid := by
  obtain ⟨hlow, hhigh⟩ := h.month_bounds
  have hyear := h.year_eq
  have hmonth := h.month_eq
  have hdays := h.day_eq
  have hlength : d.day ≤ daysInMonth d.year d.month := by
    unfold monthFromMarch at hmonth hdays
    obtain ⟨year', month, day⟩ := d
    simp only at *
    have hcases : month = 1 ∨ month = 2 ∨ month = 3 ∨ month = 4 ∨ month = 5 ∨ month = 6 ∨
      month = 7 ∨ month = 8 ∨ month = 9 ∨ month = 10 ∨ month = 11 ∨ month = 12 := by omega
    rcases hcases with rfl | rfl | rfl | rfl | rfl | rfl | rfl | rfl | rfl | rfl | rfl | rfl
    case inr.inl =>
      simp only [Nat.le_refl, if_true] at hyear hdays hmonth
      rw [daysInMonth, hyear]
      split
      · omega
      · next hcommon =>
        have hne : dayOfYear ≠ 365 := fun h => hcommon (hleap h)
        omega
    all_goals
      simp at hmonth hdays
      simp only [daysInMonth]
      omega
  simp [Date.isValid, hlow, hhigh, h.day_pos, hlength]

theorem newYear (year : Int) : (Date.mk year 1 1).FromMarch (year - 1) 306 where
  year_eq := by simp
  month_bounds := by simp
  month_eq := by simp [monthFromMarch]
  day_pos := by simp
  day_eq := by simp [monthFromMarch]

/-- A day comes before a year exactly if its date does. -/
theorem days_lt_iff (h : d.FromMarch year dayOfYear) (hday : 0 ≤ dayOfYear ∧ dayOfYear ≤ 365)
    (next : Int) : d.days < (Date.mk next 1 1).days ↔ d.year < next := by
  have hyear := h.year_eq
  have hmonth := h.month_eq
  have hmonths := h.month_bounds
  have hbefore : year < next - 1 → daysBefore year + 365 ≤ daysBefore (next - 1) := daysBefore_lt
  have hafter : next - 1 < year → daysBefore (next - 1) + 365 ≤ daysBefore year := daysBefore_lt
  have hsame : year = next - 1 → daysBefore year = daysBefore (next - 1) := congrArg _
  rw [h.days_eq, (newYear next).days_eq]
  unfold monthFromMarch at hmonth
  split at hyear <;> simp only [*, if_true, if_false] at hmonth <;> omega

end FromMarch

theorem days_ofDays (n : Int) : (ofDays n).days = n := by
  obtain ⟨era, d, hn, hmarch⟩ := fromMarch_ofDays n
  have hyear := d.yearOfEra_bounds
  have hnumber := d.number_eq
  have hfours : (era * 400 + d.yearOfEra) / 4 = era * 100 + d.yearOfEra / 4 := by omega
  have hcenturies : (era * 400 + d.yearOfEra) / 100 = era * 4 + d.yearOfEra / 100 := by omega
  rw [hmarch.days_eq, daysBefore, hfours, hcenturies]
  omega

theorem isValid_ofDays (n : Int) : (ofDays n).isValid := by
  obtain ⟨era, d, _, hmarch⟩ := fromMarch_ofDays n
  exact hmarch.isValid d.day_bounds.2 fun hday => d.isLeap_of_day_eq hday era

/-- The date of a day in the range of moments lies in a year of that range. -/
theorem year_ofDays {n : Int} (hlow : (Date.mk Instant.minYear 1 1).days ≤ n)
    (hhigh : n < (Date.mk (Instant.maxYear + 1) 1 1).days) :
    Instant.minYear ≤ (ofDays n).year ∧ (ofDays n).year ≤ Instant.maxYear := by
  obtain ⟨era, d, _, hmarch⟩ := fromMarch_ofDays n
  have hfirst := hmarch.days_lt_iff d.day_bounds Instant.minYear
  have hlast := hmarch.days_lt_iff d.day_bounds (Instant.maxYear + 1)
  rw [days_ofDays] at hfirst hlast
  omega

end Date

end ConfigRegistry.Time
