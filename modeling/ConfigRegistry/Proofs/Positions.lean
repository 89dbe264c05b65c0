import Mathlib.Algebra.Order.Floor.Div
import ConfigRegistry.Proofs.Pages

/-!
The place of a page among all pages. Items are counted in 64 bits and pages in 32. As long as the
number of pages has 32 bits, it is told exactly, and a page links on exactly if items are behind it;
of a greater number only the lower 32 bits are told, and links are lost. What stands before a page
is exact for every listing.
-/
namespace ConfigRegistry.Page

/-- How many pages have room for all items; a listing without items has one page. -/
def pagesFor (items size : Nat) : Nat := max 1 (items ⌈/⌉ size)

theorem pagesFor_le_iff {items size pages : Nat} (hsize : 0 < size) (hpages : 0 < pages) :
    pagesFor items size ≤ pages ↔ items ≤ size * pages := by
  rw [pagesFor, max_le_iff, ceilDiv_le_iff_le_mul hsize]
  exact and_iff_right hpages

/-- A page is not the last one exactly if it and the pages before it have no room for all items. -/
theorem lt_pagesFor_iff {items size number : Nat} (hsize : 0 < size) (hnumber : 0 < number) :
    number < pagesFor items size ↔ number * size < items := by
  rw [← Nat.not_le, pagesFor_le_iff hsize hnumber, Nat.not_le, Nat.mul_comm]

variable {o : Options}

/-- A page in range: pages are counted from one and have room for one to 100 items. -/
structure Options.InRange (o : Options) : Prop where
  number : 0 < o.number.toNat
  room : 0 < o.size.toNat
  small : o.size.toNat ≤ maxSize

theorem inRange_clamp (number size : Option UInt32) : (Options.clamp number size).InRange where
  number := by
    rw [Options.clamp, UInt32.toNat_max]
    exact Nat.lt_of_lt_of_le Nat.one_pos (Nat.le_max_right ..)
  room := capacity_pos size
  small := capacity_le size

/-- The number of pages is told in 32 bits. -/
theorem pages_of (h : o.InRange) (items : UInt64) :
    (Position.of o items).pages.toNat = pagesFor items.toNat o.size.toNat % UInt32.size := by
  have hroom : max o.size.toNat 1 = o.size.toNat := Nat.max_eq_left h.room
  simp only [Position.of, hroom, pagesFor, Nat.ceilDiv_eq_add_pred_div, Nat.max_comm 1]
  exact UInt32.toNat_ofNat'

theorem pages_of_eq_iff (h : o.InRange) (items : UInt64) :
    (Position.of o items).pages.toNat = pagesFor items.toNat o.size.toNat ↔
      items.toNat ≤ o.size.toNat * (UInt32.size - 1) := by
  rw [pages_of h, Nat.mod_eq_iff_lt (by decide), Nat.lt_iff_le_pred (by decide)]
  exact pagesFor_le_iff h.room (by decide)

/-- A page links on exactly if its number is below the number of pages that is told. -/
theorem next_of (o : Options) (items : UInt64) (m : UInt32) :
    (Position.of o items).next = some m ↔
      o.number.toNat < (Position.of o items).pages.toNat ∧ m.toNat = o.number.toNat + 1 := by
  have hnext : (Position.of o items).next =
      if o.number < (Position.of o items).pages then some (o.number + 1) else none := rfl
  have hword := (Position.of o items).pages.toNat_lt
  rw [hnext]
  split
  · next hmore =>
    rw [UInt32.lt_iff_toNat_lt] at hmore
    have hsucc : (o.number + 1).toNat = o.number.toNat + 1 := by
      rw [UInt32.toNat_add, UInt32.toNat_one, Nat.mod_eq_of_lt (by omega)]
    rw [Option.some.injEq, ← UInt32.toNat_inj, hsucc, eq_comm, and_iff_right hmore]
  · next hlast =>
    rw [UInt32.lt_iff_toNat_lt] at hlast
    simp [hlast]

/-- A page links back exactly if it is not the first one. -/
theorem previous_of (o : Options) (items : UInt64) (m : UInt32) :
    (Position.of o items).previous = some m ↔
      1 < o.number.toNat ∧ m.toNat = o.number.toNat - 1 := by
  have hprevious : (Position.of o items).previous =
      if 1 < o.number then some (o.number - 1) else none := rfl
  rw [hprevious]
  split
  · next hlater =>
    rw [UInt32.lt_iff_toNat_lt, UInt32.toNat_one] at hlater
    have hpred : (o.number - 1).toNat = o.number.toNat - 1 :=
      UInt32.toNat_sub_of_le _ _ (by rw [UInt32.le_iff_toNat_le, UInt32.toNat_one]; omega)
    rw [Option.some.injEq, ← UInt32.toNat_inj, hpred, eq_comm, and_iff_right hlater]
  · next hfirst =>
    rw [UInt32.lt_iff_toNat_lt, UInt32.toNat_one] at hfirst
    simp [hfirst]

/-- A page in range stays as it is. -/
theorem clamp_eq_self (h : o.InRange) : Options.clamp (some o.number) (some o.size) = o := by
  have hnumber : (Options.clamp (some o.number) (some o.size)).number = o.number :=
    number_clamp h.number _
  have hsize : (Options.clamp (some o.number) (some o.size)).size = o.size := by
    have hroom := capacity_eq (some o.size)
    rw [Option.getD_some, Nat.max_eq_left h.room, Nat.min_eq_left h.small] at hroom
    exact UInt32.toNat_inj.mp hroom
  cases o
  exact congrArg₂ Options.mk hnumber hsize

/-- The items before a page fill all earlier ones, with nothing lost in 64 bits. -/
theorem offset_of_inRange (h : o.InRange) :
    o.offset = ((o.number.toNat - 1) * o.size.toNat : Nat) ∧
      0 ≤ o.offset ∧ o.offset < (UInt64.size / 2 : Nat) := by
  have hoffset := offset_clamp h.number (some o.size)
  have hroom : capacity (some o.size) = (Options.clamp (some o.number) (some o.size)).size.toNat :=
    rfl
  rw [hroom, clamp_eq_self h] at hoffset
  have hbound : (o.number.toNat - 1) * o.size.toNat ≤ UInt32.size * maxSize :=
    Nat.mul_le_mul (Nat.le_trans (Nat.sub_le ..) (Nat.le_of_lt o.number.toNat_lt)) h.small
  have hhalf : UInt32.size * maxSize < UInt64.size / 2 := by decide
  exact ⟨hoffset, by omega, by omega⟩

/-- A place tells how many pages there are, and links on exactly if there are items behind it. -/
structure Position.IsExact (p : Position) (o : Options) (items : Nat) : Prop where
  pages : p.pages.toNat = max 1 (items ⌈/⌉ o.size.toNat)
  next : ∀ m : UInt32, p.next = some m ↔
    o.number.toNat * o.size.toNat < items ∧ m.toNat = o.number.toNat + 1

theorem isExact_of_iff (h : o.InRange) (items : UInt64) :
    (Position.of o items).IsExact o items.toNat ↔
      items.toNat ≤ o.size.toNat * (UInt32.size - 1) := by
  rw [← pages_of_eq_iff h items]
  refine ⟨Position.IsExact.pages, fun hpages => ⟨hpages, fun m => ?_⟩⟩
  rw [next_of, hpages, lt_pagesFor_iff h.room h.number]

/-- The place of a page is told exactly as long as the number of pages has 32 bits, and only so
long; whatever the number, its lower 32 bits are told, and links go by them. The page before and the
items before are exact for every listing, and the numbers that say so stay within their bounds. -/
theorem place_told (number size : Option UInt32) (items : UInt64) :
    let o := Options.clamp number size
    let p := Position.of o items
    let pages := max 1 (items.toNat ⌈/⌉ o.size.toNat)
    (p.IsExact o items.toNat ↔ items.toNat ≤ o.size.toNat * (UInt32.size - 1)) ∧
      p.pages.toNat = pages % UInt32.size ∧
      (∀ m : UInt32, p.next = some m ↔
        o.number.toNat < pages % UInt32.size ∧ m.toNat = o.number.toNat + 1) ∧
      (∀ m : UInt32, p.previous = some m ↔
        1 < o.number.toNat ∧ m.toNat = o.number.toNat - 1) ∧
      (o.offset = ((o.number.toNat - 1) * o.size.toNat : Nat) ∧
        0 ≤ o.offset ∧ o.offset < (UInt64.size / 2 : Nat)) ∧
      o.limit = o.size.toNat ∧ 0 ≤ o.limit ∧ o.limit < (UInt64.size / 2 : Nat) := by
  intro o p pages
  have h : o.InRange := inRange_clamp number size
  have hpages : p.pages.toNat = pages % UInt32.size := pages_of h items
  have hlimit : o.size.toNat < UInt64.size / 2 :=
    Nat.lt_of_le_of_lt h.small (by decide)
  refine ⟨isExact_of_iff h items, hpages, fun m => ?_, previous_of o items, offset_of_inRange h,
    rfl, Int.natCast_nonneg _, Int.ofNat_lt.mpr hlimit⟩
  rw [next_of, hpages]

/-- One item more than 32 bits count, on pages of one item: no page is told, and the first one
links to none, though all other items are behind it. -/
theorem pages_lost :
    let o := Options.clamp (some 1) (some 1)
    let p := Position.of o 4294967296
    p.pages = 0 ∧ p.next = none ∧ max 1 (4294967296 ⌈/⌉ o.size.toNat) = 4294967296 ∧
      o.number.toNat * o.size.toNat < 4294967296 ∧ ¬ p.IsExact o 4294967296 := by
  have hpages : max 1 (4294967296 ⌈/⌉ (Options.clamp (some 1) (some 1)).size.toNat) =
      4294967296 := by
    rw [Nat.ceilDiv_eq_add_pred_div]
    decide
  refine ⟨by decide, by decide, hpages, by decide, fun h => ?_⟩
  have htold := h.pages.trans hpages
  contradiction

end ConfigRegistry.Page
