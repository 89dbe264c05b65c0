import Mathlib.Data.List.Basic
import ConfigRegistry.Page

/-!
Going through a listing by its pages. Whoever starts at the first page and follows the links comes
to an end, has seen every item in its place, and found all pages full but the last.
-/
namespace ConfigRegistry.Page

/-- How many items a page has room for, if it is asked for by a size. -/
def capacity (size : Option UInt32) : Nat := (Options.clamp none size).size.toNat

theorem capacity_eq (size : Option UInt32) :
    capacity size = min (max (size.getD (UInt32.ofNat defaultSize)).toNat 1) maxSize := by
  simp only [capacity, Options.clamp, UInt32.toNat_min, UInt32.toNat_max]
  rfl

theorem capacity_pos (size : Option UInt32) : 0 < capacity size := by
  rw [capacity_eq]
  unfold maxSize
  omega

theorem capacity_le (size : Option UInt32) : capacity size ≤ maxSize := by
  rw [capacity_eq]
  exact Nat.min_le_right ..

theorem number_clamp {n : UInt32} (h : 0 < n.toNat) (size : Option UInt32) :
    (Options.clamp (some n) size).number = n := by
  rw [← UInt32.toNat_inj, Options.clamp, Option.getD_some, UInt32.toNat_max]
  exact Nat.max_eq_left h

/-- The items before a page fill all earlier ones. -/
theorem offset_clamp {n : UInt32} (h : 0 < n.toNat) (size : Option UInt32) :
    (Options.clamp (some n) size).offset = ((n.toNat - 1) * capacity size : Nat) := by
  have hroom : (Options.clamp (some n) size).size.toNat = capacity size := rfl
  have hbound : (n.toNat - 1) * capacity size ≤ UInt32.size * maxSize :=
    Nat.mul_le_mul (Nat.le_trans (Nat.sub_le ..) (Nat.le_of_lt n.toNat_lt)) (capacity_le size)
  have hhalf : UInt32.size * maxSize < UInt64.size / 2 := by decide
  have hsub : ((n.toNat : Int) - 1) = (n.toNat - 1 : Nat) := by omega
  rw [Options.offset, number_clamp h, hroom, hsub, ← Int.natCast_mul]
  apply Int.bmod_eq_of_le <;> omega

variable {α : Type} {all : List α} {size : Option UInt32} {n : UInt32}

def numbered (all : List α) (size : Option UInt32) (n : UInt32) : Page α :=
  .ofItems all (.clamp (some n) size)

theorem items_numbered (all : List α) (size : Option UInt32) (h : 0 < n.toNat) :
    (numbered all size n).items = (all.drop ((n.toNat - 1) * capacity size)).take
      (capacity size) := by
  have hroom : (Options.clamp (some n) size).size.toNat = capacity size := rfl
  simp only [numbered, ofItems, offset_clamp h, hroom]
  rw [if_neg (by omega), Int.toNat_natCast]

/-- A page has no items exactly if the pages before it have room for all. -/
theorem items_numbered_eq_nil (h : 0 < n.toNat) :
    (numbered all size n).items = [] ↔ all.length ≤ (n.toNat - 1) * capacity size := by
  have hroom := capacity_pos size
  rw [items_numbered all size h, List.take_eq_nil_iff, List.drop_eq_nil_iff]
  constructor
  · rintro (hzero | hall)
    · omega
    · exact hall
  · exact Or.inr

theorem count_numbered (hall : all.length < UInt64.size) (size : Option UInt32) (n : UInt32) :
    (numbered all size n).position.items.toNat = all.length := by
  show (UInt64.ofNat all.length).toNat = all.length
  rw [UInt64.toNat_ofNat', Nat.mod_eq_of_lt hall]

/-- Items that are put on pages of a size take no more pages than one for each. -/
theorem pages_lt (count : Nat) {size : Nat} (hsize : 0 < size) :
    (count + size - 1) / size < count + 1 := by
  have hcount : count ≤ count * size := Nat.le_mul_of_pos_right count hsize
  rw [Nat.div_lt_iff_lt_mul hsize, Nat.add_mul, Nat.one_mul]
  omega

/-- A page is not the last one exactly if it and the pages before it have no room for all items. -/
theorem lt_pages_iff {number count size : Nat} (hsize : 0 < size) :
    number < (count + size - 1) / size ↔ number * size < count := by
  rw [← Nat.succ_le_iff, Nat.le_div_iff_mul_le hsize, Nat.succ_mul]
  omega

/-- A page links to the next one exactly if it and the pages before it have no room for all
items. -/
theorem next_numbered (hall : all.length < UInt32.size) (size : Option UInt32)
    (h : 0 < n.toNat) :
    (numbered all size n).position.next =
      if n.toNat * capacity size < all.length then some (n + 1) else none := by
  have hroom := capacity_pos size
  have hlast : n < UInt32.ofNat (max ((all.length + capacity size - 1) / capacity size) 1) ↔
      n.toNat * capacity size < all.length := by
    have hpages := pages_lt all.length hroom
    have hword : UInt32.size = 4294967296 := rfl
    rw [UInt32.lt_iff_toNat_lt, UInt32.toNat_ofNat', Nat.mod_eq_of_lt (by omega),
      ← lt_pages_iff hroom]
    omega
  have hcount : (UInt64.ofNat all.length).toNat = all.length :=
    count_numbered (Nat.lt_trans hall (by decide)) size n
  have hsize : max (Options.clamp (some n) size).size.toNat 1 = capacity size :=
    Nat.max_eq_left hroom
  simp only [numbered, ofItems, Position.of, hcount, hsize, number_clamp h, hlast]

/-! Following links. -/

/-- The pages that come one after the other from a number on, each by the link of the one before it,
up to one that has no link. -/
inductive Follows (page : UInt32 → Page α) : UInt32 → List (Page α) → Prop
  | last {n : UInt32} (h : (page n).position.next = none) : Follows page n [page n]
  | link {n next : UInt32} {rest : List (Page α)} (h : (page n).position.next = some next)
      (hrest : Follows page next rest) : Follows page n (page n :: rest)

/-- A client that goes from page to page has no choice of which pages it sees. -/
theorem Follows.unique {page : UInt32 → Page α} {pages pages' : List (Page α)}
    (h : Follows page n pages) (h' : Follows page n pages') : pages = pages' := by
  induction h generalizing pages' with
  | last hnone =>
    cases h' with
    | last _ => rfl
    | link hnext _ => simp [hnone] at hnext
  | link hnext _ ih =>
    cases h' with
    | last hnone => simp [hnext] at hnone
    | link hnext' hrest =>
      obtain rfl := Option.some.inj (hnext.symm.trans hnext')
      rw [ih hrest]

/-- The pages hold the items of a listing from an index on, in their order. All but the last are
full, and together with the items before them they have room for all. -/
structure Covers (all : List α) (room start : Nat) (pages : List (Page α)) : Prop where
  items : pages.flatMap (·.items) = all.drop start
  full : ∀ p ∈ pages.dropLast, p.items.length = room
  enough : all.length ≤ start + pages.length * room

/-- A page ends where the next one starts. -/
theorem start_add_capacity (h : 0 < n.toNat) (size : Option UInt32) :
    (n.toNat - 1) * capacity size + capacity size = n.toNat * capacity size := by
  rw [← Nat.succ_mul, Nat.succ_eq_add_one, Nat.sub_add_cancel h]

theorem covers_last (h : 0 < n.toNat) (hlast : all.length ≤ n.toNat * capacity size) :
    Covers all (capacity size) ((n.toNat - 1) * capacity size) [numbered all size n] := by
  have hend := start_add_capacity h size
  refine ⟨?_, fun p hp => absurd hp (by simp), ?_⟩
  · rw [List.flatMap_singleton, items_numbered all size h, List.take_of_length_le]
    rw [List.length_drop]
    omega
  · rw [List.length_singleton]
    omega

/-- One page put before those that cover the rest, when another page follows it. -/
theorem Covers.cons {pages : List (Page α)} (h : 0 < n.toNat)
    (hmore : n.toNat * capacity size < all.length)
    (hrest : Covers all (capacity size) (n.toNat * capacity size) pages) :
    Covers all (capacity size) ((n.toNat - 1) * capacity size)
      (numbered all size n :: pages) := by
  have hend := start_add_capacity h size
  refine ⟨?_, fun p hp => ?_, ?_⟩
  · rw [List.flatMap_cons, hrest.items, items_numbered all size h, ← hend, ← List.drop_drop,
      List.take_append_drop]
  · have hmem : p = numbered all size n ∨ p ∈ pages.dropLast := by
      cases pages with
      | nil => exact absurd hp (by simp)
      | cons q rest => exact List.mem_cons.mp hp
    rcases hmem with rfl | hlater
    · rw [items_numbered all size h, List.length_take, List.length_drop]
      omega
    · exact hrest.full p hlater
  · have henough := hrest.enough
    rw [List.length_cons, Nat.succ_mul]
    omega

/-- From every page on, the links lead to an end, past all items that are not before the page. -/
theorem exists_covers (hall : all.length < UInt32.size) (size : Option UInt32)
    (h : 0 < n.toNat) :
    ∃ pages, Follows (numbered all size) n pages ∧
      Covers all (capacity size) ((n.toNat - 1) * capacity size) pages := by
  -- Every page that links on has fewer items behind it than the page before.
  induction hleft : all.length - n.toNat * capacity size using Nat.strongRecOn generalizing n with
  | ind left ih =>
    have hnext := next_numbered hall size h
    by_cases hmore : n.toNat * capacity size < all.length
    · have hroom := capacity_pos size
      have hnumber : n.toNat ≤ n.toNat * capacity size := Nat.le_mul_of_pos_right _ hroom
      have hword : UInt32.size = 4294967296 := rfl
      have hsucc : (n + 1).toNat = n.toNat + 1 := by
        rw [UInt32.toNat_add, UInt32.toNat_one, Nat.mod_eq_of_lt (by omega)]
      have hend : (n + 1).toNat * capacity size = n.toNat * capacity size + capacity size := by
        rw [hsucc, Nat.succ_mul]
      obtain ⟨pages, hfollows, hcovers⟩ := ih _ (by omega) (n := n + 1) (by omega) rfl
      rw [hsucc, Nat.add_sub_cancel] at hcovers
      rw [if_pos hmore] at hnext
      exact ⟨_, .link hnext hfollows, hcovers.cons h hmore⟩
    · rw [if_neg hmore] at hnext
      exact ⟨_, .last hnext, covers_last h (Nat.not_lt.mp hmore)⟩

/-- From the first page on, the links lead past all items. -/
theorem Follows.covers {pages : List (Page α)} (hall : all.length < UInt32.size)
    (h : Follows (numbered all size) 1 pages) : Covers all (capacity size) 0 pages := by
  obtain ⟨pages', hfollows, hcovers⟩ := exists_covers hall size (n := 1) (by decide)
  rw [h.unique hfollows]
  simpa using hcovers

/-- Behind the pages that the links lead to there is nothing. -/
theorem Covers.beyond {pages : List (Page α)} (h : Covers all (capacity size) 0 pages)
    (hn : pages.length < n.toNat) : (numbered all size n).items = [] := by
  have hpages : pages.length * capacity size ≤ (n.toNat - 1) * capacity size :=
    Nat.mul_le_mul_right _ (by omega)
  have henough := h.enough
  exact (items_numbered_eq_nil (by omega)).mpr (by omega)

end ConfigRegistry.Page
