import ConfigRegistry.Proofs.Coding.Form
import ConfigRegistry.Proofs.Url.Fronts

/-!
Pairs in the query of an address. Who is sent to an address finds in its text the pairs that it had
before, and behind them those that were added.
-/
namespace ConfigRegistry.Url

open Coding

def queryPairs (address : String) : List (String × String) :=
  ((Parts.ofText address.toList).query.map fun q =>
    Form.decode (Utf8.encode (String.ofList q))).getD []

def marked (mark : Char) (behind : Option (List Char)) : List Char :=
  (behind.map (mark :: ·)).getD []

/-- Up to a mark, one reads what stands before it. -/
theorem takeWhile_marked {mark : Char} {before : List Char} (h : mark ∉ before)
    (behind : Option (List Char)) :
    (before ++ marked mark behind).takeWhile (· != mark) = before := by
  have hbefore : ∀ c ∈ before, (c != mark) = true := fun c hc =>
    bne_iff_ne.mpr fun heq => h (heq ▸ hc)
  rw [List.takeWhile_append_of_pos hbefore]
  cases behind with
  | none => exact List.append_nil before
  | some rest =>
    have hend : (marked mark (some rest)).takeWhile (· != mark) = [] :=
      List.takeWhile_cons_of_neg (by simp)
    rw [hend, List.append_nil]

theorem dropWhile_marked {mark : Char} {before : List Char} (h : mark ∉ before)
    (behind : Option (List Char)) :
    (before ++ marked mark behind).dropWhile (· != mark) = marked mark behind := by
  have hbefore : ∀ c ∈ before, (c != mark) = true := fun c hc =>
    bne_iff_ne.mpr fun heq => h (heq ▸ hc)
  rw [List.dropWhile_append_of_pos hbefore]
  cases behind with
  | none => rfl
  | some rest => exact List.dropWhile_cons_of_neg (by simp)

/-- The parts of a text are those that it was put together from. -/
theorem ofText_marked {front : List Char} (hfront : Front front) {query : Option (List Char)}
    (hquery : ∀ q ∈ query, '#' ∉ q) (fragment : Option (List Char)) :
    Parts.ofText (front ++ marked '?' query ++ marked '#' fragment) = ⟨front, query, fragment⟩ := by
  have hname : '?' ∉ front := fun h => absurd (hfront _ h) (by decide)
  have hbefore : '#' ∉ front ++ marked '?' query := by
    intro h
    rcases List.mem_append.mp h with h | h
    · exact absurd (hfront _ h) (by decide)
    · cases query with
      | none => contradiction
      | some q =>
        rcases List.mem_cons.mp h with h | h
        · contradiction
        · exact hquery q rfl h
  simp only [Parts.ofText, takeWhile_marked hbefore, dropWhile_marked hbefore,
    takeWhile_marked hname, dropWhile_marked hname]
  cases query with
  | none =>
    cases fragment with
    | none => simp [marked]
    | some f => simp [marked]
  | some q =>
    cases fragment with
    | none => simp [marked]
    | some f => simp [marked]

/-- An address without its query and its fragment. -/
def base (u : Url) : Url := { u with query := none, fragment := none }

variable {u : Url}

/-- An address is its base, its query behind one mark and its fragment behind the other. -/
theorem toList_render (u : Url) :
    u.render.toList = u.base.render.toList ++ marked '?' (u.query.map String.toList) ++
      marked '#' (u.fragment.map String.toList) := by
  cases hquery : u.query with
  | none =>
    cases hfragment : u.fragment with
    | none => simp [render, base, marked, hquery, hfragment]
    | some fragment => simp [render, base, marked, hquery, hfragment]
  | some query =>
    cases hfragment : u.fragment with
    | none => simp [render, base, marked, hquery, hfragment]
    | some fragment => simp [render, base, marked, hquery, hfragment]

/-- An address that is legible has no such marks before its query. -/
theorem Legible.front_base (hu : u.Legible) : Front u.base.render.toList := by
  have hcolon : Front ":".toList := front_of_all (by decide)
  cases hauthority : u.authority with
  | none =>
    have htext : u.base.render =
        u.scheme ++ ":" ++ (if u.path.startsWith "//" then "/." else "") ++ u.path := by
      simp [render, base, hauthority]
    rw [htext, front_toList_append, front_toList_append, front_toList_append]
    refine ⟨⟨⟨hu.scheme, hcolon⟩, ?_⟩, hu.path⟩
    split
    · exact front_of_all (by decide)
    · exact front_empty
  | some a =>
    have htext : u.base.render = u.scheme ++ ":" ++ ("//" ++ a.render) ++ u.path := by
      simp [render, base, hauthority]
    rw [htext, front_toList_append, front_toList_append, front_toList_append, front_toList_append]
    exact ⟨⟨⟨hu.scheme, hcolon⟩, front_of_all (by decide), hu.authority a hauthority⟩, hu.path⟩

/-- The parts of an address are found in its text. -/
theorem Legible.ofText_render (hu : u.Legible) :
    Parts.ofText u.render.toList =
      ⟨u.base.render.toList, u.query.map String.toList, u.fragment.map String.toList⟩ := by
  rw [toList_render]
  refine ofText_marked hu.front_base (fun q hq => ?_) _
  obtain ⟨query, hquery, rfl⟩ := Option.map_eq_some_iff.mp hq
  exact hu.query query hquery

theorem hash_not_mem_encode (pairs : List (String × String)) :
    (0x23 : UInt8) ∉ Form.encode pairs := by
  intro h
  rcases Form.mem_encode h with h | h | h | h | h
  · exact absurd h (by decide)
  · exact absurd h (by decide)
  · exact absurd h (by decide)
  · exact absurd h (by decide)
  · exact absurd h (by decide)

theorem toNat_lt_of_mem_encode {pairs : List (String × String)} {b : UInt8}
    (h : b ∈ Form.encode pairs) : b.toNat < 128 := by
  rcases Form.mem_encode h with rfl | rfl | rfl | rfl | h
  · decide
  · decide
  · decide
  · decide
  · exact Form.toNat_lt_of_keeps h

/-- The text of pairs that is added to a query. -/
theorem encode_added (pairs : List (String × String)) :
    Utf8.encode (String.ofList ((Form.encode pairs).map fun b => Char.ofNat b.toNat)) =
      Form.encode pairs :=
  Utf8.encode_ofList_map fun _ hb => toNat_lt_of_mem_encode hb

theorem hash_not_mem_added (pairs : List (String × String)) :
    '#' ∉ (String.ofList ((Form.encode pairs).map fun b => Char.ofNat b.toNat)).toList := by
  intro h
  rw [String.toList_ofList] at h
  obtain ⟨b, hb, hhash⟩ := List.mem_map.mp h
  obtain rfl : b = 0x23 := Utf8.ofNat_toNat_inj (b := b) (c := 0x23) hhash
  exact hash_not_mem_encode pairs hb

/-- The pairs in the text of an address are those of its query. -/
theorem Legible.queryPairs_render (hu : u.Legible) :
    queryPairs u.render =
      (u.query.map fun query => Form.decode (Utf8.encode query)).getD [] := by
  rw [queryPairs, hu.ofText_render]
  cases u.query with
  | none => rfl
  | some query => rw [Option.map_some, Option.map_some, String.ofList_toList, Option.map_some]

/-- A query without a number sign may take the place of any other. -/
theorem Legible.with_query (hu : u.Legible) {query : String} (hquery : '#' ∉ query.toList) :
    Legible { u with query := some query } :=
  ⟨hu.scheme, hu.authority, hu.path, fun _ hq => Option.some.inj hq ▸ hquery⟩

theorem Legible.withPairs (hu : u.Legible) (pairs : List (String × String)) :
    (u.withPairs pairs).Legible := by
  refine hu.with_query ?_
  split
  · exact hash_not_mem_added pairs
  · have hold : '#' ∉ (u.query.getD "").toList := by
      cases hquery : u.query with
      | none => exact List.not_mem_nil
      | some query => exact hu.query query hquery
    simp only [String.toList_append, List.mem_append, not_or]
    exact ⟨⟨hold, by decide⟩, hash_not_mem_added pairs⟩

/-- Added pairs are found behind those of the address. -/
theorem queryPairs_withPairs (hu : u.Legible) (pairs : List (String × String)) :
    queryPairs (u.withPairs pairs).render =
      Form.decode (Utf8.encode (u.query.getD "")) ++ pairs := by
  rw [(hu.withPairs pairs).queryPairs_render, Url.withPairs]
  simp only [Option.map_some, Option.getD_some]
  split
  · next hempty =>
    have hnothing : Utf8.encode "" = [] := (Utf8.encode_eq_flatMap _).trans rfl
    rw [encode_added, Form.decode_encode, String.isEmpty_iff.mp hempty, hnothing]
    rfl
  · have hmark : Utf8.encode "&" = [0x26] := (Utf8.encode_eq_flatMap _).trans rfl
    rw [Utf8.encode_append, Utf8.encode_append, hmark, encode_added, List.append_assoc,
      List.singleton_append, Form.decode_append, Form.decode_encode]

end ConfigRegistry.Url
