import ConfigRegistry.Proofs.Url.Queries

/-!
Addresses that can be seen. Nothing in the text of an address that was read is invisible, whatever
pairs are added to it; so it may stand wherever only visible characters may.
-/
namespace ConfigRegistry.Url

open Coding

def Visible (l : List Char) : Prop := ∀ c ∈ l, isVisible c = true

variable {u : Url}

theorem visible_append {l l' : List Char} (h : Visible l) (h' : Visible l') : Visible (l ++ l') :=
  fun c hc => (List.mem_append.mp hc).elim (h c) (h' c)

theorem isVisible_of_isFront {c : Char} (h : isFront c = true) : isVisible c = true := by
  simp only [isFront, Bool.and_eq_true] at h
  exact h.1.1

theorem visible_of_front {l : List Char} (h : Front l) : Visible l :=
  fun c hc => isVisible_of_isFront (h c hc)

theorem visible_escaped {keep : Char → Bool} (h : ∀ c, keep c = true → isVisible c = true)
    (l : List Char) : Visible (escaped keep l).toList := by
  intro c hc
  rcases mem_escaped hc with ⟨_, hkept⟩ | rfl | halphanum
  · exact h c hkept
  · rfl
  · exact isVisible_of_isFront (isFront_of_isAlphanum halphanum)

theorem isVisible_of_keptInQuery {k : Kind} {c : Char} (h : keptInQuery k c = true) :
    isVisible c = true := by
  simp only [keptInQuery, Bool.and_eq_true] at h
  exact h.1.1

theorem isVisible_of_keptInFragment {c : Char} (h : keptInFragment c = true) :
    isVisible c = true := by
  simp only [keptInFragment, Bool.and_eq_true] at h
  exact h.1

theorem isVisible_of_keeps {b : UInt8} (h : Form.keeps b = true) :
    isVisible (Char.ofNat b.toNat) = true := by
  have hall : ∀ n : Fin 128, Form.keeps (UInt8.ofNat n) = true →
      isVisible (Char.ofNat n) = true := by decide
  have hb := hall ⟨b.toNat, Form.toNat_lt_of_keeps h⟩
  simp only [UInt8.ofNat_toNat] at hb
  exact hb h

/-- The text of pairs that is added to a query can be seen. -/
theorem visible_added (pairs : List (String × String)) :
    Visible (String.ofList ((Form.encode pairs).map fun b => Char.ofNat b.toNat)).toList := by
  intro c hc
  rw [String.toList_ofList] at hc
  obtain ⟨b, hb, rfl⟩ := List.mem_map.mp hc
  rcases Form.mem_encode hb with rfl | rfl | rfl | rfl | hkeeps
  · decide
  · decide
  · decide
  · decide
  · exact isVisible_of_keeps hkeeps

theorem visible_marked {mark : Char} (hmark : isVisible mark = true) {behind : Option (List Char)}
    (h : ∀ l ∈ behind, Visible l) : Visible (marked mark behind) := by
  intro c hc
  cases behind with
  | none => contradiction
  | some l =>
    rcases List.mem_cons.mp hc with rfl | hc
    · exact hmark
    · exact h l rfl c hc

/-- An address of which the query and the fragment can be seen too. -/
structure Seen (u : Url) : Prop extends Legible u where
  visibleQuery : ∀ q ∈ u.query, Visible q.toList
  visibleFragment : ∀ f ∈ u.fragment, Visible f.toList

theorem seen_of_parse {s : String} (h : parse s = .ok u) : u.Seen := by
  have hlegible := legible_of_parse h
  obtain ⟨scheme, parts, k, query, fragment, _, _, rfl⟩ := parts_of_parse h
  refine ⟨hlegible, fun q hq => ?_, fun f hf => ?_⟩
  · obtain ⟨l, _, rfl⟩ := Option.map_eq_some_iff.mp hq
    exact visible_escaped (fun _ => isVisible_of_keptInQuery) l
  · obtain ⟨l, _, rfl⟩ := Option.map_eq_some_iff.mp hf
    exact visible_escaped (fun _ => isVisible_of_keptInFragment) l

theorem Seen.withPairs (hu : u.Seen) (pairs : List (String × String)) :
    (u.withPairs pairs).Seen := by
  refine ⟨hu.toLegible.withPairs pairs, fun q hq => ?_, hu.visibleFragment⟩
  obtain rfl := Option.some.inj hq
  split
  · exact visible_added pairs
  · have hold : Visible (u.query.getD "").toList := by
      cases hquery : u.query with
      | none => exact fun _ hc => absurd hc List.not_mem_nil
      | some query => exact hu.visibleQuery query hquery
    have hmark : Visible "&".toList := List.all_eq_true.mp (by decide)
    rw [String.toList_append, String.toList_append]
    exact visible_append (visible_append hold hmark) (visible_added pairs)

theorem Seen.visible_render (hu : u.Seen) : Visible u.render.toList := by
  rw [toList_render]
  refine visible_append (visible_append (visible_of_front hu.front_base) ?_) ?_
  · refine visible_marked (by decide) fun l hl => ?_
    obtain ⟨q, hq, rfl⟩ := Option.map_eq_some_iff.mp hl
    exact hu.visibleQuery q hq
  · refine visible_marked (by decide) fun l hl => ?_
    obtain ⟨f, hf, rfl⟩ := Option.map_eq_some_iff.mp hl
    exact hu.visibleFragment f hf

end ConfigRegistry.Url
