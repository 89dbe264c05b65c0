import ConfigRegistry.Proofs.Coding.Utf8
import ConfigRegistry.Proofs.Sequencing
import ConfigRegistry.Proofs.Url.Domains
import ConfigRegistry.Url.Basic

/-!
The parts of an address that was read. What stands before the query has visible characters only and
none of the two that end it, and the query has none that ends it; so the query of an address is
found in its text.
-/
namespace ConfigRegistry.Url

open Coding

def isFront (c : Char) : Bool := isVisible c && c != '?' && c != '#'

/-- A text of characters that may stand before the query. -/
def Front (l : List Char) : Prop := ∀ c ∈ l, isFront c = true

theorem front_of_all {l : List Char} (h : l.all isFront = true) : Front l := List.all_eq_true.mp h

theorem front_empty : Front "".toList := front_of_all (by decide)

theorem front_append {l l' : List Char} : Front (l ++ l') ↔ Front l ∧ Front l' := by
  simp only [Front, List.mem_append]
  exact ⟨fun h => ⟨fun c hc => h c (.inl hc), fun c hc => h c (.inr hc)⟩,
    fun h c hc => hc.elim (h.1 c) (h.2 c)⟩

theorem front_toList_append {s t : String} :
    Front (s ++ t).toList ↔ Front s.toList ∧ Front t.toList := by
  rw [String.toList_append, front_append]

theorem isFront_of_isAlphanum {c : Char} (h : c.isAlphanum = true) : isFront c = true := by
  have hall : ∀ n : Fin 128, (Char.ofNat n).isAlphanum = true → isFront (Char.ofNat n) = true := by
    decide
  have hc := hall ⟨c.toNat, Utf8.toNat_lt_of_isAlphanum h⟩
  simp only [Char.ofNat_toNat] at hc
  exact hc h

theorem isAlphanum_digitByte : ∀ n : Fin 16,
    (Char.ofNat (Percent.digitByte n).toNat).isAlphanum = true := by decide

/-- Characters of an escaped text: those that are kept, percent signs, letters and digits. -/
theorem mem_escaped {keep : Char → Bool} {l : List Char} {c : Char}
    (h : c ∈ (escaped keep l).toList) :
    (c ∈ l ∧ keep c = true) ∨ c = '%' ∨ c.isAlphanum = true := by
  simp only [escaped, String.toList_ofList, Percent.encode] at h
  obtain ⟨b, hb, rfl⟩ := List.mem_map.mp h
  obtain ⟨x, hx, hb⟩ := List.mem_flatMap.mp hb
  split at hb
  · next hkept =>
    obtain rfl := List.mem_singleton.mp hb
    simp only [Bool.and_eq_true, decide_eq_true_eq, UInt8.lt_iff_toNat_lt] at hkept
    have hmem := Utf8.mem_of_mem_encode (s := String.ofList l) hkept.1 hx
    rw [String.toList_ofList] at hmem
    exact .inl ⟨hmem, hkept.2⟩
  · have hsize := x.toNat_lt
    simp only [Percent.escape, List.mem_cons, List.not_mem_nil, or_false] at hb
    rcases hb with rfl | rfl | rfl
    · exact .inr (.inl rfl)
    · exact .inr (.inr (isAlphanum_digitByte ⟨x.toNat / 16, by omega⟩))
    · exact .inr (.inr (isAlphanum_digitByte ⟨x.toNat % 16, by omega⟩))

theorem front_escaped {keep : Char → Bool} {l : List Char}
    (h : ∀ c ∈ l, keep c = true → isFront c = true) : Front (escaped keep l).toList := by
  intro c hc
  rcases mem_escaped hc with ⟨hmem, hkept⟩ | rfl | halphanum
  · exact h c hmem hkept
  · rfl
  · exact isFront_of_isAlphanum halphanum

theorem isFront_of_keptInPath {c : Char} (h : keptInPath c = true) : isFront c = true := by
  simp only [keptInPath, keptInFragment, Bool.and_eq_true, decide_eq_true_eq] at h
  obtain ⟨⟨hvisible, _⟩, hmarks⟩ := h
  have hquestion : c ≠ '?' := by
    rintro rfl
    exact hmarks (by decide)
  have hhash : c ≠ '#' := by
    rintro rfl
    exact hmarks (by decide)
  simp [isFront, hvisible, hquestion, hhash]

theorem isFront_of_keptInUser {c : Char} (h : keptInUser c = true) : isFront c = true := by
  simp only [keptInUser, Bool.and_eq_true] at h
  exact isFront_of_keptInPath h.1

/-! Hosts. -/

theorem isAlphanum_digitChar : ∀ d : Fin 16, (Nat.digitChar d).isAlphanum = true := by decide

theorem isAlphanum_of_mem_toDigits {base n : Nat} (hlow : 1 < base) (hhigh : base ≤ 16) {c : Char}
    (h : c ∈ Nat.toDigits base n) : c.isAlphanum = true := by
  induction n using Nat.strongRecOn with
  | ind n ih =>
    rw [Nat.toDigits_eq_if hlow] at h
    split at h
    · next hsmall =>
      rw [List.mem_singleton.mp h]
      exact isAlphanum_digitChar ⟨n, by omega⟩
    · next hlarge =>
      rcases List.mem_append.mp h with h | h
      · exact ih (n / base) (Nat.div_lt_self (by omega) hlow) h
      · have hmod := Nat.mod_lt n (show 0 < base by omega)
        rw [List.mem_singleton.mp h]
        exact isAlphanum_digitChar ⟨n % base, by omega⟩

theorem front_toString (n : Nat) : Front (toString n).toList := by
  intro c hc
  rw [Nat.toString_eq_repr, Nat.toList_repr] at hc
  exact isFront_of_isAlphanum (isAlphanum_of_mem_toDigits (by decide) (by decide) hc)

theorem front_intercalate (mark : Char) (hmark : isFront mark = true) {texts : List String}
    (h : ∀ text ∈ texts, Front text.toList) :
    Front ((String.ofList [mark]).intercalate texts).toList := by
  intro c hc
  rw [String.toList_intercalate, String.toList_ofList] at hc
  rcases Domain.mem_intercalate hc with rfl | ⟨l, hl, hc⟩
  · exact hmark
  · obtain ⟨text, htext, rfl⟩ := List.mem_map.mp hl
    exact h text htext c hc

theorem front_shortAddress (n : Nat) : Front (ShortAddress.render n).toList := by
  refine front_intercalate '.' rfl fun text htext => ?_
  obtain ⟨i, _, rfl⟩ := List.mem_map.mp htext
  exact front_toString _

theorem front_longAddress (pieces : List Nat) : Front (LongAddress.render pieces).toList := by
  have hwrite : ∀ l : List Nat, Front (String.intercalate ":" (l.map LongAddress.hex)).toList := by
    intro l
    refine front_intercalate ':' rfl fun text htext => ?_
    obtain ⟨n, _, rfl⟩ := List.mem_map.mp htext
    intro c hc
    rw [LongAddress.hex, String.toList_ofList] at hc
    exact isFront_of_isAlphanum (isAlphanum_of_mem_toDigits (by decide) (by decide) hc)
  unfold LongAddress.render
  simp only
  split
  · exact hwrite _
  · rw [front_toList_append, front_toList_append]
    exact ⟨⟨hwrite _, front_of_all (by decide)⟩, hwrite _⟩

theorem isFront_of_isAllowed {c : Char} (h : Domain.isAllowed c = true) : isFront c = true := by
  have hall : ∀ n : Fin 128, Domain.isAllowed (Char.ofNat n) = true →
      isFront (Char.ofNat n) = true := by decide
  have hplain : c.toNat < 128 := by
    simp only [Domain.isAllowed, Domain.isPlain, Bool.and_eq_true, decide_eq_true_eq] at h
    exact h.1
  have hc := hall ⟨c.toNat, hplain⟩
  simp only [Char.ofNat_toNat] at hc
  exact hc h

namespace Host

theorem front_of_bracketed {l : List Char} {host : Host} (h : bracketed l = .ok host) :
    Front host.render.toList := by
  unfold bracketed at h
  split at h
  · contradiction
  · split at h
    · next pieces _ =>
      obtain rfl := Except.ok.inj h
      rw [render, front_toList_append, front_toList_append]
      exact ⟨⟨front_of_all (by decide), front_longAddress pieces⟩, front_of_all (by decide)⟩
    · contradiction

/-- A host, however it was written, is rendered without the marks of a query or a fragment. -/
theorem front_of_parse {l : List Char} {host : Host} (h : parse l = .ok host) :
    Front host.render.toList := by
  unfold parse at h
  split at h
  · exact front_of_bracketed h
  · split at h
    · contradiction
    · contradiction
    · next domain _ hdomain =>
      obtain ⟨text, _, hplain⟩ := Option.bind_eq_some_iff.mp hdomain
      split at h
      · split at h
        · next n _ =>
          obtain rfl := Except.ok.inj h
          exact front_shortAddress n
        · contradiction
      · obtain rfl := Except.ok.inj h
        intro c hc
        rw [render, String.toList_ofList] at hc
        exact isFront_of_isAllowed (Domain.isAllowed_of_mem_toPlain? hplain hc)

theorem front_of_parseOpaque {l : List Char} {host : Host} (h : parseOpaque l = .ok host) :
    Front host.render.toList := by
  unfold parseOpaque at h
  split at h
  · exact front_of_bracketed h
  · split at h
    · contradiction
    · next hseparator =>
      obtain rfl := Except.ok.inj h
      refine front_escaped fun c hc hvisible => ?_
      have hfree : isSeparator c = false := by
        simpa using List.any_eq_false.mp (by simpa using hseparator) c hc
      have hquestion : c ≠ '?' := by
        rintro rfl
        contradiction
      have hhash : c ≠ '#' := by
        rintro rfl
        contradiction
      simp [isFront, hvisible, hquestion, hhash]

end Host

/-! Paths. -/

/-- A segment that has no such mark is added to a path without one. -/
theorem front_of_mem_addSegment {k : Kind} {before : List String} {segment : List Char}
    {isLast : Bool} (hbefore : ∀ s ∈ before, Front s.toList) (hsegment : Front segment) :
    ∀ s ∈ addSegment k before segment isLast, Front s.toList := by
  have hended : ∀ l : List String, (∀ s ∈ l, Front s.toList) →
      ∀ s ∈ if isLast then "" :: l else l, Front s.toList := by
    intro l hl s hs
    split at hs
    · rcases List.mem_cons.mp hs with rfl | hs
      · simp [Front]
      · exact hl s hs
    · exact hl s hs
  have hparent : ∀ s ∈ parentOf before, Front s.toList := by
    intro s hs
    unfold parentOf at hs
    split at hs
    · contradiction
    · split at hs
      · exact hbefore s hs
      · exact hbefore s (List.mem_cons_of_mem _ hs)
  unfold addSegment
  simp only
  split
  · exact hended _ hparent
  · split
    · exact hended _ hbefore
    · split
      · intro s hs
        rcases List.mem_cons.mp hs with rfl | hs
        · rw [String.toList_ofList, front_append]
          exact ⟨fun c hc => hsegment c (List.mem_of_mem_take hc), front_of_all (by decide)⟩
        · exact hbefore s hs
      · intro s hs
        rcases List.mem_cons.mp hs with rfl | hs
        · rwa [String.toList_ofList]
        · exact hbefore s hs

theorem front_of_mem_addSegments {k : Kind} {before : List String} {pieces : List (List Char)}
    (hbefore : ∀ s ∈ before, Front s.toList) (hpieces : ∀ piece ∈ pieces, Front piece) :
    ∀ s ∈ addSegments k before pieces, Front s.toList := by
  fun_induction addSegments k before pieces with
  | case1 before => exact hbefore
  | case2 before last => exact front_of_mem_addSegment hbefore (hpieces last List.mem_cons_self)
  | case3 before segment rest hrest ih =>
    exact ih (front_of_mem_addSegment hbefore (hpieces segment List.mem_cons_self))
      fun piece hpiece => hpieces piece (List.mem_cons_of_mem segment hpiece)

theorem front_pathText (k : Kind) (l : List Char) : Front (pathText k l).toList := by
  have hsegments : ∀ s ∈ segments k l, Front s.toList := by
    intro s hs
    refine front_of_mem_addSegments (by simp) ?_ s (List.mem_reverse.mp hs)
    intro piece hpiece
    obtain ⟨raw, _, rfl⟩ := List.mem_map.mp hpiece
    exact front_escaped fun c _ hkept => isFront_of_keptInPath hkept
  unfold pathText
  rw [front_toList_append]
  refine ⟨front_of_all (by decide), front_intercalate '/' rfl fun s hs => ?_⟩
  split at hs
  · exact hsegments s (List.dropWhile_subset _ hs)
  · exact hsegments s hs

/-! Authorities. -/

theorem front_render_authority {a : Authority} (huser : Front a.username.toList)
    (hpassword : Front a.password.toList) (hhost : ∀ h ∈ a.host, Front h.render.toList) :
    Front a.render.toList := by
  have huserPart : Front (if a.username.isEmpty && a.password.isEmpty then "" else
      a.username ++ (if a.password.isEmpty then "" else ":" ++ a.password) ++ "@").toList := by
    split
    · exact front_empty
    · rw [front_toList_append, front_toList_append]
      refine ⟨⟨huser, ?_⟩, front_of_all (by decide)⟩
      split
      · exact front_empty
      · rw [front_toList_append]
        exact ⟨front_of_all (by decide), hpassword⟩
  have hhostPart : Front ((a.host.map Host.render).getD "").toList := by
    cases hhost' : a.host with
    | none => exact front_empty
    | some h => exact hhost h hhost'
  have hportPart : Front ((a.port.map fun n => ":" ++ toString n).getD "").toList := by
    cases a.port with
    | none => exact front_empty
    | some n =>
      rw [Option.map_some, Option.getD_some, front_toList_append]
      exact ⟨front_of_all (by decide), front_toString n⟩
  unfold Authority.render
  simp only
  rw [front_toList_append, front_toList_append]
  exact ⟨⟨huserPart, hhostPart⟩, hportPart⟩

/-- An authority that was read has an escaped user and a host that was read. -/
theorem front_of_parts {parsed : Host} (hparsed : Front parsed.render.toList)
    (user password : List Char) (number : Option Nat) :
    Front (Authority.render ⟨escaped keptInUser user, escaped keptInUser password,
      if parsed.isEmpty then none else some parsed, number⟩).toList := by
  refine front_render_authority (front_escaped fun c _ hkept => isFront_of_keptInUser hkept)
    (front_escaped fun c _ hkept => isFront_of_keptInUser hkept) ?_
  intro host hhost
  simp only at hhost
  split at hhost
  · contradiction
  · obtain rfl := Option.some.inj hhost
    exact hparsed

/-- An authority that was read is rendered without them too. -/
theorem front_of_readAuthority {k : Kind} {l : List Char} {isEnd : Bool} {a : Authority}
    {extra : List Char} (h : readAuthority k l isEnd = .ok (a, extra)) : Front a.render.toList := by
  simp only [readAuthority, throw_eq_error, error_bind, pure_eq_ok, ok_bind] at h
  split at h
  · contradiction
  · split at h
    · contradiction
    · rw [ite_bind] at h
      obtain ⟨parsed, hparsed, h⟩ := bind_eq_ok.mp h
      have hhost : Front parsed.render.toList := by
        split at hparsed
        · exact Host.front_of_parse hparsed
        · exact Host.front_of_parseOpaque hparsed
      split at h
      · contradiction
      · split at h
        · obtain ⟨number, _, h⟩ := bind_eq_ok.mp h
          split at h
          · contradiction
          · obtain rfl := congrArg Prod.fst (Except.ok.inj h)
            exact front_of_parts hhost _ _ _
        · split at h
          · contradiction
          · obtain rfl := congrArg Prod.fst (Except.ok.inj h)
            exact front_of_parts hhost _ _ _

/-! Whole addresses. -/

/-- What is read before the query of an address may stand there. -/
def FrontParts (parts : Option Authority × String) : Prop :=
  (∀ a ∈ parts.1, Front a.render.toList) ∧ Front parts.2.toList

theorem frontParts_some {a : Authority} {path : String} (ha : Front a.render.toList)
    (hpath : Front path.toList) : FrontParts (some a, path) :=
  ⟨fun _ h => Option.some.inj h ▸ ha, hpath⟩

theorem frontParts_of_readHosted {k : Kind} {l : List Char} {isEnd : Bool} {a : Authority}
    {path : String} (h : readHosted k l isEnd = .ok (a, path)) : FrontParts (some a, path) := by
  simp only [readHosted] at h
  obtain ⟨⟨authority, extra⟩, hauthority, h⟩ := bind_eq_ok.mp h
  have ha := front_of_readAuthority hauthority
  simp only at h
  split at h
  · obtain ⟨rfl, rfl⟩ := Prod.mk.inj (Except.ok.inj h)
    refine frontParts_some ha ?_
    split
    · exact front_of_all (by decide)
    · exact front_of_all (by decide)
  · obtain ⟨rfl, rfl⟩ := Prod.mk.inj (Except.ok.inj h)
    exact frontParts_some ha (front_pathText k _)

/-- And so is what was read behind the scheme of files. -/
theorem frontParts_of_readFile {l : List Char} {a : Authority} {path : String}
    (h : readFile l = .ok (a, path)) : FrontParts (some a, path) := by
  have hnothing : Front noAuthority.render.toList := front_of_all (by decide)
  unfold readFile at h
  split at h
  · split at h
    · simp only at h
      split at h
      · obtain ⟨rfl, rfl⟩ := Prod.mk.inj (Except.ok.inj h)
        exact frontParts_some hnothing (front_pathText _ _)
      · rw [ite_bind] at h
        obtain ⟨host, hhost, h⟩ := bind_eq_ok.mp h
        have hread : ∀ g ∈ host, Front g.render.toList := by
          intro g hg
          split at hhost
          · obtain rfl := Except.ok.inj hhost
            contradiction
          · obtain ⟨g', hg', rfl⟩ := map_eq_ok.mp hhost
            obtain rfl := Option.some.inj hg
            exact Host.front_of_parse hg'
        obtain ⟨rfl, rfl⟩ := Prod.mk.inj (Except.ok.inj h)
        refine frontParts_some (front_render_authority front_empty front_empty fun g hg => ?_)
          (front_pathText _ _)
        simp only at hg
        split at hg
        · contradiction
        · exact hread g hg
    · obtain ⟨rfl, rfl⟩ := Prod.mk.inj (Except.ok.inj h)
      exact frontParts_some hnothing (front_pathText _ _)
  · obtain ⟨rfl, rfl⟩ := Prod.mk.inj (Except.ok.inj h)
    exact frontParts_some hnothing (front_pathText _ _)
  · obtain ⟨rfl, rfl⟩ := Prod.mk.inj (Except.ok.inj h)
    exact frontParts_some hnothing (front_pathText _ _)

theorem frontParts_of_readOther {l : List Char} {isEnd : Bool} {parts : Option Authority × String}
    (hl : ∀ c ∈ l, c ≠ '?' ∧ c ≠ '#') (h : readOther l isEnd = .ok parts) : FrontParts parts := by
  unfold readOther at h
  split at h
  · obtain ⟨⟨a, path⟩, hhosted, rfl⟩ := map_eq_ok.mp h
    exact frontParts_of_readHosted hhosted
  · obtain rfl := Except.ok.inj h
    exact ⟨by simp, front_pathText _ _⟩
  · obtain rfl := Except.ok.inj h
    refine ⟨by simp, front_escaped fun c hc hvisible => ?_⟩
    simp [isFront, hvisible, (hl c hc).1, (hl c hc).2]

/-- The front of a text ends before the first mark of a query or a fragment. -/
theorem ne_of_mem_front {l : List Char} {c : Char} (h : c ∈ (Parts.ofText l).front) :
    c ≠ '?' ∧ c ≠ '#' := by
  have hfront : (Parts.ofText l).front = (l.takeWhile (· != '#')).takeWhile (· != '?') := by
    simp only [Parts.ofText]
    split
    · rfl
    · next hnone =>
      have hsplit := List.takeWhile_append_dropWhile (p := (· != '?')) (l := l.takeWhile (· != '#'))
      rw [hnone, List.append_nil] at hsplit
      exact hsplit.symm
  rw [hfront] at h
  have hquestion := List.all_eq_true.mp List.all_takeWhile c h
  have hhash := List.all_eq_true.mp List.all_takeWhile c (List.takeWhile_subset _ h)
  exact ⟨bne_iff_ne.mp hquestion, bne_iff_ne.mp hhash⟩

theorem front_of_splitScheme? {l rest : List Char} {scheme : String}
    (h : splitScheme? l = some (scheme, rest)) : Front scheme.toList := by
  have hall : ∀ n : Fin 128, ((Char.ofNat n).isAlphanum || Char.ofNat n == '+' ||
      Char.ofNat n == '-' || Char.ofNat n == '.') = true →
      isFront (Char.ofNat n).toLower = true := by decide
  simp only [splitScheme?] at h
  split at h
  · split at h
    · obtain ⟨rfl, _⟩ := Prod.mk.inj (Option.some.inj h)
      intro c hc
      rw [String.toList_ofList] at hc
      obtain ⟨d, hd, rfl⟩ := List.mem_map.mp hc
      have hpart := List.all_eq_true.mp List.all_takeWhile d hd
      have hsmall : d.toNat < 128 := by
        simp only [Bool.or_eq_true, beq_iff_eq] at hpart
        rcases hpart with ((halphanum | rfl) | rfl) | rfl
        · exact Utf8.toNat_lt_of_isAlphanum halphanum
        · decide
        · decide
        · decide
      have hd := hall ⟨d.toNat, hsmall⟩
      simp only [Char.ofNat_toNat] at hd
      exact hd hpart
    · contradiction
  · contradiction

/-- What holds of every address that was read: no question mark before the query, no number sign
before the fragment, and only visible characters before the query. -/
structure Legible (u : Url) : Prop where
  scheme : Front u.scheme.toList
  authority : ∀ a ∈ u.authority, Front a.render.toList
  path : Front u.path.toList
  query : ∀ q ∈ u.query, '#' ∉ q.toList

theorem hash_not_mem_query {k : Kind} {l : List Char} :
    '#' ∉ (escaped (keptInQuery k) l).toList := by
  intro h
  rcases mem_escaped h with ⟨_, hkept⟩ | h | h
  · simp [keptInQuery] at hkept
  · contradiction
  · contradiction

/-- What an address that was read is made of: a scheme, parts that stand before the query, and an
escaped query and fragment. -/
theorem parts_of_parse {s : String} {u : Url} (h : parse s = .ok u) :
    ∃ (scheme : String) (parts : Option Authority × String) (k : Kind)
      (query fragment : Option (List Char)), Front scheme.toList ∧ FrontParts parts ∧
        u = ⟨scheme, parts.1, parts.2, query.map (escaped (keptInQuery k)),
          fragment.map (escaped keptInFragment)⟩ := by
  simp only [parse] at h
  split at h
  · contradiction
  · next scheme rest hscheme =>
    have hfront := front_of_splitScheme? hscheme
    split at h
    · obtain ⟨parts, hparts, h⟩ := bind_eq_ok.mp h
      obtain ⟨⟨a, path⟩, hfile, rfl⟩ := map_eq_ok.mp hparts
      obtain rfl := Except.ok.inj h
      exact ⟨scheme, _, _, _, _, hfront, frontParts_of_readFile hfile, rfl⟩
    · obtain ⟨parts, hparts, h⟩ := bind_eq_ok.mp h
      obtain ⟨⟨a, path⟩, hhosted, rfl⟩ := map_eq_ok.mp hparts
      obtain rfl := Except.ok.inj h
      exact ⟨scheme, _, _, _, _, hfront, frontParts_of_readHosted hhosted, rfl⟩
    · obtain ⟨parts, hparts, h⟩ := bind_eq_ok.mp h
      obtain rfl := Except.ok.inj h
      exact ⟨scheme, _, _, _, _, hfront,
        frontParts_of_readOther (fun c hc => ne_of_mem_front hc) hparts, rfl⟩

theorem legible_of_parse {s : String} {u : Url} (h : parse s = .ok u) : u.Legible := by
  obtain ⟨scheme, parts, k, query, fragment, hscheme, hparts, rfl⟩ := parts_of_parse h
  refine ⟨hscheme, hparts.1, hparts.2, fun q hq => ?_⟩
  obtain ⟨l, _, rfl⟩ := Option.map_eq_some_iff.mp hq
  exact hash_not_mem_query

end ConfigRegistry.Url
