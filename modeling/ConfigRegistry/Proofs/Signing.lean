import Mathlib.Data.List.Basic
import ConfigRegistry.Proofs.Coding.Base64
import ConfigRegistry.Proofs.Coding.Utf8
import ConfigRegistry.Proofs.Text.Decimal
import ConfigRegistry.Signing

/-!
A signed path is taken apart into its segment and the path inside, and the segment is accepted for
that path until its expiry. No other segment is, and no other path or expiry has the same message.
-/
namespace ConfigRegistry.Signing

theorem behind?_append (front rest : List Char) : behind? front (front ++ rest) = some rest := by
  induction front with
  | nil => rfl
  | cons c front ih => simpa [behind?] using ih

/-- Digits and a sign. -/
theorem mem_toString_int {n : Int} {c : Char} (h : c ∈ (toString n).toList) :
    c.isDigit = true ∨ c = '-' := by
  cases n with
  | ofNat m =>
    have hrepr : toString (Int.ofNat m) = m.repr := rfl
    rw [hrepr, Nat.toList_repr] at h
    exact .inl (Text.Decimal.isDigit_of_mem_toDigits h)
  | negSucc m =>
    have hrepr : toString (Int.negSucc m) = "-" ++ m.succ.repr := rfl
    rw [hrepr, String.toList_append, Nat.toList_repr, List.mem_append] at h
    rcases h with h | h
    · exact .inr (by simpa using h)
    · exact .inl (Text.Decimal.isDigit_of_mem_toDigits h)

/-- A number has a text of its own. -/
theorem toString_int_inj {m n : Int} (h : toString m = toString n) : m = n := by
  have hminus : ∀ k l : Nat, toString (Int.ofNat k) ≠ toString (Int.negSucc l) := by
    intro k l heq
    have hrepr : toString (Int.negSucc l) = "-" ++ l.succ.repr := rfl
    have hsign : '-' ∈ (toString (Int.ofNat k)).toList := by
      rw [heq, hrepr, String.toList_append]
      exact List.mem_append_left _ (List.mem_singleton.mpr rfl)
    have hdigit : '-'.isDigit = true := by
      rw [show toString (Int.ofNat k) = k.repr from rfl, Nat.toList_repr] at hsign
      exact Text.Decimal.isDigit_of_mem_toDigits hsign
    exact absurd hdigit (by decide)
  cases m with
  | ofNat k =>
    cases n with
    | ofNat l => exact congrArg Int.ofNat (Text.Decimal.toString_inj h)
    | negSucc l => exact absurd h (hminus k l)
  | negSucc k =>
    cases n with
    | ofNat l => exact absurd h.symm (hminus l k)
    | negSucc l =>
      have hdigits : "-" ++ k.succ.repr = "-" ++ l.succ.repr := h
      have hsucc := Text.Decimal.toString_inj (String.append_right_inj _ |>.mp hdigits)
      exact congrArg Int.negSucc (Nat.succ.inj hsucc)

/-- A segment has only characters of its code and of its expiry, and a dot between them. -/
theorem mem_segment {s : Signer} {path : String} {expiry : Int} {c : Char}
    (h : c ∈ (s.segment path expiry).toList) :
    Coding.Base64.isUrlSafe c = true ∨ c = '.' := by
  simp only [Signer.segment, String.toList_append, List.mem_append] at h
  rcases h with (h | h) | h
  · exact .inl (Coding.Base64.isUrlSafe_of_mem_encode h)
  · exact .inr (by simpa using h)
  · rcases mem_toString_int h with hdigit | rfl
    · exact .inl (by simp [Coding.Base64.isUrlSafe, Char.isAlphanum, hdigit])
    · exact .inl (by decide)

theorem slash_not_mem_segment (s : Signer) (path : String) (expiry : Int) :
    '/' ∉ (s.segment path expiry).toList := by
  intro h
  rcases mem_segment h with h | h
  · exact absurd h (by decide)
  · exact absurd h (by decide)

theorem segment_ne_nil (s : Signer) (path : String) (expiry : Int) :
    (s.segment path expiry).toList ≠ [] := by
  simp [Signer.segment]

/-- A path that begins with a slash is found inside the path that is signed. -/
theorem split?_sign (s : Signer) {path : String} (hpath : path.toList.head? = some '/')
    (expiry : Int) :
    split? (s.sign path expiry).toList = some ((s.segment path expiry).toList, path.toList) := by
  have hslash := slash_not_mem_segment s path expiry
  have hne := segment_ne_nil s path expiry
  obtain ⟨rest, hrest⟩ : ∃ rest, path.toList = '/' :: rest := by
    cases h : path.toList with
    | nil => simp [h] at hpath
    | cons c rest =>
      obtain rfl : c = '/' := by simpa [h] using hpath
      exact ⟨rest, rfl⟩
  have hkeeps : ∀ c ∈ (s.segment path expiry).toList, (c != '/') = true := fun c hc =>
    bne_iff_ne.mpr (ne_of_mem_of_not_mem hc hslash)
  have hsign : (s.sign path expiry).toList =
      (root ++ ['/']) ++ ((s.segment path expiry).toList ++ '/' :: rest) := by
    simp [Signer.sign, hrest]
  have htake : ('/' :: rest).takeWhile (· != '/') = [] := by simp
  have hdrop : ('/' :: rest).dropWhile (· != '/') = '/' :: rest := by simp
  unfold split?
  rw [hsign, behind?_append]
  simp only [Option.bind_eq_bind, Option.bind_some, List.takeWhile_append_of_pos hkeeps,
    List.dropWhile_append_of_pos hkeeps, htake, hdrop, List.append_nil]
  rw [if_neg (by simp [hne]), hrest]

/-- The expiry of a canonical text. -/
theorem expiry?_toString {n : Nat} (h : n ≤ Text.Decimal.maxI64) :
    expiry? (toString (n : Int)).toList = some n := by
  have hrepr : toString (n : Int) = n.repr := rfl
  unfold expiry?
  rw [hrepr, Nat.toList_repr, Text.Decimal.readDigits_toDigits h]
  simp [Nat.toDigits_ne_nil]

/-- The first dot in a segment parts the code from the expiry. -/
theorem verify_append (s : Signer) {front : List Char} (hfront : '.' ∉ front) (rest : List Char)
    (path : String) (now : Int) :
    s.verify (front ++ '.' :: rest) path now =
      match expiry? rest, Coding.Base64.decode Coding.Base64.urlSafe (String.ofList front) with
      | some expiry, some code =>
        if code ≠ s.code path expiry then .error .invalid
        else if (expiry : Int) < now then .error .expired
        else .ok ()
      | _, _ => .error .malformed := by
  have hkeeps : ∀ c ∈ front, (c != '.') = true := fun c hc =>
    bne_iff_ne.mpr (ne_of_mem_of_not_mem hc hfront)
  have htake : ('.' :: rest).takeWhile (· != '.') = [] := by simp
  have hdrop : ('.' :: rest).dropWhile (· != '.') = '.' :: rest := by simp
  unfold Signer.verify
  rewrite [if_neg (by simp), List.takeWhile_append_of_pos hkeeps,
    List.dropWhile_append_of_pos hkeeps, htake, hdrop, List.append_nil, List.drop_one,
    List.tail_cons]
  rfl

theorem segment_toList (s : Signer) (path : String) (expiry : Int) :
    (s.segment path expiry).toList =
      (Coding.Base64.encode Coding.Base64.urlSafe (s.code path expiry)).toList ++
        '.' :: (toString expiry).toList := by
  simp [Signer.segment]

theorem dot_not_mem_code (s : Signer) (path : String) (expiry : Int) :
    '.' ∉ (Coding.Base64.encode Coding.Base64.urlSafe (s.code path expiry)).toList := fun h =>
  absurd (Coding.Base64.isUrlSafe_of_mem_encode h) (by decide)

/-- The segment of an expiry passes every check but the one of the time. -/
theorem verify_segment_eq (s : Signer) (path : String) {expiry : Nat}
    (h : expiry ≤ Text.Decimal.maxI64) (now : Int) :
    s.verify (s.segment path expiry).toList path now =
      if (expiry : Int) < now then .error .expired else .ok () := by
  rw [segment_toList, verify_append s (dot_not_mem_code s path expiry), expiry?_toString h,
    String.ofList_toList, Coding.Base64.decode_encode Coding.Base64.faithful_urlSafe]
  simp

/-- What is signed is accepted until its expiry. -/
theorem verify_segment (s : Signer) (path : String) {expiry : Nat}
    (hexpiry : expiry ≤ Text.Decimal.maxI64) {now : Int} (hnow : now ≤ expiry) :
    s.verify (s.segment path expiry).toList path now = .ok () := by
  rw [verify_segment_eq s path hexpiry, if_neg (Int.not_lt.mpr hnow)]

/-- Only numbers within the bound are read, and only from their own text. -/
theorem expiry?_eq_some {l : List Char} {n : Nat} (h : expiry? l = some n) :
    n ≤ Text.Decimal.maxI64 ∧ l = (toString (n : Int)).toList := by
  unfold expiry? at h
  split at h
  · contradiction
  · split at h
    · next m hread =>
      split at h
      · next hcanonical =>
        obtain rfl := Option.some.inj h
        exact ⟨Text.Decimal.readDigits_le (Nat.zero_le _) hread, hcanonical.symm⟩
      · contradiction
    · contradiction

/-- A text gets to the check of the time only if it is the segment of an expiry. -/
theorem verify_cases (s : Signer) (segment : List Char) (path : String) (now : Int) :
    (∃ expiry : Nat, expiry ≤ Text.Decimal.maxI64 ∧
        segment = (s.segment path expiry).toList) ∨
      s.verify segment path now = .error .malformed ∨
      s.verify segment path now = .error .invalid := by
  by_cases hdot : '.' ∈ segment
  · obtain ⟨front, rest, rfl, hfront⟩ := List.eq_append_cons_of_mem hdot
    rw [verify_append s hfront]
    split
    · next expiry code hexpiry hcode =>
      split
      · exact .inr (.inr rfl)
      · next hsame =>
        obtain ⟨hmax, rfl⟩ := expiry?_eq_some hexpiry
        refine .inl ⟨expiry, hmax, ?_⟩
        rw [segment_toList, ← Decidable.not_not.mp hsame, Coding.Base64.encode_of_decode hcode,
          String.toList_ofList]
    · exact .inr (.inl rfl)
  · exact .inr (.inl (by simp [Signer.verify, hdot]))

/-- A segment is accepted for a path only if it is the one with which the path is signed for an
expiry that has not passed. -/
theorem eq_segment_of_verify {s : Signer} {segment : List Char} {path : String} {now : Int}
    (h : s.verify segment path now = .ok ()) :
    ∃ expiry : Nat, expiry ≤ Text.Decimal.maxI64 ∧ now ≤ expiry ∧
      segment = (s.segment path expiry).toList := by
  rcases verify_cases s segment path now with ⟨expiry, hmax, hsegment⟩ | hrefused
  · rw [hsegment, verify_segment_eq s path hmax] at h
    refine ⟨expiry, hmax, ?_, hsegment⟩
    by_contra hlate
    simp [Int.not_le.mp hlate] at h
  · rw [h] at hrefused
    simp at hrefused

/-- A segment is expired for a path only if it is the one with which the path is signed for an
expiry in the past. -/
theorem eq_segment_of_expired {s : Signer} {segment : List Char} {path : String} {now : Int}
    (h : s.verify segment path now = .error .expired) :
    ∃ expiry : Nat, expiry ≤ Text.Decimal.maxI64 ∧ expiry < now ∧
      segment = (s.segment path expiry).toList := by
  rcases verify_cases s segment path now with ⟨expiry, hmax, hsegment⟩ | hrefused
  · rw [hsegment, verify_segment_eq s path hmax] at h
    refine ⟨expiry, hmax, ?_, hsegment⟩
    by_contra hearly
    simp [hearly] at h
  · rw [h] at hrefused
    simp at hrefused

/-! Messages. -/

/-- Where the mark does not stand in the last parts, they are cut off at the last mark. -/
theorem append_cons_inj {α : Type} {mark : α} {front front' back back' : List α}
    (hback : mark ∉ back) (hback' : mark ∉ back')
    (h : front ++ mark :: back = front' ++ mark :: back') : front = front' ∧ back = back' := by
  rcases List.append_eq_append_iff.mp h with ⟨middle, hfront, hrest⟩ | ⟨middle, hfront, hrest⟩
  · cases middle with
    | nil => exact ⟨by simpa using hfront.symm, (List.cons.inj hrest).2⟩
    | cons c middle => exact absurd (by simp [(List.cons.inj hrest).2]) hback
  · cases middle with
    | nil => exact ⟨by simpa using hfront, ((List.cons.inj hrest).2).symm⟩
    | cons c middle => exact absurd (by simp [(List.cons.inj hrest).2]) hback'

theorem dot_not_mem_toString (expiry : Int) : '.' ∉ (toString expiry).toList := by
  intro h
  rcases mem_toString_int h with h | h
  · exact absurd h (by decide)
  · exact absurd h (by decide)

theorem dot_not_mem_encode (expiry : Int) :
    (0x2e : UInt8) ∉ Coding.Utf8.encode (toString expiry) := fun h =>
  dot_not_mem_toString expiry (Coding.Utf8.mem_of_mem_encode (by decide) h)

/-- A message is the message of one path and one expiry, though nothing frames the two: the expiry
is what stands behind the last dot. -/
theorem message_inj {path path' : String} {expiry expiry' : Int}
    (h : message path expiry = message path' expiry') : path = path' ∧ expiry = expiry' := by
  obtain ⟨hpath, hexpiry⟩ := append_cons_inj (dot_not_mem_encode expiry)
    (dot_not_mem_encode expiry') h
  exact ⟨Coding.Utf8.encode_inj.mp hpath, toString_int_inj (Coding.Utf8.encode_inj.mp hexpiry)⟩

/-- A segment is taken apart in one way. -/
theorem segment_parts {s : Signer} {path : String} {expiry : Int} {front rest : List Char}
    (h : (s.segment path expiry).toList = front ++ '.' :: rest) :
    front = (Coding.Base64.encode Coding.Base64.urlSafe (s.code path expiry)).toList ∧
      rest = (toString expiry).toList := by
  rw [segment_toList] at h
  obtain ⟨hfront, _, hrest⟩ := (List.append_cons_inj_of_notMem (dot_not_mem_code s path expiry)
    (dot_not_mem_toString expiry)).mp h
  exact ⟨hfront.symm, hrest.symm⟩

theorem segment_inj {s : Signer} {path : String} {expiry expiry' : Int}
    (h : s.segment path expiry = s.segment path expiry') : expiry = expiry' := by
  have hparts := segment_parts ((congrArg String.toList h).trans (segment_toList s path expiry'))
  exact (toString_int_inj (String.toList_inj.mp hparts.2)).symm

/-- Counted from a moment after the epoch, an expiry is the sum or the last possible one. -/
theorem expiryAfter_eq_min {now : Int} (h : 0 ≤ now) (seconds : Nat) :
    expiryAfter now seconds = min (now + seconds) Text.Decimal.maxI64 := by
  unfold expiryAfter
  split <;> omega

/-- An expiry counted from a moment after the epoch is one that can be read back. -/
theorem expiryAfter_eq_natCast {now : Int} (h : 0 ≤ now) (seconds : Nat) :
    ∃ expiry : Nat, expiryAfter now seconds = expiry ∧ expiry ≤ Text.Decimal.maxI64 := by
  rw [expiryAfter_eq_min h]
  exact ⟨(min (now + seconds) Text.Decimal.maxI64).toNat, by omega, by omega⟩

end ConfigRegistry.Signing
