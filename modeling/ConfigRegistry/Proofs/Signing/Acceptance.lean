import ConfigRegistry.Proofs.Signing

/-!
Which segments a check accepts. For a path and an expiry there is one segment, the one that stands
in the path signed with this expiry. It is accepted until that second and expired from then on, and
no other text is either of the two. A path that is signed for a number of seconds is accepted for
just as many, however many they are.
-/
namespace ConfigRegistry.Signing

/-- The text is the one that signing a path with an expiry places between the first segment and the
path. -/
def Signer.Places (s : Signer) (segment : List Char) (path : String) (expiry : Int) : Prop :=
  s.sign path expiry = String.ofList root ++ "/" ++ String.ofList segment ++ path

def statedExpiry? (segment : List Char) : Option Nat :=
  expiry? ((segment.dropWhile (· != '.')).drop 1)

variable {s : Signer} {segment : List Char} {path : String}

theorem places_iff {expiry : Int} :
    s.Places segment path expiry ↔ segment = (s.segment path expiry).toList := by
  unfold Signer.Places Signer.sign
  rw [String.append_left_inj, String.append_right_inj, ← String.toList_inj, String.toList_ofList]
  exact eq_comm

/-- A segment that is made for an expiry states it. -/
theorem statedExpiry?_segment (s : Signer) (path : String) {expiry : Nat}
    (h : expiry ≤ Text.Decimal.maxI64) :
    statedExpiry? (s.segment path expiry).toList = some expiry := by
  have hkeeps : ∀ c ∈ (Coding.Base64.encode Coding.Base64.urlSafe (s.code path expiry)).toList,
      (c != '.') = true := fun c hc =>
    bne_iff_ne.mpr (ne_of_mem_of_not_mem hc (dot_not_mem_code s path expiry))
  have hdrop : ∀ rest : List Char, ('.' :: rest).dropWhile (· != '.') = '.' :: rest := by simp
  rw [statedExpiry?, segment_toList, List.dropWhile_append_of_pos hkeeps, hdrop, List.drop_one,
    List.tail_cons, expiry?_toString h]

/-- Accepted is a segment that was signed with an expiry which is not past. -/
theorem verify_eq_ok_iff {now : Int} :
    s.verify segment path now = .ok () ↔ ∃ expiry : Int,
      max now 0 ≤ expiry ∧ expiry ≤ Text.Decimal.maxI64 ∧ s.Places segment path expiry := by
  simp only [places_iff]
  constructor
  · intro h
    obtain ⟨expiry, hmax, hnow, hsegment⟩ := eq_segment_of_verify h
    exact ⟨expiry, by omega, by omega, hsegment⟩
  · rintro ⟨expiry, hnow, hmax, hsegment⟩
    obtain ⟨n, rfl⟩ := Int.eq_ofNat_of_zero_le (show 0 ≤ expiry by omega)
    rw [hsegment]
    exact verify_segment s path (by omega) (by omega)

/-- Expired is told only to a segment that was signed in earnest. -/
theorem verify_eq_expired_iff {now : Int} :
    s.verify segment path now = .error .expired ↔ ∃ expiry : Int,
      0 ≤ expiry ∧ expiry < now ∧ expiry ≤ Text.Decimal.maxI64 ∧
        s.Places segment path expiry := by
  simp only [places_iff]
  constructor
  · intro h
    obtain ⟨expiry, hmax, hnow, hsegment⟩ := eq_segment_of_expired h
    exact ⟨expiry, by omega, hnow, by omega, hsegment⟩
  · rintro ⟨expiry, hzero, hnow, hmax, hsegment⟩
    obtain ⟨n, rfl⟩ := Int.eq_ofNat_of_zero_le hzero
    rw [hsegment, verify_segment_eq s path (by omega), if_pos hnow]

/-- Of the segments that state an expiry from now on, a path has one that is accepted. -/
theorem existsUnique_accepted (s : Signer) (path : String) {now : Int} {expiry : Nat}
    (hmax : expiry ≤ Text.Decimal.maxI64) (hnow : now ≤ expiry) :
    ∃! accepted : List Char, s.verify accepted path now = .ok () ∧
      statedExpiry? accepted = some expiry := by
  refine ⟨(s.segment path expiry).toList,
    ⟨verify_segment s path hmax hnow, statedExpiry?_segment s path hmax⟩, ?_⟩
  rintro accepted ⟨haccepted, hstated⟩
  obtain ⟨other, hother, _, hsegment⟩ := eq_segment_of_verify haccepted
  rw [hsegment, statedExpiry?_segment s path hother] at hstated
  rw [hsegment, Option.some.inj hstated]

/-- A segment is accepted exactly if signing the path places it there for an expiry from now on, and
expired exactly if it does so for an expiry in the past; every other text is malformed or invalid.
For one path and one expiry from now on there is one accepted segment. -/
theorem verify_outcome (s : Signer) (segment : List Char) (path : String) (now : Int64) :
    (s.verify segment path now.toInt = .ok () ↔ ∃ expiry : Int,
      max now.toInt 0 ≤ expiry ∧ expiry ≤ Text.Decimal.maxI64 ∧ s.Places segment path expiry) ∧
    (s.verify segment path now.toInt = .error .expired ↔ ∃ expiry : Int,
      0 ≤ expiry ∧ expiry < now.toInt ∧ s.Places segment path expiry) ∧
    ((∀ expiry : Int, 0 ≤ expiry → expiry ≤ Text.Decimal.maxI64 → ¬ s.Places segment path expiry) →
      s.verify segment path now.toInt = .error .malformed ∨
        s.verify segment path now.toInt = .error .invalid) ∧
    ∀ expiry : Nat, now.toInt ≤ expiry → expiry ≤ Text.Decimal.maxI64 →
      ∃! accepted : List Char, s.verify accepted path now.toInt = .ok () ∧
        statedExpiry? accepted = some expiry := by
  have hbound : now.toInt ≤ Text.Decimal.maxI64 := now.toInt_le
  refine ⟨verify_eq_ok_iff, ?_, ?_, fun expiry hnow hmax => existsUnique_accepted s path hmax hnow⟩
  · rw [verify_eq_expired_iff]
    constructor
    · rintro ⟨expiry, hzero, hnow, _, hplaces⟩
      exact ⟨expiry, hzero, hnow, hplaces⟩
    · rintro ⟨expiry, hzero, hnow, hplaces⟩
      exact ⟨expiry, hzero, hnow, by omega, hplaces⟩
  · intro hnone
    rcases verify_cases s segment path now.toInt with ⟨expiry, hmax, hsegment⟩ | hrefused
    · exact absurd (places_iff.mpr hsegment) (hnone expiry (by omega) (by omega))
    · exact hrefused

/-! Lifetimes. -/

/-- A path that is signed for a number of seconds from now states the last of them in its segment,
or the last second there is if that comes first. It is accepted up to the stated second, which is
never in the past, and expired from then on. -/
theorem lifetime_exact (secret : List UInt8) (hpath : path.toList.head? = some '/') {now : Int64}
    (hnow : 0 ≤ now) (seconds : UInt64) :
    ∃ (segment : List Char) (last : Nat),
      split? ((Signer.ofSecret secret).sign path (expiryAfter now.toInt seconds.toNat)).toList =
        some (segment, path.toList) ∧
      statedExpiry? segment = some last ∧
      (last : Int) = min (now.toInt + seconds.toNat) Text.Decimal.maxI64 ∧ now.toInt ≤ last ∧
      ∀ t : Int64,
        (t.toInt ≤ last → (Signer.ofSecret secret).verify segment path t.toInt = .ok ()) ∧
        (last < t.toInt →
          (Signer.ofSecret secret).verify segment path t.toInt = .error .expired) := by
  have hnow : 0 ≤ now.toInt := Int64.le_iff_toInt_le.mp hnow
  have hbound : now.toInt ≤ Text.Decimal.maxI64 := now.toInt_le
  obtain ⟨last, hlast, hmax⟩ := expiryAfter_eq_natCast hnow seconds.toNat
  have hmin := expiryAfter_eq_min hnow seconds.toNat
  rw [hlast] at hmin ⊢
  refine ⟨_, last, split?_sign _ hpath last, statedExpiry?_segment _ path hmax, hmin, by omega,
    fun t => ⟨fun hearly => verify_segment _ path hmax hearly, fun hlate => ?_⟩⟩
  rw [verify_segment_eq _ path hmax, if_pos hlate]

/-- A path that looks signed itself, and is signed for as long as a number of seconds can say, is
accepted for ever. -/
theorem lifetime_endless :
    "/signed/a.9/upload".toList.head? = some '/' ∧ (0 : Int64) ≤ 1700000000 ∧
      ∃ segment : List Char,
        split? ((Signer.ofSecret [1, 2, 3]).sign "/signed/a.9/upload"
          (expiryAfter 1700000000 0xffffffffffffffff)).toList =
          some (segment, "/signed/a.9/upload".toList) ∧
        statedExpiry? segment = some Text.Decimal.maxI64 ∧
        ∀ t : Int64,
          (Signer.ofSecret [1, 2, 3]).verify segment "/signed/a.9/upload" t.toInt = .ok () := by
  have hpath : "/signed/a.9/upload".toList.head? = some '/' := by decide
  have hnow : (0 : Int64) ≤ 1700000000 := by decide
  obtain ⟨segment, last, hsplit, hstated, hlast, _, haccepted⟩ :=
    lifetime_exact [1, 2, 3] hpath hnow 0xffffffffffffffff
  obtain rfl : last = Text.Decimal.maxI64 := by
    have hmin : min ((1700000000 : Int64).toInt + (0xffffffffffffffff : UInt64).toNat)
      (Text.Decimal.maxI64 : Int) = Text.Decimal.maxI64 := by decide
    exact Int.ofNat_inj.mp (hlast.trans hmin)
  exact ⟨hpath, hnow, segment, hsplit, hstated, fun t => (haccepted t).1 t.toInt_le⟩

end ConfigRegistry.Signing
