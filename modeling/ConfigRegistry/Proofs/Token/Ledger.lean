import ConfigRegistry.Proofs.Digest.PasswordHash
import ConfigRegistry.Token.Ledger

/-!
A token that was issued is recognized by its record.
-/
namespace ConfigRegistry

namespace Token

/-- The hash of a token belongs to it. -/
theorem verify_hash (token : String) {salt : List UInt8} (hlow : 8 ≤ salt.length)
    (hhigh : salt.length ≤ 48) : verify token (hash token salt) = .ok true := by
  simp only [verify, hash, Digest.PasswordHash.parse_render_create _ hlow hhigh,
    Digest.PasswordHash.verifies_create _ hlow]

theorem firstMatch_append {token : String} {front rest : List Token}
    (h : ∀ t ∈ front, verify token t.tokenHash = .ok false) :
    firstMatch token (front ++ rest) = firstMatch token rest := by
  induction front with
  | nil => rfl
  | cons t front ih =>
    rw [List.cons_append, firstMatch, h t List.mem_cons_self, ok_bind]
    exact ih fun t ht => h t (List.mem_cons_of_mem _ ht)

theorem startsWith_ofBytes (bytes : List UInt8) : (ofBytes bytes).startsWith mark = true := by
  rw [String.startsWith_string_iff, ofBytes, String.toList_append]
  exact List.prefix_append _ _

theorem isBlank_hexDigit : ∀ n : Fin 16, Text.isBlank (Coding.Hex.digit n) = false := by decide

/-- No character of a token is white space. -/
theorem isBlank_of_mem_ofBytes {bytes : List UInt8} {c : Char} (h : c ∈ (ofBytes bytes).toList) :
    Text.isBlank c = false := by
  rw [ofBytes, String.toList_append, List.mem_append] at h
  rcases h with h | h
  · have hmark : mark.toList.all (!Text.isBlank ·) = true := by decide
    simpa using List.all_eq_true.mp hmark c h
  · rw [Coding.Hex.encode, String.toList_ofList] at h
    obtain ⟨b, _, hc⟩ := List.mem_flatMap.mp h
    have hb := b.toNat_lt
    simp only [Coding.Hex.pair, List.mem_cons, List.not_mem_nil, or_false] at hc
    rcases hc with rfl | rfl
    · exact isBlank_hexDigit ⟨b.toNat / 16, by omega⟩
    · exact isBlank_hexDigit ⟨b.toNat % 16, by omega⟩

theorem trim_ofBytes (bytes : List UInt8) : Text.trim (ofBytes bytes) = ofBytes bytes := by
  rw [Text.trim, Text.trimBoth_eq_self_of_ends, String.ofList_toList]
  · exact fun c hc => isBlank_of_mem_ofBytes (List.mem_of_mem_head? hc)
  · exact fun c hc => isBlank_of_mem_ofBytes (List.mem_of_mem_getLast? hc)

end Token

namespace Ledger

def recordOf (username description : String) (d : Draws) (now : Time.Instant) : Token :=
  .ofDraft ⟨username, description, Token.lookupPrefix (Token.ofBytes d.token),
    Token.hash (Token.ofBytes d.token) d.salt⟩ d.id now

theorem issue_eq (l : Ledger) (username description : String) (d : Draws) (now : Time.Instant) :
    l.issue none username description d now =
      .ok (Token.ofBytes d.token, l ++ [recordOf username description d now]) := rfl

/-- A token that was issued is recognized, unless an earlier record claims it. -/
theorem authenticate_recordOf (l later : Ledger) {username description : String} {d : Draws}
    {now : Time.Instant} (hlow : 8 ≤ d.salt.length) (hhigh : d.salt.length ≤ 48)
    (hearlier : ∀ t ∈ l.byPrefix (Token.lookupPrefix (Token.ofBytes d.token)),
      Token.verify (Token.ofBytes d.token) t.tokenHash = .ok false) :
    authenticate (l ++ recordOf username description d now :: later) none (Token.ofBytes d.token) =
      .ok (recordOf username description d now) := by
  have hcandidates : byPrefix (l ++ recordOf username description d now :: later)
      (Token.lookupPrefix (Token.ofBytes d.token)) =
      l.byPrefix (Token.lookupPrefix (Token.ofBytes d.token)) ++
        recordOf username description d now ::
          later.byPrefix (Token.lookupPrefix (Token.ofBytes d.token)) := by
    simp [byPrefix, recordOf, Token.ofDraft]
  have hself : Token.verify (Token.ofBytes d.token)
      (recordOf username description d now).tokenHash = .ok true :=
    Token.verify_hash _ hlow hhigh
  simp only [authenticate, Token.startsWith_ofBytes, Bool.not_true, Bool.false_eq_true, if_false,
    hcandidates, Token.firstMatch_append hearlier, Token.firstMatch, hself, ok_bind, if_true,
    pure_eq_ok]

end Ledger

end ConfigRegistry
