import ConfigRegistry.Login.Code
import ConfigRegistry.Proofs.Cipher.Gcm
import ConfigRegistry.Proofs.Coding.Base64
import ConfigRegistry.Proofs.Json.Records

/-!
A code opens to what was sealed in it, under the same secret. It is made of characters that stand
for themselves in an address.
-/
namespace ConfigRegistry.Login

open Coding Json

namespace Payload

/-- A payload is read back from its text, if its expiry has 64 bits. -/
theorem reads_read {p : Payload} (hlow : -0x8000000000000000 ≤ p.expiresAt)
    (hhigh : p.expiresAt < 0x8000000000000000) (left : List UInt8) :
    Reads read (Utf8.encode p.toJson.render ++ left) p left := by
  refine (Fields.Written.reads_record ?_ (.member ?_ <| .member ?_ <| .member ?_ <|
    .member ?_ .nil) "AuthorizationCodePayload" left).bind (Reads.pure p left)
  · simp [Fields.names, Field.required]
  · exact Field.takes_text _ _
  · exact Field.takes_text _ _
  · exact Field.takes_text _ _
  · exact Field.takes_integer _ hlow hhigh

end Payload

namespace Code

variable {secret nonce : List UInt8}

/-- Sealed bytes are got back. -/
theorem bytes_ofBytes (hnonce : nonce.length = nonceLength) (plain : List UInt8) :
    bytes secret (ofBytes secret nonce plain) = .ok plain := by
  have hkey : (key secret).length = 32 := Digest.Hmac.length_mac ..
  have hlong : ¬ (nonce ++ Cipher.Gcm.encrypt (key secret) nonce plain).length <
      nonceLength + tagLength := by
    have htag := Cipher.Gcm.length_encrypt (key secret) nonce plain
    rw [List.length_append, hnonce]
    unfold tagLength
    omega
  simp only [bytes, ofBytes, Base64.decode_encode Base64.faithful_urlSafe, if_neg hlong,
    List.take_left' hnonce, List.drop_left' hnonce, Cipher.Gcm.decrypt?_encrypt hkey hnonce]

/-- A code opens to its payload. -/
theorem openPayload_ofPayload (hnonce : nonce.length = nonceLength) {p : Payload}
    (hlow : -0x8000000000000000 ≤ p.expiresAt) (hhigh : p.expiresAt < 0x8000000000000000) :
    openPayload secret (ofPayload secret nonce p) = .ok p := by
  have hread := Payload.reads_read hlow hhigh []
  rw [List.append_nil] at hread
  rw [openPayload, openWith, ofPayload, bytes_ofBytes hnonce]
  simp only [bind, Except.bind, hread.all]
  rfl

theorem ofPayload_ne_empty (secret nonce : List UInt8) (p : Payload) :
    ofPayload secret nonce p ≠ "" := by
  intro hempty
  have hlength := (Base64.length_encode Base64.urlSafe
    (nonce ++ Cipher.Gcm.encrypt (key secret) nonce (Utf8.encode p.toJson.render))).2
  have htag := Cipher.Gcm.length_encrypt (key secret) nonce (Utf8.encode p.toJson.render)
  have hnothing : "".toList.length = 0 := rfl
  rw [show Base64.encode Base64.urlSafe _ = "" from hempty, hnothing, List.length_append] at hlength
  omega

theorem isUrlSafe_of_mem_ofPayload {p : Payload} {c : Char}
    (h : c ∈ (ofPayload secret nonce p).toList) : Base64.isUrlSafe c = true :=
  Base64.isUrlSafe_of_mem_encode h

/-- A code opens to its payload under its secret, and has no other characters than those that stand
for themselves in an address. Of two texts that are read as bytes each has its own bytes, so no
other text is read as the nonce and the sealed bytes of a code. -/
theorem one_code_for_payload (secret : List UInt8) (hnonce : nonce.length = nonceLength)
    {p : Payload} (hlow : -0x8000000000000000 ≤ p.expiresAt)
    (hhigh : p.expiresAt < 0x8000000000000000) :
    openPayload secret (ofPayload secret nonce p) = .ok p ∧
      (∀ c ∈ (ofPayload secret nonce p).toList, c.isAlphanum = true ∨ c = '-' ∨ c = '_') ∧
      (∀ (s t : String) (bs bt : List UInt8), Base64.decode Base64.urlSafe s = some bs →
        Base64.decode Base64.urlSafe t = some bt → s ≠ t → bs ≠ bt) ∧
      ∀ s : String, Base64.decode Base64.urlSafe s = Base64.decode Base64.urlSafe
        (ofPayload secret nonce p) → s = ofPayload secret nonce p := by
  refine ⟨openPayload_ofPayload hnonce hlow hhigh, ?_, ?_, ?_⟩
  · intro c hc
    simpa [Base64.isUrlSafe, or_assoc] using isUrlSafe_of_mem_ofPayload hc
  · rintro s t bs bt hs ht hne rfl
    exact hne (Base64.decode_inj hs ht)
  · intro s hs
    rw [ofPayload, ofBytes, Base64.decode_encode Base64.faithful_urlSafe] at hs
    exact (Base64.encode_of_decode hs).symm

/-- A payload with quotes, a line break, letters beyond the first plane and an expiry long ago. -/
def oddPayload : Payload := ⟨"\"\\", "S\n256", "zoë 𝄞", -1⟩

theorem one_code_for_oddPayload :
    (List.replicate 12 (7 : UInt8)).length = nonceLength ∧
      -0x8000000000000000 ≤ oddPayload.expiresAt ∧ oddPayload.expiresAt < 0x8000000000000000 ∧
      openPayload [1, 2, 3] (ofPayload [1, 2, 3] (List.replicate 12 7) oddPayload) =
        .ok oddPayload ∧
      ∀ s : String, Base64.decode Base64.urlSafe s = Base64.decode Base64.urlSafe
        (ofPayload [1, 2, 3] (List.replicate 12 7) oddPayload) →
        s = ofPayload [1, 2, 3] (List.replicate 12 7) oddPayload := by
  have hnonce : (List.replicate 12 (7 : UInt8)).length = nonceLength := rfl
  have hlow : -0x8000000000000000 ≤ oddPayload.expiresAt := by decide
  have hhigh : oddPayload.expiresAt < 0x8000000000000000 := by decide
  obtain ⟨hopens, _, _, honly⟩ := one_code_for_payload [1, 2, 3] hnonce hlow hhigh
  exact ⟨hnonce, hlow, hhigh, hopens, honly⟩

end Code

end ConfigRegistry.Login
