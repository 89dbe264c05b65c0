import ConfigRegistry.Login.Exchange
import ConfigRegistry.Proofs.Login.Codes
import ConfigRegistry.Proofs.Login.Redirects
import ConfigRegistry.Proofs.Token.Ledger
import ConfigRegistry.Proofs.Url.Queries

/-!
The second request of a login. What a client is told by an address is what the last pair of its name
says there, whatever pairs the address of the client has itself. A code is exchanged for a token by
who knows its verifier, up to the last second in it.
-/
namespace ConfigRegistry

open Coding

def Url.lastValue? (address name : String) : Option String :=
  (queryPairs address).reverse.lookup name

theorem Url.lastValue?_withPairs {u : Url} (hu : u.Legible) {pairs : List (String × String)}
    {name value : String} (h : pairs.reverse.lookup name = some value) :
    lastValue? (u.withPairs pairs).render name = some value := by
  rw [lastValue?, queryPairs_withPairs hu, List.reverse_append, List.lookup_append, h,
    Option.some_or]

namespace Login

/-- An answer leads back to a client, with pairs behind its address, of which the last one of a name
has a value. -/
def Tells (redirect : Redirect) (response : Http.Response) (name value : String) : Prop :=
  ∃ pairs, response.direction = (redirect.withPairs pairs).direction ∧
    Url.lastValue? (redirect.target.withPairs pairs).render name = some value

namespace Redirect

variable {r : Redirect}

theorem legible_of_make {clientId address state : String}
    (h : make clientId address state = .ok r) : r.target.Legible :=
  Url.legible_of_parse (make_eq_ok_iff.mp h).1

/-- A code is found in the address that it is handed over by. -/
theorem tells_code (hr : r.target.Legible) {response : Http.Response} {code : String}
    (h : response.direction = (r.code code).direction) : Tells r response "code" code := by
  refine ⟨_, h, Url.lastValue?_withPairs hr ?_⟩
  rw [List.reverse_append, List.reverse_singleton, List.singleton_append, List.lookup_cons_self]

/-- The name of a fault is found in the address that tells of it. -/
theorem tells_fault (hr : r.target.Legible) {response : Http.Response} {f : ClientFault}
    {description : Option String} (h : response.direction = (r.fault f description).direction) :
    Tells r response "error" f.name := by
  refine ⟨_, h, Url.lastValue?_withPairs hr ?_⟩
  have hstate : r.statePairs.reverse.lookup "error" = none := by
    unfold statePairs
    split
    · rfl
    · simp [List.lookup_cons]
  have hdescription :
      (description.map fun d => ("error_description", d)).toList.reverse.lookup "error" = none := by
    cases description with
    | none => rfl
    | some d => simp [List.lookup_cons]
  simp only [List.reverse_append, List.lookup_append, hstate, hdescription, Option.none_or]
  rfl

end Redirect

/-- A client hands in a code and a verifier, with an address that the outcome is told to. -/
structure HandsIn (p : Parameters) (code verifier : String) (redirect : Redirect) : Prop where
  code : p.value "code" = code
  verifier : p.value "code_verifier" = verifier
  grantType : p.value "grant_type" = "authorization_code"
  client : Redirect.make (p.value "client_id") (p.value "redirect_uri") "" = .ok redirect

theorem HandsIn.make_eq {p : Parameters} {code verifier : String} {redirect : Redirect}
    (h : HandsIn p code verifier redirect) : Redirect.make (TokenRequest.ofParameters p).clientId
      (TokenRequest.ofParameters p).redirectUri "" = .ok redirect := h.client

/-- A code holds a payload whose challenge a verifier answers. -/
structure Fits (secret : List UInt8) (code verifier : String) (payload : Payload) : Prop where
  hasCode : code ≠ ""
  hasVerifier : verifier ≠ ""
  opens : Code.openPayload secret code = .ok payload
  answered : challengeOf verifier = payload.challenge

variable {secret : List UInt8} {tokens : Ledger} {p : Parameters} {draws : Ledger.Draws}
  {now : Time.Instant} {code verifier : String} {redirect : Redirect} {payload : Payload}

/-- A code that fits is refused only once it has expired. -/
theorem checkCode_of_fits (h : HandsIn p code verifier redirect)
    (hfits : Fits secret code verifier payload) (now : Time.Instant) :
    checkCode secret (.ofParameters p) redirect now =
      if payload.isExpired now then
        .error (redirect.fault .invalidGrant (some "authorization code expired"), [])
      else .ok payload := by
  obtain ⟨rfl, rfl, hgrant, _⟩ := h
  have hgrant : (TokenRequest.ofParameters p).grantType = grantTypeCode := hgrant
  have hcode : (TokenRequest.ofParameters p).code ≠ "" := hfits.hasCode
  have hverifier : (TokenRequest.ofParameters p).verifier ≠ "" := hfits.hasVerifier
  have hopens : Code.openPayload secret (TokenRequest.ofParameters p).code = .ok payload :=
    hfits.opens
  have hanswered : challengeOf (TokenRequest.ofParameters p).verifier = payload.challenge :=
    hfits.answered
  simp only [checkCode, String.isEmpty_iff, if_neg hcode, if_neg hverifier, hgrant, hopens,
    hanswered, ne_eq, not_true_eq_false, if_false]

/-- A code is exchanged for a token of the user in it. -/
theorem exchange_of_fits (h : HandsIn p code verifier redirect)
    (hfits : Fits secret code verifier payload) (hnow : payload.isExpired now = false)
    (tokens : Ledger) (draws : Ledger.Draws) :
    (exchange secret tokens none p draws now).response = granted (Token.ofBytes draws.token) ∧
      (exchange secret tokens none p draws now).tokens =
        tokens ++ [Ledger.recordOf payload.username tokenDescription draws now] := by
  have hcheck := checkCode_of_fits h hfits now
  rw [hnow, if_neg Bool.false_ne_true] at hcheck
  simp only [exchange, h.make_eq, hcheck, Ledger.issue_eq, and_self]

/-- An expired code is exchanged for nothing, and the client is told so. -/
theorem exchange_of_expired (h : HandsIn p code verifier redirect)
    (hfits : Fits secret code verifier payload) (hnow : payload.isExpired now = true)
    (outage : Option Failure) :
    exchange secret tokens outage p draws now =
      ⟨redirect.fault .invalidGrant (some "authorization code expired"), tokens, []⟩ := by
  have hcheck := checkCode_of_fits h hfits now
  rw [hnow, if_pos rfl] at hcheck
  simp only [exchange, h.make_eq, hcheck]

/-- No token is issued if it cannot be recorded, and the client is told so. -/
theorem exchange_of_outage (h : HandsIn p code verifier redirect)
    (hfits : Fits secret code verifier payload) (hnow : payload.isExpired now = false)
    (f : Failure) :
    exchange secret tokens (some f) p draws now =
      ⟨redirect.fault .serverError none, tokens, [⟨.error, "Failed to create API token"⟩]⟩ := by
  have hcheck := checkCode_of_fits h hfits now
  rw [hnow, if_neg Bool.false_ne_true] at hcheck
  simp only [exchange, h.make_eq, hcheck, Ledger.issue]

end Login

end ConfigRegistry
