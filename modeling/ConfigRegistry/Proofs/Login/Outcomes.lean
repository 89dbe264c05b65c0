import ConfigRegistry.Proofs.Login.Exchanges

/-!
Which exchanges succeed. An exchange issues a token exactly when nothing is missing or wrong in what
the client hands in and the token can be recorded; every other exchange leaves the tokens alone. Of
a code that does not open, and of a verifier of another challenge, the client is told nothing but
that it is so.
-/
namespace ConfigRegistry.Login

variable {secret : List UInt8} {tokens : Ledger} {outage : Option Failure} {p p' : Parameters}
  {draws : Ledger.Draws} {now : Time.Instant} {payload : Payload} {q q' : TokenRequest}
  {redirect : Redirect}

/-- A request has a code that is good up to this second, and the verifier of this code. -/
structure Redeemable (secret : List UInt8) (q : TokenRequest) (now : Time.Instant)
    (payload : Payload) : Prop where
  hasCode : q.code ≠ ""
  hasVerifier : q.verifier ≠ ""
  grantType : q.grantType = "authorization_code"
  opens : Code.openPayload secret q.code = .ok payload
  unexpired : now.seconds ≤ payload.expiresAt
  answered : challengeOf q.verifier = payload.challenge

/-- A request for a token in which nothing is missing and nothing is wrong. -/
structure Deserves (secret : List UInt8) (q : TokenRequest) (now : Time.Instant)
    (payload : Payload) : Prop extends Redeemable secret q now payload where
  address : ∃ target, Url.parse q.redirectUri = .ok target
  client : q.clientId = "terraform"

theorem Payload.isExpired_eq_false_iff : payload.isExpired now = false ↔
    now.seconds ≤ payload.expiresAt := by
  rw [isExpired, decide_eq_false_iff_not, Int.not_lt]

/-- A request that hands in a code and a verifier for the grant that is known here. -/
structure Complete (q : TokenRequest) : Prop where
  hasCode : q.code ≠ ""
  hasVerifier : q.verifier ≠ ""
  grantType : q.grantType = "authorization_code"

/-- What is wrong with a request, and how the client is told of it. Where more is wrong than one
thing, the first one counts. -/
inductive Flaw (secret : List UInt8) (q : TokenRequest) (now : Time.Instant) :
    ClientFault → Option String → Prop
  | noCode (h : q.code = "") : Flaw secret q now .invalidRequest (some "missing code")
  | noVerifier (hcode : q.code ≠ "") (h : q.verifier = "") :
      Flaw secret q now .invalidRequest (some "missing code verifier")
  | grantType (hcode : q.code ≠ "") (hverifier : q.verifier ≠ "")
      (h : q.grantType ≠ "authorization_code") : Flaw secret q now .unsupportedGrantType none
  | closed {fault : CodeFault} (hq : Complete q)
      (h : Code.openPayload secret q.code = .error fault) :
      Flaw secret q now .invalidRequest (some "invalid authorization code")
  | expired {payload : Payload} (hq : Complete q)
      (hopens : Code.openPayload secret q.code = .ok payload)
      (h : payload.expiresAt < now.seconds) :
      Flaw secret q now .invalidGrant (some "authorization code expired")
  | unanswered {payload : Payload} (hq : Complete q)
      (hopens : Code.openPayload secret q.code = .ok payload)
      (hunexpired : now.seconds ≤ payload.expiresAt)
      (h : challengeOf q.verifier ≠ payload.challenge) :
      Flaw secret q now .invalidGrant (some "invalid code verifier")

/-- A request in which something is wrong is not redeemed. -/
theorem Flaw.not_redeemable {f : ClientFault} {description : Option String}
    (h : Flaw secret q now f description) : ¬ Redeemable secret q now payload := by
  intro hgood
  cases h with
  | noCode h => exact hgood.hasCode h
  | noVerifier _ h => exact hgood.hasVerifier h
  | grantType _ _ h => exact h hgood.grantType
  | closed _ h =>
    rw [hgood.opens] at h
    contradiction
  | expired _ hopens h =>
    obtain rfl := Except.ok.inj (hgood.opens.symm.trans hopens)
    exact absurd hgood.unexpired (Int.not_le.mpr h)
  | unanswered _ hopens _ h =>
    obtain rfl := Except.ok.inj (hgood.opens.symm.trans hopens)
    exact h hgood.answered

/-- A request is redeemable, or something is wrong with it. -/
theorem redeemable_or_flaw (secret : List UInt8) (q : TokenRequest) (now : Time.Instant) :
    (∃ payload, Redeemable secret q now payload) ∨
      ∃ f description, Flaw secret q now f description := by
  by_cases hcode : q.code = ""
  · exact .inr ⟨_, _, .noCode hcode⟩
  by_cases hverifier : q.verifier = ""
  · exact .inr ⟨_, _, .noVerifier hcode hverifier⟩
  by_cases hgrant : q.grantType = "authorization_code"
  · have hq : Complete q := ⟨hcode, hverifier, hgrant⟩
    cases hopens : Code.openPayload secret q.code with
    | error fault => exact .inr ⟨_, _, .closed hq hopens⟩
    | ok payload =>
      by_cases hexpired : payload.expiresAt < now.seconds
      · exact .inr ⟨_, _, .expired hq hopens hexpired⟩
      · have hunexpired := Int.not_lt.mp hexpired
        by_cases hanswered : challengeOf q.verifier = payload.challenge
        · exact .inl ⟨payload, hcode, hverifier, hgrant, hopens, hunexpired, hanswered⟩
        · exact .inr ⟨_, _, .unanswered hq hopens hunexpired hanswered⟩
  · exact .inr ⟨_, _, .grantType hcode hverifier hgrant⟩

theorem checkCode_of_redeemable (h : Redeemable secret q now payload) :
    checkCode secret q redirect now = .ok payload := by
  have hgrant : ¬ q.grantType ≠ grantTypeCode := fun hne => hne h.grantType
  have hunexpired := Payload.isExpired_eq_false_iff.mpr h.unexpired
  simp only [checkCode, String.isEmpty_iff, if_neg h.hasCode, if_neg h.hasVerifier, if_neg hgrant,
    h.opens, hunexpired, h.answered, Bool.false_eq_true, if_false, ne_eq, not_true_eq_false]

/-- The client is told what is wrong. -/
theorem checkCode_of_flaw {f : ClientFault} {description : Option String}
    (h : Flaw secret q now f description) (redirect : Redirect) :
    ∃ events, checkCode secret q redirect now = .error (redirect.fault f description, events) := by
  have hgrant : Complete q → ¬ q.grantType ≠ grantTypeCode := fun hq hne => hne hq.grantType
  simp only [checkCode, String.isEmpty_iff]
  cases h with
  | noCode h => exact ⟨_, if_pos h⟩
  | noVerifier hcode h =>
    rw [if_neg hcode]
    exact ⟨_, if_pos h⟩
  | grantType hcode hverifier h =>
    have hother : q.grantType ≠ grantTypeCode := h
    rw [if_neg hcode, if_neg hverifier]
    exact ⟨_, if_pos hother⟩
  | closed hq h =>
    rw [if_neg hq.hasCode, if_neg hq.hasVerifier, if_neg (hgrant hq), h]
    exact ⟨_, rfl⟩
  | expired hq hopens h =>
    have hexpired : Payload.isExpired _ now = true := decide_eq_true h
    rw [if_neg hq.hasCode, if_neg hq.hasVerifier, if_neg (hgrant hq), hopens]
    exact ⟨_, if_pos hexpired⟩
  | unanswered hq hopens hunexpired h =>
    have hvalid := Payload.isExpired_eq_false_iff.mpr hunexpired
    rw [if_neg hq.hasCode, if_neg hq.hasVerifier, if_neg (hgrant hq), hopens]
    simp only [hvalid, Bool.false_eq_true, if_false, if_pos h]
    exact ⟨_, rfl⟩

/-- A code is redeemed, or the client is told of what is wrong. -/
theorem checkCode_cases (secret : List UInt8) (q : TokenRequest) (redirect : Redirect)
    (now : Time.Instant) :
    (∃ payload, Redeemable secret q now payload ∧
      checkCode secret q redirect now = .ok payload) ∨
    ∃ f description events, Flaw secret q now f description ∧
      checkCode secret q redirect now = .error (redirect.fault f description, events) := by
  rcases redeemable_or_flaw secret q now with ⟨payload, hgood⟩ | ⟨f, description, hflaw⟩
  · exact .inl ⟨payload, hgood, checkCode_of_redeemable hgood⟩
  · obtain ⟨events, hcheck⟩ := checkCode_of_flaw hflaw redirect
    exact .inr ⟨f, description, events, hflaw, hcheck⟩

/-- An exchange issues a token to the user in the code that deserves one, or refuses it and leaves
the tokens alone. -/
theorem exchange_cases (secret : List UInt8) (tokens : Ledger) (outage : Option Failure)
    (p : Parameters) (draws : Ledger.Draws) (now : Time.Instant) :
    (outage = none ∧ ∃ payload, Deserves secret (.ofParameters p) now payload ∧
      (exchange secret tokens outage p draws now).response =
        granted (Token.ofBytes draws.token) ∧
      (exchange secret tokens outage p draws now).tokens =
        tokens ++ [Ledger.recordOf payload.username tokenDescription draws now]) ∨
    ¬ (outage = none ∧ ∃ payload, Deserves secret (.ofParameters p) now payload) ∧
      (exchange secret tokens outage p draws now).response.status ≠ 200 ∧
      (exchange secret tokens outage p draws now).tokens = tokens := by
  have hfault : ∀ (redirect : Redirect) fault description,
      (redirect.fault fault description).status ≠ 200 := fun _ _ _ => show 302 ≠ 200 by decide
  unfold exchange
  simp only
  split
  · next response hmake =>
    refine .inr ⟨?_, ?_, rfl⟩
    · rintro ⟨_, payload, h⟩
      obtain ⟨target, htarget⟩ := h.address
      have hmade : Redirect.make (TokenRequest.ofParameters p).clientId
          (TokenRequest.ofParameters p).redirectUri "" = .ok ⟨target, ""⟩ :=
        Redirect.make_eq_ok_iff.mpr ⟨htarget, h.client, rfl⟩
      rw [hmade] at hmake
      contradiction
    · have hstatus : response.status = 400 :=
        congrArg Prod.fst (Redirect.direction_of_make_error hmake)
      rw [hstatus]
      decide
  · next redirect hmake =>
    obtain ⟨htarget, hclient, _⟩ := Redirect.make_eq_ok_iff.mp hmake
    rcases checkCode_cases secret (.ofParameters p) redirect now with
      ⟨payload, hgood, hcheck⟩ | ⟨fault, description, events, hflaw, hcheck⟩
    · rw [hcheck]
      cases outage with
      | none => exact .inl ⟨rfl, payload, ⟨hgood, ⟨_, htarget⟩, hclient⟩, rfl, rfl⟩
      | some f => exact .inr ⟨fun h => Option.some_ne_none f h.1, hfault _ _ _, rfl⟩
    · rw [hcheck]
      exact .inr ⟨fun ⟨_, payload, h⟩ => hflaw.not_redeemable h.toRedeemable, hfault _ _ _, rfl⟩

/-! What the client is not told. -/

structure UselessCode (secret : List UInt8) (q : TokenRequest) : Prop where
  present : q.code ≠ ""
  fails : ∃ fault, Code.openPayload secret q.code = .error fault

/-- There is a verifier, but whatever its length, its challenge is not that in the code. -/
structure UselessVerifier (secret : List UInt8) (q : TokenRequest) : Prop where
  present : q.verifier ≠ ""
  unanswered : ∀ payload, Code.openPayload secret q.code = .ok payload →
    challengeOf q.verifier ≠ payload.challenge

theorem UselessCode.checkCode_eq (h : UselessCode secret q) (h' : UselessCode secret q')
    (hverifier : q'.verifier = q.verifier) (hgrant : q'.grantType = q.grantType)
    (redirect : Redirect) (now : Time.Instant) :
    checkCode secret q' redirect now = checkCode secret q redirect now := by
  obtain ⟨fault, hfails⟩ := h.fails
  obtain ⟨fault', hfails'⟩ := h'.fails
  simp only [checkCode, String.isEmpty_iff, if_neg h.present, if_neg h'.present, hfails, hfails',
    hverifier, hgrant]

theorem UselessVerifier.checkCode_eq (h : UselessVerifier secret q) (h' : UselessVerifier secret q')
    (hcode : q'.code = q.code) (hgrant : q'.grantType = q.grantType) (redirect : Redirect)
    (now : Time.Instant) :
    checkCode secret q' redirect now = checkCode secret q redirect now := by
  have hunanswered' := h'.unanswered
  rw [hcode] at hunanswered'
  simp only [checkCode, String.isEmpty_iff, if_neg h.present, if_neg h'.present, hcode, hgrant]
  cases hopen : Code.openPayload secret q.code with
  | error fault => rfl
  | ok payload =>
    simp only [if_pos (h.unanswered payload hopen), if_pos (hunanswered' payload hopen)]

/-- Parameters that are the same but for one of them. -/
def Parameters.AlikeBut (name : String) (p p' : Parameters) : Prop :=
  ∀ other, other ≠ name → p'.value other = p.value other

theorem exchange_congr (hclient : p'.value "client_id" = p.value "client_id")
    (haddress : p'.value "redirect_uri" = p.value "redirect_uri")
    (hcheck : ∀ redirect now, checkCode secret (.ofParameters p') redirect now =
      checkCode secret (.ofParameters p) redirect now) :
    exchange secret tokens outage p' draws now = exchange secret tokens outage p draws now := by
  simp only [exchange, hcheck]
  simp only [TokenRequest.ofParameters, hclient, haddress]

/-- Which code it is that does not open makes no difference. -/
theorem exchange_of_uselessCode (h : UselessCode secret (.ofParameters p))
    (h' : UselessCode secret (.ofParameters p')) (halike : p.AlikeBut "code" p') :
    exchange secret tokens outage p' draws now = exchange secret tokens outage p draws now := by
  apply exchange_congr (halike _ (by decide)) (halike _ (by decide))
  apply h.checkCode_eq h'
  · exact halike "code_verifier" (by decide)
  · exact halike "grant_type" (by decide)

/-- Which verifier it is that does not answer the challenge makes no difference. -/
theorem exchange_of_uselessVerifier (h : UselessVerifier secret (.ofParameters p))
    (h' : UselessVerifier secret (.ofParameters p')) (halike : p.AlikeBut "code_verifier" p') :
    exchange secret tokens outage p' draws now = exchange secret tokens outage p draws now := by
  apply exchange_congr (halike _ (by decide)) (halike _ (by decide))
  apply h.checkCode_eq h'
  · exact halike "code" (by decide)
  · exact halike "grant_type" (by decide)

end ConfigRegistry.Login
