import ConfigRegistry.Proofs.Http.Routes
import ConfigRegistry.Proofs.Login.Redirects
import ConfigRegistry.Proofs.Server.Directions

/-!
When a user is sent back with a code. A known client gets one for a consented request of a user by
POST, and also by HEAD, which asks for the page without its bytes; it gets none by any other
method.
-/
namespace ConfigRegistry.Server

open Http Login

variable {a : App} {s : State} {o : Occasion} {r : Request} {q q' : AuthorizationRequest}
  {redirect redirect' : Redirect}

/-- What a request asks for, and for which address of the known client. -/
structure Asked (r : Request) (q : AuthorizationRequest) (redirect : Redirect) : Prop where
  parameters : ∃ body, readBody (bodyLimit .authorization r.headers) r.body = .ok body ∧
    AuthorizationRequest.ofParameters (.ofRequest r.query r.headers body.toList) = .ok q
  client : Redirect.make q.clientId q.redirectUri q.state = .ok redirect

def visitOf (a : App) (o : Occasion) (r : Request) : Visit :=
  ⟨r.method, sessionUser? a r.headers, o.now, o.nonce⟩

theorem direction_of_readBody_error {limit : Nat} {body : Body} {response : Response}
    (h : readBody limit body = .error response) : response.direction.2 = none := by
  unfold readBody at h
  simp only at h
  split at h
  · contradiction
  · obtain rfl := Except.error.inj h
    rw [Response.direction_text]
  · obtain rfl := Except.error.inj h
    rw [Response.direction_text]

/-- What a request asks for is decided upon, if it has a method of the page. -/
theorem direction_of_asked (hroute : Route.ofPath? (pathOf r) = some .authorization)
    (hmethod : r.method ∈ Route.authorization.methods) (hasked : Asked r q redirect) :
    (respond a s o r).response.direction =
      (Login.decide a.settings (visitOf a o r) q redirect).1.direction := by
  obtain ⟨body, hbody, hq⟩ := hasked.parameters
  have hoptions : r.method ≠ "OPTIONS" := by
    intro h
    rw [h] at hmethod
    exact absurd hmethod (by decide)
  have hsize : isOversized .authorization r.headers = false := rfl
  have hlisted : ¬ r.method ∉ Route.authorization.methods := fun h => h hmethod
  rw [direction_respond hroute, if_neg hoptions, hsize]
  simp only [Bool.false_eq_true, if_false, atGate, Route.gate, Exchange.response_after, admitted,
    if_neg hlisted, Route.badName?, Route.names, List.find?_nil, Option.map_none, handle, withBody,
    hbody, Exchange.response_pure, authorize, hq, hasked.client]
  rfl

/-- A request that asks for nothing, or by another method, is led nowhere. -/
theorem asked_of_direction (hroute : Route.ofPath? (pathOf r) = some .authorization)
    (h : (respond a s o r).response.direction.2 ≠ none) :
    r.method ∈ Route.authorization.methods ∧ ∃ q redirect, Asked r q redirect := by
  rw [direction_respond hroute] at h
  split at h
  · contradiction
  · split at h
    · contradiction
    · simp only [atGate, Route.gate, Exchange.response_after] at h
      unfold admitted at h
      split at h
      · contradiction
      · next hmethod =>
        refine ⟨Decidable.not_not.mp hmethod, ?_⟩
        simp only [Route.badName?, Route.names, List.find?_nil, Option.map_none, handle,
          withBody] at h
        split at h
        · next body hbody =>
          simp only [Exchange.response_pure, authorize] at h
          split at h
          · rw [Response.direction_text] at h
            contradiction
          · next q hq =>
            split at h
            · next response hresponse =>
              rw [Redirect.direction_of_make_error hresponse] at h
              contradiction
            · next redirect hredirect => exact ⟨q, redirect, ⟨body, hbody, hq⟩, hredirect⟩
        · next response hresponse => exact absurd (direction_of_readBody_error hresponse) h

def HandsOver (r : Request) (response : Response) (code : String) : Prop :=
  ∃ q redirect, Asked r q redirect ∧ response.direction = (redirect.code code).direction

def TellsFault (r : Request) (response : Response) : Prop :=
  ∃ q redirect f description, Asked r q redirect ∧
    response.direction = (redirect.fault f description).direction

theorem direction_code (redirect : Redirect) (code : String) :
    (redirect.code code).direction.2 ≠ none := by
  simp [Redirect.code, Redirect.withPairs]

/-- The methods of the page but that which only asks for it. -/
theorem method_mem_iff :
    r.method = "HEAD" ∨ r.method = "POST" ↔
      r.method ∈ Route.authorization.methods ∧ r.method ≠ "GET" := by
  simp only [Route.methods, List.mem_cons, List.not_mem_nil, or_false]
  constructor
  · rintro (h | h)
    · rw [h]
      decide
    · rw [h]
      decide
  · rintro ⟨hget | hother, hnot⟩
    · exact absurd hget hnot
    · exact hother

theorem handsOver_of_earns {code : String}
    (hroute : Route.ofPath? (pathOf r) = some .authorization) (hasked : Asked r q redirect)
    (hmethod : r.method = "HEAD" ∨ r.method = "POST")
    (h : Earns a.settings (visitOf a o r) q code) :
    HandsOver r (respond a s o r).response code := by
  have hdecided := direction_of_asked (a := a) (s := s) (o := o) hroute
    (method_mem_iff.mp hmethod).1 hasked
  exact ⟨q, redirect, hasked, hdecided.trans (decide_eq_code_iff.mpr h)⟩

/-- A request for the page of consent is answered with a code exactly if it comes by POST or HEAD
from a user, for the known client, with the right kinds of answer and of challenge, and is
consented; the code holds its challenge and the user. Any other answer leads nowhere or tells the
client of a fault. -/
theorem authorization_outcome (hroute : Route.ofPath? (pathOf r) = some .authorization) :
    (∀ code, HandsOver r (respond a s o r).response code ↔
      ∃ q redirect, Asked r q redirect ∧ q.clientId = "terraform" ∧
        (r.method = "HEAD" ∨ r.method = "POST") ∧ Earns a.settings (visitOf a o r) q code) ∧
    ((respond a s o r).response.direction.2 = none ∨ TellsFault r (respond a s o r).response ∨
      ∃ code, HandsOver r (respond a s o r).response code) := by
  refine ⟨fun code => ⟨?_, ?_⟩, ?_⟩
  · rintro ⟨q, redirect, hasked, hcode⟩
    have hsomewhere : (respond a s o r).response.direction.2 ≠ none := by
      rw [hcode]
      exact direction_code redirect code
    obtain ⟨hmethod, _⟩ := asked_of_direction hroute hsomewhere
    have hearns := decide_eq_code_iff.mp
      ((direction_of_asked hroute hmethod hasked).symm.trans hcode)
    exact ⟨q, redirect, hasked, Redirect.make_ok hasked.client,
      method_mem_iff.mpr ⟨hmethod, hearns.method⟩, hearns⟩
  · rintro ⟨q, redirect, hasked, _, hmethod, hearns⟩
    exact handsOver_of_earns hroute hasked hmethod hearns
  · by_cases hnowhere : (respond a s o r).response.direction.2 = none
    · exact .inl hnowhere
    · obtain ⟨hmethod, q, redirect, hasked⟩ := asked_of_direction hroute hnowhere
      have hdecided := direction_of_asked (a := a) (s := s) (o := o) hroute hmethod hasked
      rcases decide_cases a.settings (visitOf a o r) q redirect with ⟨_, h⟩ |
        ⟨f, description, h⟩ | ⟨code, _, h⟩
      · rw [hdecided, h, Response.direction_page] at hnowhere
        contradiction
      · rw [h] at hdecided
        exact .inr (.inl ⟨q, redirect, f, description, hasked, hdecided⟩)
      · rw [h] at hdecided
        exact .inr (.inr ⟨code, q, redirect, hasked, hdecided⟩)

/-! A user who is sent to the page with the consent given beforehand. -/

def foregone : String :=
  "client_id=terraform&redirect_uri=app:/login&response_type=code&" ++
  "code_challenge=E9Melhoa2OwvFrEMTJguCHaoeK1t8URWbuGJSstw-cM&code_challenge_method=S256&" ++
  "consented=true"

def foregoneConsent : Request :=
  ⟨"HEAD", authorizationPath, some foregone, [("x-forwarded-user", Coding.Utf8.encode "bob")], []⟩

theorem foregone_parameters :
    Parameters.ofRequest foregoneConsent.query foregoneConsent.headers [] =
      [("client_id", "terraform"), ("redirect_uri", "app:/login"), ("response_type", "code"),
        ("code_challenge", "E9Melhoa2OwvFrEMTJguCHaoeK1t8URWbuGJSstw-cM"),
        ("code_challenge_method", "S256"), ("consented", "true")] := by decide +kernel

theorem foregoneConsent_routed :
    Route.ofPath? (pathOf foregoneConsent) = some .authorization := by
  have hpath : pathOf foregoneConsent = authorizationPath := Route.trimmedPath_authorizationPath
  rw [hpath]
  rfl

/-- The request asks for a code in its query, consent included, and is not a post. -/
theorem foregoneConsent_asked :
    Asked foregoneConsent
      ⟨"terraform", "E9Melhoa2OwvFrEMTJguCHaoeK1t8URWbuGJSstw-cM", "S256", "app:/login", "code", "",
        true⟩
      ⟨⟨"app", none, "/login", none, none⟩, ""⟩ where
  parameters := by
    refine ⟨.empty, rfl, ?_⟩
    rw [ByteArray.toList_empty, foregone_parameters]
    rfl
  client := by
    have haddress : (Url.parse "app:/login").toOption =
      some ⟨"app", none, "/login", none, none⟩ := by decide +kernel
    rw [Redirect.make, toOption_eq_some.mp haddress]
    rfl

/-- A request for the fields of the page gets a code. -/
theorem foregoneConsent_handsOver :
    Route.ofPath? (pathOf foregoneConsent) = some .authorization ∧
      foregoneConsent.method = "HEAD" ∧
      ∃ code, HandsOver foregoneConsent
        (respond plainApp .empty plainOccasion foregoneConsent).response code := by
  have huser : sessionUser? plainApp foregoneConsent.headers = some "bob" := by
    decide +kernel
  have hexpiry : plainOccasion.now.addSeconds? plainApp.settings.authCodeSeconds =
    some ⟨1700000300, 0⟩ := rfl
  exact ⟨foregoneConsent_routed, rfl, _, handsOver_of_earns foregoneConsent_routed
    foregoneConsent_asked (.inl rfl)
    ⟨rfl, rfl, by decide, rfl, "bob", ⟨1700000300, 0⟩, huser, hexpiry, rfl⟩⟩

theorem foregoneConsent_outcome :
    Route.ofPath? (pathOf foregoneConsent) = some .authorization ∧
      (∀ code, HandsOver foregoneConsent
          (respond plainApp .empty plainOccasion foregoneConsent).response code ↔
        ∃ q redirect, Asked foregoneConsent q redirect ∧ q.clientId = "terraform" ∧
          (foregoneConsent.method = "HEAD" ∨ foregoneConsent.method = "POST") ∧
          Earns plainApp.settings (visitOf plainApp plainOccasion foregoneConsent) q code) ∧
      ((respond plainApp .empty plainOccasion foregoneConsent).response.direction.2 = none ∨
        TellsFault foregoneConsent
          (respond plainApp .empty plainOccasion foregoneConsent).response ∨
        ∃ code, HandsOver foregoneConsent
          (respond plainApp .empty plainOccasion foregoneConsent).response code) :=
  ⟨foregoneConsent_routed, authorization_outcome foregoneConsent_routed⟩

end ConfigRegistry.Server
