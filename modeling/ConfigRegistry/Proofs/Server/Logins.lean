import ConfigRegistry.Proofs.Http.Bodies
import ConfigRegistry.Proofs.Login.Exchanges
import ConfigRegistry.Proofs.Server.Bearers
import ConfigRegistry.Proofs.Server.Consent

/-!
A login from the consent of a user to the token of the client. The code that a user is sent back
with is good for a token of that user up to its last second, with the verifier whose challenge the
user consented to and with no other.
-/
namespace ConfigRegistry

theorem Settings.authCodeSeconds_of_validate {s : Settings} (h : s.validate = .ok ()) :
    0 < s.authCodeSeconds := by
  unfold validate at h
  split at h
  · contradiction
  · next hnone =>
    unfold fault? at hnone
    split at hnone
    · contradiction
    · split at hnone
      · contradiction
      · split at hnone
        · contradiction
        · next hseconds => omega

theorem Time.Instant.addSeconds?_of_bounds {t : Instant} {n : Int}
    (hlow : minSeconds ≤ t.seconds + n) (hhigh : t.seconds + n ≤ maxSeconds) :
    t.addSeconds? n = some ⟨t.seconds + n, t.nanos⟩ := by
  unfold addSeconds?
  exact if_pos ⟨hlow, hhigh⟩

namespace Server

open Coding Http Login

variable {a : App} {s : State} {o : Occasion} {r : Request} {username : String}
  {q : AuthorizationRequest} {redirect : Redirect} {code verifier : String}

/-- The session proxy names a user, without blanks around the name. -/
structure SignedIn (a : App) (h : Headers) (username : String) : Prop where
  header : ∃ name, fieldName? a.settings.sessionUserHeader = some name ∧
    h.get? name = some (Utf8.encode username)
  visible : ∀ c ∈ username.toList, 0x20 ≤ c.toNat ∧ c.toNat < 0x7f
  trimmed : Text.trim username = username
  nonempty : username ≠ ""

/-- A user consents by POST to a login of the known client. -/
structure Consents (a : App) (r : Request) (username : String) (q : AuthorizationRequest)
    (redirect : Redirect) : Prop where
  path : pathOf r = authorizationPath
  method : r.method = "POST"
  user : SignedIn a r.headers username
  parameters : ∃ body, r.body.content? = some body ∧ body.size ≤ maxBody ∧
    AuthorizationRequest.ofParameters (.ofRequest r.query r.headers body.toList) = .ok q
  client : Redirect.make q.clientId q.redirectUri q.state = .ok redirect
  responseType : q.responseType = "code"
  challengeMethod : q.challengeMethod = "S256"
  consented : q.consented = true

/-- A client posts a code and a verifier to be given a token. -/
structure Redeems (r : Request) (code verifier : String) (redirect : Redirect) : Prop where
  path : pathOf r = tokenPath
  method : r.method = "POST"
  parameters : ∃ body, r.body.content? = some body ∧ body.size ≤ maxBody ∧
    HandsIn (.ofRequest r.query r.headers body.toList) code verifier redirect

theorem readBody_of_size {route : Route} (hroute : route.takesSmallBodies = false)
    {body : ByteArray} (hcontent : r.body.content? = some body) (hsize : body.size ≤ maxBody) :
    readBody (bodyLimit route r.headers) r.body = .ok body := by
  simp only [readBody, bodyLimit, hroute, Bool.false_eq_true, if_false,
    Body.read_eq_ok hcontent hsize]

theorem content?_of_readBody {limit : Nat} {b : Body} {body : ByteArray}
    (h : readBody limit b = .ok body) : b.content? = some body := by
  unfold readBody at h
  simp only at h
  split at h
  · next hread =>
    obtain rfl := Except.ok.inj h
    exact Body.content?_of_read hread
  · contradiction
  · contradiction

theorem readBody_of_tooLarge {route : Route} (hroute : route.takesSmallBodies = false)
    {body : ByteArray} (hcontent : r.body.content? = some body) (hsize : maxBody < body.size) :
    readBody (bodyLimit route r.headers) r.body =
      .error (.text 413 ("Failed to buffer the request body: " ++ lengthExceeded)) := by
  simp only [readBody, bodyLimit, hroute, Bool.false_eq_true, if_false,
    Body.read_eq_tooLarge hcontent hsize]

/-! Consent. -/

theorem SignedIn.sessionUser? {h : Headers} (hin : SignedIn a h username) :
    sessionUser? a h = some username := by
  obtain ⟨name, hname, hvalue⟩ := hin.header
  simp [Server.sessionUser?, hname, Headers.text?_of_visible hvalue hin.visible, hin.trimmed,
    hin.nonempty]

theorem Consents.asked (h : Consents a r username q redirect) : Asked r q redirect := by
  obtain ⟨body, hcontent, hsize, hq⟩ := h.parameters
  exact ⟨⟨body, readBody_of_size rfl hcontent hsize, hq⟩, h.client⟩

def consenting (o : Occasion) (username : String) : Visit := ⟨"POST", some username, o.now, o.nonce⟩

/-- A consent is answered with what comes of issuing a code. -/
theorem Consents.direction (h : Consents a r username q redirect) :
    (respond a s o r).response.direction =
      (issueCode a.settings (consenting o username) q redirect username).1.direction := by
  have hroute : Route.ofPath? (pathOf r) = some .authorization := by
    rw [h.path]
    rfl
  have hmethod : r.method ∈ Route.authorization.methods := by
    rw [h.method]
    decide
  rw [direction_of_asked hroute hmethod h.asked]
  have hvisit : visitOf a o r = consenting o username := by
    simp only [visitOf, consenting, h.method, h.user.sessionUser?]
  have hresponse : ¬ q.responseType ≠ responseTypeCode := fun hne => hne h.responseType
  have hchallenge : ¬ q.challengeMethod ≠ challengeMethodS256 := fun hne => hne h.challengeMethod
  have hpost : (consenting o username).method ≠ "GET" := show "POST" ≠ "GET" by decide
  rw [hvisit, Login.decide, if_neg hresponse, if_neg hchallenge, if_neg hpost, h.consented]
  rfl

def payloadOf (a : App) (o : Occasion) (username challenge : String) : Payload :=
  ⟨challenge, "S256", username, o.now.seconds + a.settings.authCodeSeconds⟩

def codeOf (a : App) (o : Occasion) (username challenge : String) : String :=
  Code.ofPayload a.secret o.nonce (payloadOf a o username challenge)

/-- A consent hands over a code, if the code can expire. -/
theorem Consents.tells_code (h : Consents a r username q redirect)
    (hlow : Time.Instant.minSeconds ≤ o.now.seconds + a.settings.authCodeSeconds)
    (hhigh : o.now.seconds + a.settings.authCodeSeconds ≤ Time.Instant.maxSeconds) :
    Tells redirect (respond a s o r).response "code" (codeOf a o username q.challenge) := by
  refine Redirect.tells_code (Redirect.legible_of_make h.client) ?_
  rw [h.direction, issueCode]
  simp only [consenting, Time.Instant.addSeconds?_of_bounds hlow hhigh, h.challengeMethod]
  rfl

/-- A consent at the end of time is told to have failed. -/
theorem Consents.tells_fault (h : Consents a r username q redirect)
    (hlate : Time.Instant.maxSeconds < o.now.seconds + a.settings.authCodeSeconds) :
    Tells redirect (respond a s o r).response "error" "server_error" := by
  refine Redirect.tells_fault (Redirect.legible_of_make h.client)
    (show _ = (redirect.fault .serverError none).direction from ?_)
  have hnever : o.now.addSeconds? a.settings.authCodeSeconds = none :=
    if_neg fun hbounds => Int.not_lt.mpr hbounds.2 hlate
  rw [h.direction, issueCode]
  simp only [consenting, hnever]

/-- The code of a consent fits the verifier whose challenge it holds. -/
theorem fits_codeOf (username : String) (hnonce : o.nonce.length = Code.nonceLength)
    (hlow : Time.Instant.minSeconds ≤ o.now.seconds + a.settings.authCodeSeconds)
    (hhigh : o.now.seconds + a.settings.authCodeSeconds ≤ Time.Instant.maxSeconds)
    (hverifier : verifier ≠ "") :
    Fits a.secret (codeOf a o username (challengeOf verifier)) verifier
      (payloadOf a o username (challengeOf verifier)) where
  hasCode := Code.ofPayload_ne_empty _ _ _
  hasVerifier := hverifier
  opens := by
    have hmin : -0x8000000000000000 ≤ Time.Instant.minSeconds := by decide
    have hmax : Time.Instant.maxSeconds < 0x8000000000000000 := by decide
    exact Code.openPayload_ofPayload hnonce (Int.le_trans hmin hlow) (Int.lt_of_le_of_lt hhigh hmax)
  answered := rfl

/-! Redemption. -/

structure AsksToken (r : Request) : Prop where
  path : pathOf r = tokenPath
  method : r.method = "POST"

theorem AsksToken.admitted (h : AsksToken r) : Admitted a s o r .token ⟨none, none⟩ := by
  refine ⟨?_, ?_, rfl, .free⟩
  · rw [h.path]
    rfl
  · rw [h.method]
    decide

def parameters? (r : Request) : Option Parameters :=
  (readBody (bodyLimit .token r.headers) r.body).toOption.map fun body =>
    .ofRequest r.query r.headers body.toList

/-- A request whose body is read is answered with what comes of the exchange. -/
theorem AsksToken.exchanged {p : Parameters} (h : AsksToken r) (hp : parameters? r = some p) :
    (respond a s o r).state = { s with tokens := (Login.exchange a.secret s.tokens o.outages.tokens
        p o.token o.now).tokens } ∧
      (respond a s o r).response = finished a o r .token (Login.exchange a.secret s.tokens
        o.outages.tokens p o.token o.now).response := by
  obtain ⟨hstate, hresponse⟩ := h.admitted.respond_eq (a := a) (s := s) (o := o) rfl
  obtain ⟨body, hbody, rfl⟩ := Option.map_eq_some_iff.mp hp
  have hread := toOption_eq_some.mp hbody
  constructor
  · rw [hstate]
    simp only [handle, withBody, hread]
  · rw [hresponse]
    simp only [handle, withBody, hread]
    rfl

/-- A code that is redeemed is exchanged. -/
theorem Redeems.exchanges (h : Redeems r code verifier redirect) :
    ∃ p, HandsIn p code verifier redirect ∧
      (respond a s o r).response.direction = (Login.exchange a.secret s.tokens o.outages.tokens p
        o.token o.now).response.direction ∧
      (respond a s o r).response.content = (Login.exchange a.secret s.tokens o.outages.tokens p
        o.token o.now).response.content ∧
      (respond a s o r).state.tokens = (Login.exchange a.secret s.tokens o.outages.tokens p
        o.token o.now).tokens := by
  obtain ⟨body, hcontent, hsize, hin⟩ := h.parameters
  have hasks : AsksToken r := ⟨h.path, h.method⟩
  have hhead : r.method ≠ "HEAD" := by
    rw [h.method]
    decide
  have hp : parameters? r = some (.ofRequest r.query r.headers body.toList) := by
    rw [parameters?, readBody_of_size rfl hcontent hsize]
    rfl
  obtain ⟨hstate, hresponse⟩ := hasks.exchanged (a := a) (s := s) (o := o) hp
  refine ⟨_, hin, ?_, ?_, ?_⟩
  · rw [hresponse, direction_finished]
  · rw [hresponse, content_finished hhead]
  · rw [hstate]

def tokenBody (token : String) : ByteArray :=
  (Json.Value.object
    [("access_token", .string token), ("token_type", .string "bearer")]).render.toUTF8

/-- In time a code is redeemed for a token of its user. -/
theorem Redeems.granted {payload : Payload} (h : Redeems r code verifier redirect)
    (hfits : Fits a.secret code verifier payload) (ho : o.outages.tokens = none)
    (hnow : o.now.seconds ≤ payload.expiresAt) :
    (respond a s o r).response.content = (200, tokenBody (Token.ofBytes o.token.token)) ∧
      (respond a s o r).state.tokens =
        s.tokens ++ [Ledger.recordOf payload.username tokenDescription o.token o.now] := by
  obtain ⟨p, hin, _, hcontent, htokens⟩ := h.exchanges (a := a) (s := s) (o := o)
  have hvalid : payload.isExpired o.now = false := decide_eq_false (Int.not_lt.mpr hnow)
  rw [ho] at hcontent htokens
  obtain ⟨hresponse, hissued⟩ := exchange_of_fits hin hfits hvalid s.tokens o.token
  exact ⟨hcontent.trans (by rw [hresponse]; rfl), htokens.trans hissued⟩

/-- Later it is redeemed for nothing. -/
theorem Redeems.refused {payload : Payload} (h : Redeems r code verifier redirect)
    (hfits : Fits a.secret code verifier payload) (hnow : payload.expiresAt < o.now.seconds) :
    Tells redirect (respond a s o r).response "error" "invalid_grant" ∧
      (respond a s o r).state.tokens = s.tokens := by
  obtain ⟨p, hin, hdirection, _, htokens⟩ := h.exchanges (a := a) (s := s) (o := o)
  have hexpired : payload.isExpired o.now = true := decide_eq_true hnow
  rw [exchange_of_expired hin hfits hexpired] at hdirection htokens
  exact ⟨Redirect.tells_fault (Redirect.legible_of_make hin.client) hdirection, htokens⟩

/-- While tokens cannot be recorded it is redeemed for nothing either. -/
theorem Redeems.failed {payload : Payload} {f : Failure} (h : Redeems r code verifier redirect)
    (hfits : Fits a.secret code verifier payload) (ho : o.outages.tokens = some f)
    (hnow : o.now.seconds ≤ payload.expiresAt) :
    Tells redirect (respond a s o r).response "error" "server_error" := by
  obtain ⟨p, hin, hdirection, _, _⟩ := h.exchanges (a := a) (s := s) (o := o)
  have hvalid : payload.isExpired o.now = false := decide_eq_false (Int.not_lt.mpr hnow)
  rw [ho, exchange_of_outage hin hfits hvalid] at hdirection
  exact Redirect.tells_fault (Redirect.legible_of_make hin.client) hdirection

/-- With a verifier of another challenge nothing is issued for a code. -/
theorem tokens_of_other_verifier {payload : Payload} {body : ByteArray}
    (hopens : Code.openPayload a.secret code = .ok payload) (hcontent : r.body.content? = some body)
    (hcode : Parameters.value (.ofRequest r.query r.headers body.toList) "code" = code)
    (hother : challengeOf (Parameters.value (.ofRequest r.query r.headers body.toList)
      "code_verifier") ≠ payload.challenge) :
    (respond a s o r).state.tokens = s.tokens := by
  rcases respond_issues a s o r with hsame | ⟨_, _, ⟨_, _, body', hbody, hgood⟩, _, _⟩
  · exact hsame
  · obtain rfl := Option.some.inj (hcontent.symm.trans (content?_of_readBody hbody))
    subst hcode
    obtain rfl := Except.ok.inj (hopens.symm.trans hgood.opens)
    exact absurd hgood.answered hother

/-- What a code is good for: up to its last second, and whatever the server did meanwhile, who posts
it with its verifier is given a token, and with the token is let in as the user from then on; after
that second the client is told that the code is not good any more; and with a verifier of another
challenge no token is issued for it. -/
structure GoodFor (a : App) (code verifier challenge username : String) (last : Int) : Prop where
  inTime : ∀ (s : Site) (o : Occasion) (r : Request) (redirect : Redirect),
    Redeems r code verifier redirect → o.now.seconds ≤ last → o.outages.tokens = none →
    (respond a s.state o r).response.content = (200, tokenBody (Token.ofBytes o.token.token)) ∧
      (8 ≤ o.token.salt.length → o.token.salt.length ≤ 48 →
        Unclaimed s.tokens (Token.ofBytes o.token.token) →
        ∀ t, Site.Reaches a (fun _ => True) (s.answered a o r) t →
          t.Admits a (Token.ofBytes o.token.token)
            (Subject.ofUsername username a.settings.siteAdmins))
  late : ∀ (s : State) (o : Occasion) (r : Request) (redirect : Redirect),
    Redeems r code verifier redirect → last < o.now.seconds →
    Tells redirect (respond a s o r).response "error" "invalid_grant" ∧
      (respond a s o r).state.tokens = s.tokens
  others : ∀ (s : State) (o : Occasion) (r : Request) (body : ByteArray),
    r.body.content? = some body →
    Parameters.value (.ofRequest r.query r.headers body.toList) "code" = code →
    challengeOf (Parameters.value (.ofRequest r.query r.headers body.toList) "code_verifier") ≠
      challenge →
    (respond a s o r).state.tokens = s.tokens

theorem goodFor_of_fits {payload : Payload} (hfits : Fits a.secret code verifier payload) :
    GoodFor a code verifier payload.challenge payload.username payload.expiresAt where
  inTime s o r redirect hredeems hnow ho := by
    obtain ⟨hcontent, htokens⟩ := hredeems.granted (s := s.state) hfits ho hnow
    exact ⟨hcontent, fun hlow hhigh hunclaimed t hrun =>
      Site.admits_of_issued hlow hhigh hunclaimed htokens hrun⟩
  late s o r redirect hredeems hnow := hredeems.refused hfits hnow
  others s o r body hcontent hcode hother :=
    tokens_of_other_verifier hfits.opens hcontent hcode hother

/-- A login that a user consents to is one that the client can complete: the user is sent back with
a code that is good for the verifier of the client. -/
theorem login_flow (hvalid : a.settings.validate = .ok ())
    (h : Consents a r username q redirect) (hverifier : verifier ≠ "")
    (hchallenge : q.challenge = challengeOf verifier) (hnonce : o.nonce.length = Code.nonceLength)
    (hclock : Time.Instant.minSeconds ≤ o.now.seconds)
    (hlifetime : o.now.seconds + a.settings.authCodeSeconds ≤ Time.Instant.maxSeconds) :
    ∃ code, Tells redirect (respond a s o r).response "code" code ∧
      GoodFor a code verifier q.challenge username
        (o.now.seconds + a.settings.authCodeSeconds) := by
  have hpositive := Settings.authCodeSeconds_of_validate hvalid
  have hlow : Time.Instant.minSeconds ≤ o.now.seconds + a.settings.authCodeSeconds := by omega
  have hfits := fits_codeOf (a := a) (o := o) username hnonce hlow hlifetime hverifier
  refine ⟨_, h.tells_code hlow hlifetime, ?_⟩
  rw [hchallenge]
  exact goodFor_of_fits hfits

/-! A login to look at. -/

def queryOf (p : Parameters) : String :=
  String.ofList ((Form.encode p).map fun b => Char.ofNat b.toNat)

theorem ofRequest_queryOf {h : Headers} (hform : Parameters.isForm h = false) (p : Parameters)
    (body : List UInt8) : Parameters.ofRequest (some (queryOf p)) h body = p := by
  simp only [Parameters.ofRequest, hform, Bool.false_eq_true, if_false, List.nil_append,
    Option.map_some, Option.getD_some, queryOf, Url.encode_added, Form.decode_encode]

def laptop : String := "app:/login"

def laptopRedirect : Redirect := ⟨⟨"app", none, "/login", none, none⟩, ""⟩

theorem make_laptop : Redirect.make "terraform" laptop "" = .ok laptopRedirect := by
  have haddress : (Url.parse laptop).toOption = some laptopRedirect.target := by decide +kernel
  rw [Redirect.make, toOption_eq_some.mp haddress]
  rfl

/-- What a client asks for that waits on the machine of the user. -/
def laptopRequest (verifier : String) : AuthorizationRequest :=
  ⟨"terraform", challengeOf verifier, "S256", laptop, "code", "", true⟩

def laptopConsent (verifier : String) : Request :=
  ⟨"POST", authorizationPath, some (queryOf ((laptopRequest verifier).fields ++
    [("consented", "true")])), [("x-forwarded-user", Utf8.encode "bob")], []⟩

theorem consents_laptopConsent (verifier : String) :
    Consents plainApp (laptopConsent verifier) "bob" (laptopRequest verifier) laptopRedirect where
  path := Route.trimmedPath_authorizationPath
  method := rfl
  user := by
    have hvisible : "bob".toList.all (fun c => 0x20 ≤ c.toNat && c.toNat < 0x7f) = true := by decide
    refine ⟨⟨"x-forwarded-user", by decide +kernel, rfl⟩, fun c hc => ?_, by decide +kernel,
      by decide⟩
    simpa using List.all_eq_true.mp hvisible c hc
  parameters := by
    refine ⟨.empty, rfl, by decide, ?_⟩
    rw [laptopConsent, ofRequest_queryOf rfl]
    rfl
  client := make_laptop
  responseType := rfl
  challengeMethod := rfl
  consented := rfl

def handedIn (code verifier : String) : Parameters :=
  [("client_id", "terraform"), ("grant_type", "authorization_code"), ("redirect_uri", laptop),
    ("code", code), ("code_verifier", verifier)]

def laptopRedemption (code verifier : String) : Request :=
  ⟨"POST", tokenPath, some (queryOf (handedIn code verifier)), [], []⟩

theorem redeems_laptopRedemption (code verifier : String) :
    Redeems (laptopRedemption code verifier) code verifier laptopRedirect where
  path := Route.trimmedPath_tokenPath
  method := rfl
  parameters := by
    refine ⟨.empty, rfl, by decide, ?_⟩
    rw [laptopRedemption, ofRequest_queryOf rfl]
    exact ⟨rfl, rfl, rfl, make_laptop⟩

def laptopVerifier : String := "dBjftJeZ4CVP-mB92K27uhbUJU1p1r_wW1gFWFOEjXk"

theorem challengeOf_laptopVerifier :
    challengeOf laptopVerifier = "E9Melhoa2OwvFrEMTJguCHaoeK1t8URWbuGJSstw-cM" := by decide +kernel

/-- Verifiers of other challenges than that of the laptop. -/
theorem challengeOf_ne : ∀ verifier ∈ ["", "guess", "no guess"],
    challengeOf verifier ≠ challengeOf laptopVerifier := by
  rw [challengeOf_laptopVerifier]
  decide +kernel

def atSecond (n : Int) : Occasion := { plainOccasion with now := ⟨n, 0⟩ }

def laptopToken : String := Token.ofBytes plainOccasion.token.token

def idleSite : Site := ⟨.start .empty, []⟩

/-- A user consents, a code comes back, and five minutes later it is exchanged for a token. -/
theorem laptop_login :
    plainApp.settings.validate = .ok () ∧
      Consents plainApp (laptopConsent laptopVerifier) "bob" (laptopRequest laptopVerifier)
        laptopRedirect ∧
      ∃ code, Tells laptopRedirect
          (respond plainApp .empty plainOccasion (laptopConsent laptopVerifier)).response "code"
          code ∧
        GoodFor plainApp code laptopVerifier (challengeOf laptopVerifier) "bob" 1700000300 ∧
        (respond plainApp .empty (atSecond 1700000300)
          (laptopRedemption code laptopVerifier)).response.content =
            (200, tokenBody laptopToken) ∧
        (idleSite.answered plainApp (atSecond 1700000300)
          (laptopRedemption code laptopVerifier)).Admits plainApp laptopToken ⟨"bob", .member⟩ ∧
        Tells laptopRedirect (respond plainApp .empty (atSecond 1700000301)
          (laptopRedemption code laptopVerifier)).response "error" "invalid_grant" ∧
        (respond plainApp .empty plainOccasion (laptopRedemption code "guess")).state.tokens =
          [] := by
  have hfault : plainApp.settings.fault? = none := by decide +kernel
  have hvalid : plainApp.settings.validate = .ok () := by rw [Settings.validate, hfault]
  have hconsents := consents_laptopConsent laptopVerifier
  have hverifier : laptopVerifier ≠ "" := by decide
  obtain ⟨code, htells, hgood⟩ := login_flow (s := .empty) (o := plainOccasion) hvalid hconsents
    hverifier rfl rfl (by decide) (by decide)
  have hredeems := redeems_laptopRedemption code laptopVerifier
  obtain ⟨hgranted, hadmits⟩ := hgood.inTime idleSite (atSecond 1700000300) _ _ hredeems
    (by decide) rfl
  have hguess : challengeOf "guess" ≠ challengeOf laptopVerifier :=
    challengeOf_ne "guess" (by decide)
  refine ⟨hvalid, hconsents, code, htells, hgood, hgranted,
    hadmits (by decide) (by decide) (unclaimed_nil _) _ .refl,
    (hgood.late _ _ _ _ hredeems (by decide)).1, ?_⟩
  refine hgood.others .empty plainOccasion _ .empty rfl ?_ ?_
  · rw [laptopRedemption, ofRequest_queryOf rfl]
    rfl
  · rw [laptopRedemption, ofRequest_queryOf rfl]
    exact hguess

/-! A login that is not completed. -/

def longVerifier : String := String.ofList (List.replicate 2200000 'a')

def laptopForm (code verifier : String) : Request :=
  ⟨"POST", tokenPath, none, [("content-type", Utf8.encode formType)],
    [.data ⟨(Form.encode (handedIn code verifier)).toArray⟩]⟩

theorem asksToken_laptopForm (code verifier : String) : AsksToken (laptopForm code verifier) where
  path := Route.trimmedPath_tokenPath
  method := rfl

theorem ofRequest_laptopForm (code verifier : String) :
    ∃ body, (laptopForm code verifier).body.content? = some body ∧
      body.size = (Form.encode (handedIn code verifier)).length ∧
      Parameters.ofRequest (laptopForm code verifier).query (laptopForm code verifier).headers
        body.toList = handedIn code verifier := by
  have hform : Parameters.isForm (laptopForm code verifier).headers = true :=
    show Parameters.isForm [("content-type", Utf8.encode formType)] = true by decide +kernel
  have hcontent : (laptopForm code verifier).body.content? =
      some ⟨(Form.encode (handedIn code verifier)).toArray⟩ := by
    simp [laptopForm, Body.content?]
  refine ⟨_, hcontent, by simp [ByteArray.size], ?_⟩
  have hquery : (laptopForm code verifier).query = none := rfl
  rw [Utf8.toList_eq_data, Parameters.ofRequest, if_pos hform, hquery]
  simp [Form.decode_encode]

/-- A form is no shorter than the verifier in it. -/
theorem length_le_handedIn (code verifier : String) :
    (Utf8.encode verifier).length ≤ (Form.encode (handedIn code verifier)).length := by
  obtain ⟨front, hfront⟩ := Form.encode_concat [("client_id", "terraform"),
    ("grant_type", "authorization_code"), ("redirect_uri", laptop), ("code", code)] "code_verifier"
  have hencode : Form.encode (handedIn code verifier) = front ++ Form.encodeText verifier :=
    hfront verifier
  rw [hencode, List.length_append]
  exact Nat.le_trans (Form.length_le_encodeText verifier) (Nat.le_add_left _ _)

theorem length_encode_replicate (n : Nat) :
    (Utf8.encode (String.ofList (List.replicate n 'a'))).length = n := by
  have hsmall : ∀ c ∈ (String.ofList (List.replicate n 'a')).toList, c.toNat < 128 := by
    intro c hc
    rw [String.toList_ofList] at hc
    rw [List.eq_of_mem_replicate hc]
    decide
  rw [Utf8.encode_of_small hsmall, List.length_map, String.toList_ofList, List.length_replicate]

/-- Whatever its code and its verifier, a form that is too long is refused. -/
theorem status_of_laptopForm (code : String) {verifier : String}
    (h : maxBody < (Utf8.encode verifier).length) :
    (respond a s o (laptopForm code verifier)).response.status = 413 := by
  obtain ⟨body, hcontent, hsize, _⟩ := ofRequest_laptopForm code verifier
  have hlong : maxBody < body.size := by
    rw [hsize]
    exact Nat.lt_of_lt_of_le h (length_le_handedIn code verifier)
  have hadmitted : Admitted a s o (laptopForm code verifier) .token ⟨none, none⟩ :=
    (asksToken_laptopForm code verifier).admitted
  have hhead : (laptopForm code verifier).method ≠ "HEAD" := show "POST" ≠ "HEAD" by decide
  have hrefused := (hadmitted.respond rfl hhead).2
  have hbody := readBody_of_tooLarge (show Route.token.takesSmallBodies = false from rfl) hcontent
    hlong
  simp only [handle, withBody, hbody] at hrefused
  exact Response.status_of_content hrefused

/-- Not every login is completed: the form for the token is not read if the verifier makes it too
long, a token that cannot be recorded is not issued, and at the end of time no code is. -/
theorem laptop_login_incomplete :
    (∃ code, Tells laptopRedirect
        (respond plainApp .empty plainOccasion (laptopConsent longVerifier)).response "code" code ∧
      (∃ body, (laptopForm code longVerifier).body.content? = some body ∧
        HandsIn (.ofRequest (laptopForm code longVerifier).query
          (laptopForm code longVerifier).headers body.toList) code longVerifier laptopRedirect) ∧
      (respond plainApp .empty plainOccasion (laptopForm code longVerifier)).response.status =
        413) ∧
      (∃ code, Tells laptopRedirect
          (respond plainApp .empty plainOccasion (laptopConsent laptopVerifier)).response "code"
          code ∧
        Redeems (laptopRedemption code laptopVerifier) code laptopVerifier laptopRedirect ∧
        Tells laptopRedirect (respond plainApp .empty
          { plainOccasion with outages := ⟨[], [], some (.internal "no connection")⟩ }
          (laptopRedemption code laptopVerifier)).response "error" "server_error") ∧
      Consents plainApp (laptopConsent laptopVerifier) "bob" (laptopRequest laptopVerifier)
        laptopRedirect ∧
      Tells laptopRedirect (respond plainApp .empty (atSecond Time.Instant.maxSeconds)
        (laptopConsent laptopVerifier)).response "error" "server_error" := by
  have hconsents := consents_laptopConsent laptopVerifier
  have hlow : Time.Instant.minSeconds ≤
    plainOccasion.now.seconds + plainApp.settings.authCodeSeconds := by decide
  have hhigh : plainOccasion.now.seconds + plainApp.settings.authCodeSeconds ≤
    Time.Instant.maxSeconds := by decide
  refine ⟨⟨_, (consents_laptopConsent longVerifier).tells_code hlow hhigh, ?_, ?_⟩,
    ⟨_, hconsents.tells_code hlow hhigh, redeems_laptopRedemption _ _, ?_⟩, hconsents,
    hconsents.tells_fault (by decide)⟩
  · obtain ⟨body, hcontent, _, hparameters⟩ := ofRequest_laptopForm
      (codeOf plainApp plainOccasion "bob" (laptopRequest longVerifier).challenge) longVerifier
    exact ⟨body, hcontent, by rw [hparameters]; exact ⟨rfl, rfl, rfl, make_laptop⟩⟩
  · have hlength : 2200000 = (Utf8.encode longVerifier).length :=
      (length_encode_replicate 2200000).symm
    have hlong : maxBody < 2200000 := by decide
    exact status_of_laptopForm _ (Nat.lt_of_lt_of_eq hlong hlength)
  · have hverifier : laptopVerifier ≠ "" := by decide
    have hfits := fits_codeOf (a := plainApp) (o := plainOccasion) "bob" rfl hlow hhigh hverifier
    exact (redeems_laptopRedemption _ _).failed hfits rfl (by decide)

end Server
end ConfigRegistry
