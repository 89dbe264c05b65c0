import ConfigRegistry.Proofs.Server.Logins

/-!
The answers to requests for tokens. A token is issued exactly for a request that deserves one, and
recorded for the user in its code; every other request for a token changes nothing. Nobody learns
from an answer why a code does not open, or how far a verifier is from the right one.
-/
namespace ConfigRegistry.Server

open Coding Http Login

variable {a : App} {s : State} {o : Occasion} {r r' : Request} {p p' : Parameters}

def SameFields (h h' : Headers) : Prop :=
  ∀ name, name ≠ "content-length" → h'.get? name = h.get? name

theorem SameFields.text?_eq {h h' : Headers} (hsame : SameFields h h') {name : String}
    (hname : name ≠ "content-length") : h'.text? name = h.text? name := by
  simp only [Headers.text?, hsame name hname]

/-- The marks of an answer depend on no other field of the request than those that are the same. -/
theorem finished_congr (hmethod : r'.method = r.method) (h : SameFields r.headers r'.headers)
    (route : Route) (response : Response) :
    finished a o r' route response = finished a o r route response := by
  have horigin : r'.headers.text? "origin" = r.headers.text? "origin" := h.text?_eq (by decide)
  have hid : r'.headers.text? "x-request-id" = r.headers.text? "x-request-id" :=
    h.text?_eq (by decide)
  simp only [finished, mark, Cors.mark, Cors.allowed?, requestId, hmethod, horigin, hid]

theorem status_of_readBody_error {limit : Nat} {b : Body} {response : Response}
    (h : readBody limit b = .error response) : response.status = 413 ∨ response.status = 400 := by
  unfold readBody at h
  simp only at h
  split at h
  · contradiction
  · exact .inl (Except.error.inj h ▸ rfl)
  · exact .inr (Except.error.inj h ▸ rfl)

/-- A request whose body is not read is refused. -/
theorem AsksToken.unread (h : AsksToken r) (hp : parameters? r = none) :
    (respond a s o r).state = s ∧ (respond a s o r).response.status ≠ 200 := by
  obtain ⟨hstate, hresponse⟩ := h.admitted.respond_eq (a := a) (s := s) (o := o) rfl
  cases hread : readBody (bodyLimit .token r.headers) r.body with
  | ok body => simp [parameters?, hread, Except.toOption] at hp
  | error response =>
    rw [hstate, hresponse, status_finished]
    simp only [handle, withBody, hread]
    refine ⟨rfl, fun hstatus => ?_⟩
    have hrefused : response.status = 200 := hstatus
    rcases status_of_readBody_error hread with hlong | hbroken
    · omega
    · omega

/-- A request for a token that deserves one is given it, if it can be recorded; every other one is
refused and changes nothing. -/
theorem AsksToken.cases (h : AsksToken r) :
    (o.outages.tokens = none ∧ ∃ p payload, parameters? r = some p ∧
      Deserves a.secret (.ofParameters p) o.now payload ∧
      (respond a s o r).response.status = 200 ∧
      (respond a s o r).state = { s with tokens := s.tokens ++
        [Ledger.recordOf payload.username tokenDescription o.token o.now] }) ∨
    ¬ (o.outages.tokens = none ∧ ∃ p payload, parameters? r = some p ∧
        Deserves a.secret (.ofParameters p) o.now payload) ∧
      (respond a s o r).response.status ≠ 200 ∧ (respond a s o r).state = s := by
  cases hp : parameters? r with
  | none =>
    obtain ⟨hstate, hstatus⟩ := h.unread (a := a) (s := s) (o := o) hp
    exact .inr ⟨by simp, hstatus, hstate⟩
  | some p =>
    obtain ⟨hstate, hresponse⟩ := h.exchanged (a := a) (s := s) (o := o) hp
    rw [hstate, hresponse, status_finished]
    rcases exchange_cases a.secret s.tokens o.outages.tokens p o.token o.now with
      ⟨ho, payload, hdeserves, hgranted, htokens⟩ | ⟨hundeserved, hstatus, htokens⟩
    · rw [hgranted, htokens]
      exact .inl ⟨ho, p, payload, rfl, hdeserves, rfl, rfl⟩
    · rw [htokens]
      refine .inr ⟨?_, hstatus, rfl⟩
      rintro ⟨ho, _, payload, hsame, hdeserves⟩
      obtain rfl := Option.some.inj hsame
      exact hundeserved ⟨ho, payload, hdeserves⟩

structure DifferIn (name : String) (r r' : Request) (p p' : Parameters) : Prop where
  asks : AsksToken r
  asks' : AsksToken r'
  fields : SameFields r.headers r'.headers
  parameters : parameters? r = some p
  parameters' : parameters? r' = some p'
  alike : p.AlikeBut name p'

/-- If their exchanges come to the same, they are given the same answer. -/
theorem DifferIn.response_eq {name : String} (h : DifferIn name r r' p p')
    (hexchange : Login.exchange a.secret s.tokens o.outages.tokens p' o.token o.now =
      Login.exchange a.secret s.tokens o.outages.tokens p o.token o.now) :
    (respond a s o r').response = (respond a s o r).response := by
  have hmethod : r'.method = r.method := h.asks'.method.trans h.asks.method.symm
  rw [(h.asks'.exchanged h.parameters').2, (h.asks.exchanged h.parameters).2, hexchange,
    finished_congr hmethod h.fields]

/-- A request for a token is answered with one exactly if the request deserves it and the token can
be recorded. Then one more token is recorded, for the user in the code; otherwise nothing changes.
Requests that differ only in a code which does not open, or only in a verifier of another
challenge, are given the same answer. -/
theorem token_outcome (h : AsksToken r) :
    ((respond a s o r).response.status = 200 ↔ o.outages.tokens = none ∧ ∃ p payload,
      parameters? r = some p ∧ Deserves a.secret (.ofParameters p) o.now payload) ∧
    ((respond a s o r).response.status = 200 → ∃ p payload record, parameters? r = some p ∧
      Code.openPayload a.secret (p.value "code") = .ok payload ∧
      record.username = payload.username ∧
      (respond a s o r).state = { s with tokens := s.tokens ++ [record] }) ∧
    ((respond a s o r).response.status ≠ 200 → (respond a s o r).state = s) ∧
    (∀ r' p p', DifferIn "code" r r' p p' → UselessCode a.secret (.ofParameters p) →
      UselessCode a.secret (.ofParameters p') →
      (respond a s o r').response = (respond a s o r).response) ∧
    ∀ r' p p', DifferIn "code_verifier" r r' p p' → UselessVerifier a.secret (.ofParameters p) →
      UselessVerifier a.secret (.ofParameters p') →
      (respond a s o r').response = (respond a s o r).response := by
  have hcodes : ∀ r' p p', DifferIn "code" r r' p p' → UselessCode a.secret (.ofParameters p) →
      UselessCode a.secret (.ofParameters p') →
      (respond a s o r').response = (respond a s o r).response := by
    intro r' p p' hdiffer huseless huseless'
    exact hdiffer.response_eq (exchange_of_uselessCode huseless huseless' hdiffer.alike)
  have hverifiers : ∀ r' p p', DifferIn "code_verifier" r r' p p' →
      UselessVerifier a.secret (.ofParameters p) → UselessVerifier a.secret (.ofParameters p') →
      (respond a s o r').response = (respond a s o r).response := by
    intro r' p p' hdiffer huseless huseless'
    exact hdiffer.response_eq (exchange_of_uselessVerifier huseless huseless' hdiffer.alike)
  rcases h.cases (a := a) (s := s) (o := o) with
    ⟨ho, p, payload, hp, hdeserves, hstatus, hstate⟩ | ⟨hnot, hstatus, hstate⟩
  · refine ⟨⟨?_, fun _ => hstatus⟩, ?_, fun hother => absurd hstatus hother, hcodes, hverifiers⟩
    · exact fun _ => ⟨ho, p, payload, hp, hdeserves⟩
    · exact fun _ => ⟨p, payload, _, hp, hdeserves.opens, rfl, hstate⟩
  · refine ⟨⟨?_, ?_⟩, ?_, fun _ => hstate, hcodes, hverifiers⟩
    · exact fun hgranted => absurd hgranted hstatus
    · exact fun hdeserved => absurd hdeserved hnot
    · exact fun hgranted => absurd hgranted hstatus

/-! Redemptions to look at. -/

theorem asksToken_laptopRedemption (code verifier : String) :
    AsksToken (laptopRedemption code verifier) where
  path := Route.trimmedPath_tokenPath
  method := rfl

theorem parameters?_laptopRedemption (code verifier : String) :
    parameters? (laptopRedemption code verifier) = some (handedIn code verifier) := by
  have hread : readBody (bodyLimit .token (laptopRedemption code verifier).headers)
      (laptopRedemption code verifier).body = .ok .empty := rfl
  have hform : Parameters.isForm (laptopRedemption code verifier).headers = false := rfl
  rw [parameters?, hread]
  exact congrArg some (ofRequest_queryOf hform _ _)

theorem differIn_code (code code' verifier : String) :
    DifferIn "code" (laptopRedemption code verifier) (laptopRedemption code' verifier)
      (handedIn code verifier) (handedIn code' verifier) where
  asks := asksToken_laptopRedemption code verifier
  asks' := asksToken_laptopRedemption code' verifier
  fields _ _ := rfl
  parameters := parameters?_laptopRedemption code verifier
  parameters' := parameters?_laptopRedemption code' verifier
  alike other hother := by
    simp only [Parameters.value, handedIn, List.lookup_cons, beq_eq_false_iff_ne.mpr hother]

theorem differIn_verifier (code verifier verifier' : String) :
    DifferIn "code_verifier" (laptopRedemption code verifier) (laptopRedemption code verifier')
      (handedIn code verifier) (handedIn code verifier') where
  asks := asksToken_laptopRedemption code verifier
  asks' := asksToken_laptopRedemption code verifier'
  fields _ _ := rfl
  parameters := parameters?_laptopRedemption code verifier
  parameters' := parameters?_laptopRedemption code verifier'
  alike other hother := by
    simp only [Parameters.value, handedIn, List.lookup_cons, beq_eq_false_iff_ne.mpr hother]

def laptopCode : String := codeOf plainApp plainOccasion "bob" (challengeOf laptopVerifier)

def laptopPayload : Payload := payloadOf plainApp plainOccasion "bob" (challengeOf laptopVerifier)

theorem fits_laptopCode : Fits plainApp.secret laptopCode laptopVerifier laptopPayload :=
  fits_codeOf "bob" rfl (by decide) (by decide) (by decide)

theorem deserves_handedIn {code verifier : String} {payload : Payload} {now : Time.Instant}
    (h : Fits plainApp.secret code verifier payload) (hnow : now.seconds ≤ payload.expiresAt) :
    Deserves plainApp.secret (.ofParameters (handedIn code verifier)) now payload where
  hasCode := h.hasCode
  hasVerifier := h.hasVerifier
  grantType := rfl
  opens := h.opens
  unexpired := hnow
  answered := h.answered
  address := ⟨_, (Redirect.make_eq_ok_iff.mp make_laptop).1⟩
  client := rfl

/-- A text that is no code: it is not read as bytes, or as too few. -/
theorem openPayload_of_size {secret : List UInt8} {code : String}
    (h : (Base64.decode Base64.urlSafe code).all
      (fun bytes => bytes.length < Code.nonceLength + Code.tagLength) = true) :
    Code.openPayload secret code = .error .malformed := by
  have hbytes : Code.bytes secret code = .error .malformed := by
    unfold Code.bytes
    cases hdecode : Base64.decode Base64.urlSafe code with
    | none => rfl
    | some bytes =>
      rw [hdecode] at h
      simp only [if_pos (of_decide_eq_true h)]
  rw [Code.openPayload, Code.openWith, hbytes]
  rfl

theorem uselessCode_of_size {code verifier : String} (hcode : code ≠ "")
    (h : (Base64.decode Base64.urlSafe code).all
      (fun bytes => bytes.length < Code.nonceLength + Code.tagLength) = true) :
    UselessCode plainApp.secret (.ofParameters (handedIn code verifier)) :=
  ⟨hcode, .malformed, openPayload_of_size h⟩

theorem uselessVerifier_laptopCode {verifier : String} (hverifier : verifier ≠ "")
    (h : verifier ∈ ["", "guess", "no guess"]) :
    UselessVerifier plainApp.secret (.ofParameters (handedIn laptopCode verifier)) := by
  refine ⟨hverifier, fun payload hopens => ?_⟩
  obtain rfl := Except.ok.inj (fits_laptopCode.opens.symm.trans hopens)
  exact challengeOf_ne verifier h

/-- The laptop redeems its code. Of a text that is no code, as of a verifier of another challenge,
it makes no difference which one it is. -/
theorem laptop_redemptions :
    AsksToken (laptopRedemption laptopCode laptopVerifier) ∧
      (respond plainApp .empty plainOccasion
        (laptopRedemption laptopCode laptopVerifier)).response.status = 200 ∧
      (∃ record, record.username = "bob" ∧ (respond plainApp .empty plainOccasion
        (laptopRedemption laptopCode laptopVerifier)).state = ⟨.empty, [record]⟩) ∧
      (respond plainApp .empty plainOccasion (laptopRedemption "AAAA" laptopVerifier)).response =
        (respond plainApp .empty plainOccasion (laptopRedemption "!" laptopVerifier)).response ∧
      (respond plainApp .empty plainOccasion (laptopRedemption laptopCode "no guess")).response =
        (respond plainApp .empty plainOccasion (laptopRedemption laptopCode "guess")).response := by
  have hasks := asksToken_laptopRedemption laptopCode laptopVerifier
  have hparameters := parameters?_laptopRedemption laptopCode laptopVerifier
  obtain ⟨hgranted, hrecorded, _⟩ := token_outcome (a := plainApp) (s := .empty)
    (o := plainOccasion) hasks
  have hstatus := hgranted.mpr ⟨rfl, _, _, hparameters,
    deserves_handedIn fits_laptopCode (by decide)⟩
  obtain ⟨p, payload, record, hp, hopens, husername, hstate⟩ := hrecorded hstatus
  obtain rfl := Option.some.inj (hparameters.symm.trans hp)
  obtain rfl := Except.ok.inj (fits_laptopCode.opens.symm.trans hopens)
  obtain ⟨_, _, _, hcodes, _⟩ := token_outcome (a := plainApp) (s := .empty) (o := plainOccasion)
    (asksToken_laptopRedemption "!" laptopVerifier)
  obtain ⟨_, _, _, _, hverifiers⟩ := token_outcome (a := plainApp) (s := .empty)
    (o := plainOccasion) (asksToken_laptopRedemption laptopCode "guess")
  refine ⟨hasks, hstatus, ⟨record, husername, hstate⟩, ?_, ?_⟩
  · apply hcodes _ _ _ (differIn_code "!" "AAAA" laptopVerifier)
    · exact uselessCode_of_size (by decide) (by decide)
    · exact uselessCode_of_size (by decide) (by decide)
  · apply hverifiers _ _ _ (differIn_verifier laptopCode "guess" "no guess")
    · exact uselessVerifier_laptopCode (by decide) (by decide)
    · exact uselessVerifier_laptopCode (by decide) (by decide)

/-! Answers that tell more. -/

/-- What is wrong with a code or a verifier is told at the address of the laptop. -/
theorem direction_of_checkCode (a : App) (s : State) (o : Occasion) {code verifier : String}
    {response : Response} {events : List Log.Event}
    (h : checkCode a.secret (.ofParameters (handedIn code verifier)) laptopRedirect o.now =
      .error (response, events)) :
    (respond a s o (laptopRedemption code verifier)).response.direction = response.direction := by
  have hmake : Redirect.make (TokenRequest.ofParameters (handedIn code verifier)).clientId
      (TokenRequest.ofParameters (handedIn code verifier)).redirectUri "" = .ok laptopRedirect :=
    make_laptop
  rw [((asksToken_laptopRedemption code verifier).exchanged
    (parameters?_laptopRedemption code verifier)).2, direction_finished]
  simp only [Login.exchange, hmake, h]

/-- Faults with two descriptions are answered differently. -/
theorem response_ne_of_checkCode {code code' verifier verifier' : String} {f f' : ClientFault}
    {description description' : Option String} {events events' : List Log.Event}
    (h : checkCode a.secret (.ofParameters (handedIn code verifier)) laptopRedirect o.now =
      .error (laptopRedirect.fault f description, events))
    (h' : checkCode a.secret (.ofParameters (handedIn code' verifier')) laptopRedirect o.now =
      .error (laptopRedirect.fault f' description', events'))
    (hne : description ≠ description') :
    (respond a s o (laptopRedemption code verifier)).response ≠
      (respond a s o (laptopRedemption code' verifier')).response := by
  intro hsame
  have hdirection := direction_of_checkCode a s o h
  rw [hsame, direction_of_checkCode a s o h'] at hdirection
  exact hne (Redirect.fault_inj hdirection).symm

theorem checkCode_no_code :
    checkCode plainApp.secret (.ofParameters (handedIn "" laptopVerifier)) laptopRedirect
      plainOccasion.now =
        .error (laptopRedirect.fault .invalidRequest (some "missing code"), []) := rfl

theorem checkCode_other_code :
    checkCode plainApp.secret (.ofParameters (handedIn "!" laptopVerifier)) laptopRedirect
      plainOccasion.now =
        .error (laptopRedirect.fault .invalidRequest (some "invalid authorization code"),
          [⟨.info, "Rejected authorization code"⟩]) := rfl

theorem checkCode_no_verifier :
    checkCode plainApp.secret (.ofParameters (handedIn laptopCode "")) laptopRedirect
      plainOccasion.now =
        .error (laptopRedirect.fault .invalidRequest (some "missing code verifier"), []) := by
  have hcode : (TokenRequest.ofParameters (handedIn laptopCode "")).code ≠ "" :=
    fits_laptopCode.hasCode
  rw [checkCode, if_neg (by rwa [String.isEmpty_iff])]
  rfl

/-- A guessed verifier is refused for a good code, and the log notes it. -/
theorem checkCode_other_verifier :
    checkCode plainApp.secret (.ofParameters (handedIn laptopCode "guess")) laptopRedirect
      plainOccasion.now =
        .error (laptopRedirect.fault .invalidGrant (some "invalid code verifier"),
          [⟨.info, "PKCE verification failed"⟩]) := by
  have hcode : (TokenRequest.ofParameters (handedIn laptopCode "guess")).code ≠ "" :=
    fits_laptopCode.hasCode
  have hopens : Code.openPayload plainApp.secret
      (TokenRequest.ofParameters (handedIn laptopCode "guess")).code = .ok laptopPayload :=
    fits_laptopCode.opens
  have hunexpired : ¬ laptopPayload.isExpired plainOccasion.now = true := by decide
  have hother : challengeOf (TokenRequest.ofParameters (handedIn laptopCode "guess")).verifier ≠
      laptopPayload.challenge := challengeOf_ne "guess" (by decide)
  rw [checkCode, if_neg (by rwa [String.isEmpty_iff]), hopens]
  simp only [if_neg hunexpired, if_pos hother]
  rfl

/-- Of a verifier that is too long for a form, the form is refused, though what it hands in deserves
a token. -/
theorem laptopForm_refused {verifier : String} (hlong : maxBody < (Utf8.encode verifier).length) :
    ∃ code payload body, AsksToken (laptopForm code verifier) ∧
      (laptopForm code verifier).body.content? = some body ∧
      Deserves plainApp.secret (.ofParameters (.ofRequest (laptopForm code verifier).query
        (laptopForm code verifier).headers body.toList)) plainOccasion.now payload ∧
      plainOccasion.outages.tokens = none ∧
      (respond plainApp .empty plainOccasion (laptopForm code verifier)).response.status = 413 := by
  have hverifier : verifier ≠ "" := by
    rintro rfl
    have hnothing : (Utf8.encode "").length = 0 := length_encode_replicate 0
    rw [hnothing] at hlong
    exact Nat.not_lt_zero _ hlong
  have hfits := fits_codeOf (a := plainApp) (o := plainOccasion) "bob" rfl (by decide) (by decide)
    hverifier
  obtain ⟨body, hcontent, _, hparameters⟩ := ofRequest_laptopForm
    (codeOf plainApp plainOccasion "bob" (challengeOf verifier)) verifier
  refine ⟨_, payloadOf plainApp plainOccasion "bob" (challengeOf verifier), body,
    asksToken_laptopForm _ _, hcontent, ?_, rfl, status_of_laptopForm _ hlong⟩
  have hnow : plainOccasion.now.seconds ≤
    plainOccasion.now.seconds + plainApp.settings.authCodeSeconds := by decide
  rw [hparameters]
  exact deserves_handedIn hfits hnow

/-- What is missing is told apart from what is of no use: no code from a code that does not open,
and no verifier from one of another challenge. A form that is too long is refused, though what it
hands in deserves a token. -/
theorem laptop_redemptions_differ :
    (∃ fault fault', Code.openPayload plainApp.secret "" = .error fault ∧
      Code.openPayload plainApp.secret "!" = .error fault' ∧
      DifferIn "code" (laptopRedemption "" laptopVerifier) (laptopRedemption "!" laptopVerifier)
        (handedIn "" laptopVerifier) (handedIn "!" laptopVerifier) ∧
      (respond plainApp .empty plainOccasion (laptopRedemption "" laptopVerifier)).response ≠
        (respond plainApp .empty plainOccasion (laptopRedemption "!" laptopVerifier)).response) ∧
    (∃ payload, Code.openPayload plainApp.secret laptopCode = .ok payload ∧
      challengeOf "" ≠ payload.challenge ∧ challengeOf "guess" ≠ payload.challenge ∧
      DifferIn "code_verifier" (laptopRedemption laptopCode "")
        (laptopRedemption laptopCode "guess") (handedIn laptopCode "")
        (handedIn laptopCode "guess") ∧
      (respond plainApp .empty plainOccasion (laptopRedemption laptopCode "")).response ≠
        (respond plainApp .empty plainOccasion (laptopRedemption laptopCode "guess")).response) ∧
    ∃ code payload body, AsksToken (laptopForm code longVerifier) ∧
      (laptopForm code longVerifier).body.content? = some body ∧
      Deserves plainApp.secret (.ofParameters (.ofRequest (laptopForm code longVerifier).query
        (laptopForm code longVerifier).headers body.toList)) plainOccasion.now payload ∧
      plainOccasion.outages.tokens = none ∧
      (respond plainApp .empty plainOccasion (laptopForm code longVerifier)).response.status =
        413 := by
  refine ⟨⟨.malformed, .malformed, ?_, ?_, differIn_code _ _ _, ?_⟩,
    ⟨laptopPayload, fits_laptopCode.opens, challengeOf_ne "" (by decide),
      challengeOf_ne "guess" (by decide), differIn_verifier _ _ _, ?_⟩, ?_⟩
  · exact openPayload_of_size (by decide)
  · exact openPayload_of_size (by decide)
  · exact response_ne_of_checkCode checkCode_no_code checkCode_other_code (by decide)
  · exact response_ne_of_checkCode checkCode_no_verifier checkCode_other_verifier (by decide)
  · have hlength : 2200000 = (Utf8.encode longVerifier).length :=
      (length_encode_replicate 2200000).symm
    have hsize : maxBody < 2200000 := by decide
    exact laptopForm_refused (Nat.lt_of_lt_of_eq hsize hlength)

end ConfigRegistry.Server
