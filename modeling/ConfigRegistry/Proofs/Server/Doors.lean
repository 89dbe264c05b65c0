import ConfigRegistry.Proofs.Server.RoundTrip

/-!
What a signed address opens. A request gets to the handling of an upload only by a path that was
signed with its expiry, before that expiry. The address that a creation tells opens the upload of
its own version, and no other one as long as the authentication codes in question do not collide.
-/
namespace ConfigRegistry

open Http

def Signing.Signer.Collides (signer : Signing.Signer) (m m' : List UInt8) : Prop :=
  m ≠ m' ∧ Digest.Hmac.mac signer.key m = Digest.Hmac.mac signer.key m'

namespace Server

variable {a : App} {s : State} {o : Occasion} {r : Request} {v : Visitor}

/-! Who gets to the handling of an upload. -/

/-- Whoever gets to an upload shows the signature of just this path. -/
theorem Admitted.segment {signature raw : String} (h : Admitted a s o r (.upload signature raw) v) :
    ∃ expiry : Nat, expiry ≤ Text.Decimal.maxI64 ∧ o.now.seconds ≤ expiry ∧
      signature = a.signer.segment (Versions.uploadPath raw) expiry := by
  have hsigned : Signed a (pathOf r) o.now := by
    cases h.passes with
    | signature hsigned => exact hsigned
  obtain ⟨expiry, hmax, hnow, hsegment⟩ :=
    Signing.eq_segment_of_verify (verify_of_signed h.routed hsigned)
  exact ⟨expiry, hmax, hnow, String.toList_inj.mp hsegment⟩

theorem signedPath_expanded (a : App) (id : String) (expiry : Int) :
    signedPath a id expiry = "/api/v2/signed/" ++
      Coding.Base64.encode Coding.Base64.urlSafe (Digest.Hmac.mac a.signer.key
        (Coding.Utf8.encode ("/configuration-versions/" ++ id ++ "/upload") ++
          0x2e :: Coding.Utf8.encode (toString expiry))) ++
      "." ++ toString expiry ++ ("/configuration-versions/" ++ id ++ "/upload") := by
  have hfront : "/api/v2/signed/" = apiPrefix ++ String.ofList Signing.root ++ "/" := rfl
  rw [hfront]
  unfold signedPath Signing.Signer.sign Signing.Signer.segment Signing.Signer.code Signing.message
    Versions.uploadPath
  simp only [String.append_assoc]

/-- What is answered without a look at the state, and changes nothing. -/
def Blind (answer : State → Exchange) : Prop :=
  ∃ response events, ∀ s, answer s = ⟨response, s, events⟩

theorem blind_pure (response : Response) (events : List Log.Event) :
    Blind fun s => .pure s response events := ⟨response, events, fun _ => rfl⟩

theorem blind_failed (a : App) (f : Failure) : Blind fun s => .failed a s f :=
  ⟨.ofFailure a.withDetails f, [f.event], fun _ => rfl⟩

theorem Blind.mapResponse {answer : State → Exchange} (h : Blind answer)
    (f : Response → Response) : Blind fun s => (answer s).mapResponse f := by
  obtain ⟨response, events, h⟩ := h
  exact ⟨f response, events, fun s => congrArg (Exchange.mapResponse f) (h s)⟩

theorem Blind.after {answer : State → Exchange} (h : Blind answer) (before : List Log.Event) :
    Blind fun s => (answer s).after before := by
  obtain ⟨response, events, h⟩ := h
  exact ⟨response, before ++ events, fun s => congrArg (Exchange.after before) (h s)⟩

/-- At the gate of an upload a request is let in by its path and its method alone, or it is turned
away blindly. -/
theorem admitted_or_blind_atGate {signature raw : String}
    (hroute : Route.ofPath? (pathOf r) = some (.upload signature raw)) :
    (∃ v, ∀ s, Admitted a s o r (.upload signature raw) v) ∨
      Blind fun s => atGate a s o r (pathOf r) (.upload signature raw) := by
  simp only [atGate, Route.gate]
  cases hsigned : isSigned a (pathOf r) o.now with
  | false => exact .inr ((blind_failed a badSignature).after _)
  | true =>
    simp only [if_true, admitted]
    split
    · exact .inr (blind_pure _ _)
    · next hmethod =>
      split
      · exact .inr (blind_pure _ _)
      · next hname =>
        exact .inl ⟨_, fun s => ⟨hroute, Decidable.not_not.mp hmethod, hname,
          .signature (isSigned_iff.mp hsigned)⟩⟩

/-- A request that is routed to an upload is let in by its path and its method alone, or it is
turned away blindly. -/
theorem admitted_or_blind {signature raw : String}
    (hroute : Route.ofPath? (pathOf r) = some (.upload signature raw)) :
    (∃ v, ∀ s, Admitted a s o r (.upload signature raw) v) ∨ Blind fun s => respond a s o r := by
  have hsmall : isOversized (.upload signature raw) r.headers = false := rfl
  simp only [respond_routed hroute, hsmall]
  by_cases hoptions : r.method = "OPTIONS"
  · simp only [if_pos hoptions]
    exact .inr ((blind_pure _ _).mapResponse _)
  · simp only [if_neg hoptions]
    exact (admitted_or_blind_atGate hroute).imp_right fun h =>
      (h.mapResponse _).mapResponse _

/-! The address that a creation tells. -/

/-- The answer with the document of a new version, which carries its address. -/
structure Tells (a : App) (o : Occasion) (r : Request) (response : Response) : Prop where
  method : r.method = "POST"
  content : ∃ (document : Json.Value) (scheme : String),
    response.content = (201, document.render.toUTF8) ∧ (scheme = "http" ∨ scheme = "https") ∧
      Version.Document.uploadUrl? document = some (.string (scheme ++ "://" ++
        (r.headers.text? "host").getD "localhost" ++
        signedPath a (ResourceId.make Version.idKind o.suffix)
          (Signing.expiryAfter o.now.seconds a.settings.uploadUrlSeconds)))

/-- An answer with the status of a creation tells the address. -/
def Candid (a : App) (o : Occasion) (r : Request) (response : Response) : Prop :=
  response.status = 201 → Tells a o r response

theorem candid_of_content {response response' : Response}
    (h : response.content = response'.content) (hcandid : Candid a o r response) :
    Candid a o r response' := by
  intro hstatus
  obtain ⟨hmethod, hcontent⟩ := hcandid ((Response.status_of_content h).trans hstatus)
  exact ⟨hmethod, h ▸ hcontent⟩

theorem candid_failure (f : Failure) : Candid a o r (.ofFailure a.withDetails f) := by
  intro hstatus
  have hother : f.presentation.status ≠ 201 := by
    cases f <;> simp [Failure.presentation]
  exact absurd hstatus hother

theorem candid_readBody {limit : Nat} {b : Body} {response : Response}
    (h : readBody limit b = .error response) : Candid a o r response := by
  have hother : ∀ reason, Candid a o r (.text 413 reason) ∧ Candid a o r (.text 400 reason) :=
    fun _ => ⟨nofun, nofun⟩
  unfold readBody at h
  simp only at h
  split at h
  · contradiction
  · exact Except.error.inj h ▸ (hother _).1
  · exact Except.error.inj h ▸ (hother _).2

theorem absoluteUrl_eq (h : Headers) (path : String) :
    ∃ scheme, (scheme = "http" ∨ scheme = "https") ∧
      absoluteUrl h path = scheme ++ "://" ++ (h.text? "host").getD "localhost" ++ path := by
  unfold absoluteUrl
  simp only
  split
  · exact ⟨_, .inr rfl, rfl⟩
  · exact ⟨_, .inl rfl, rfl⟩

theorem tells_document (hpost : r.method = "POST") {v : Version}
    (hid : v.id = ResourceId.make Version.idKind o.suffix) :
    Tells a o r (Versions.presentVersion 201
      (fun id => some (Versions.uploadUrl a r.headers id o.now)) (.version v)) := by
  obtain ⟨scheme, hscheme, hurl⟩ := absoluteUrl_eq r.headers
    (signedPath a v.id (Signing.expiryAfter o.now.seconds a.settings.uploadUrlSeconds))
  refine ⟨hpost, _, scheme, rfl, hscheme, ?_⟩
  rw [Version.uploadUrl?_ofVersion, ← hid, ← hurl]
  rfl

/-- A creation that is answered as one tells the address to upload to. -/
theorem candid_create (hpost : r.method = "POST") (subject : Subject) (workspace : String)
    (body : ByteArray) :
    Candid a o r (Versions.create a s o subject workspace r.headers body).response := by
  unfold Versions.create
  split
  · exact candid_failure _
  · unfold Versions.call
    simp only
    split
    · next answer hanswer =>
      obtain rfl := Service.run_create_answer _ _ _ _ _ _ _ hanswer
      exact fun _ => tells_document hpost rfl
    · exact candid_failure _

/-- A list never has the status of a creation. -/
theorem candid_list (subject : Subject) (workspace : String) (query : Option String) :
    Candid a o r (Versions.list a s o subject workspace query).response := by
  unfold Versions.list
  split
  · exact nofun
  · unfold Versions.call
    simp only
    split
    · next answer _ =>
      cases answer with
      | version v => exact nofun
      | page p => exact nofun
      | archive data => exact nofun
      | deleted => exact nofun
    · exact candid_failure _

theorem candid_handle (workspace : String) :
    Candid a o r (handle a s o v r (.versions workspace)).response := by
  simp only [handle, withSubject]
  split
  · split
    · next hpost =>
      unfold withBody
      split
      · exact candid_create hpost _ _ _
      · next hbody => exact candid_readBody hbody
    · exact candid_list _ _ _
  · exact candid_failure _

theorem candid_atGate (workspace : String) :
    Candid a o r (atGate a s o r (pathOf r) (.versions workspace)).response := by
  rcases atGate_eq a s o r (.versions workspace) with ⟨f, events, hgate⟩ | ⟨v, events, _, hgate⟩
  · rw [hgate]
    exact candid_failure f
  · rw [hgate, Exchange.response_after]
    unfold admitted
    split
    · exact nofun
    · split
      · exact nofun
      · exact candid_handle workspace

theorem candid_finished (route : Route) {response : Response} (h : Candid a o r response) :
    Candid a o r (finished a o r route response) := by
  intro hstatus
  have htells := h ((status_finished route response).symm.trans hstatus)
  have hhead : r.method ≠ "HEAD" := by
    rw [htells.method]
    decide
  exact candid_of_content (content_finished hhead response).symm (fun _ => htells) hstatus

/-- A creation that is answered with success is told the address for the upload. -/
theorem respond_tells {workspace : String}
    (hroute : Route.ofPath? (pathOf r) = some (.versions workspace))
    (h : (respond a s o r).response.status = 201) : Tells a o r (respond a s o r).response := by
  have hcandid : Candid a o r (respond a s o r).response := by
    rw [respond_routed hroute, Exchange.response_mapResponse]
    apply candid_finished
    split
    · exact nofun
    · rw [Exchange.response_mapResponse]
      refine candid_of_content (content_versioned _ _).symm ?_
      split
      · exact nofun
      · exact candid_atGate workspace
  exact hcandid h

/-! What an address opens. -/

/-- The signature in a path has a code before its dot, if need be behind escapes. -/
def Carries (signature : String) (code : List UInt8) : Prop :=
  ∃ text rest, textOf signature = text ++ "." ++ rest ∧
    Coding.Base64.decode Coding.Base64.urlSafe text = some code

theorem textOf_segment (signer : Signing.Signer) (path : String) (expiry : Int) :
    textOf (signer.segment path expiry) = signer.segment path expiry := by
  rw [textOf, Route.decodeName?_of_not_mem (percent_not_mem_segment signer path expiry)]
  rfl

theorem carries_segment (signer : Signing.Signer) (path : String) (expiry : Int) :
    Carries (signer.segment path expiry) (signer.code path expiry) :=
  ⟨_, _, textOf_segment signer path expiry,
    Coding.Base64.decode_encode Coding.Base64.faithful_urlSafe _⟩

/-- A signature carries its own code and no other. -/
theorem eq_code_of_carries {signer : Signing.Signer} {path : String} {expiry : Int}
    {code : List UInt8} (h : Carries (signer.segment path expiry) code) :
    code = signer.code path expiry := by
  obtain ⟨text, rest, htext, hcode⟩ := h
  have hsegment : (signer.segment path expiry).toList = text.toList ++ '.' :: rest.toList := by
    rw [← textOf_segment, htext]
    simp
  obtain ⟨hfront, _⟩ := Signing.segment_parts hsegment
  rw [String.toList_inj.mp hfront,
    Coding.Base64.decode_encode Coding.Base64.faithful_urlSafe] at hcode
  exact (Option.some.inj hcode).symm

theorem uploadPath_inj {id id' : String} (h : Versions.uploadPath id = Versions.uploadPath id') :
    id = id' := by
  unfold Versions.uploadPath at h
  simpa [← String.toList_inj] using h

/-- A request that carries the code of a signed path opens just that path, unless two codes
collide. -/
theorem opens_own_door {id raw : String} {expiry issued : Int}
    (hcarries : Carries (a.signer.segment (Versions.uploadPath raw) expiry)
      (a.signer.code (Versions.uploadPath id) issued))
    (hdistinct : ¬ a.signer.Collides (Signing.message (Versions.uploadPath raw) expiry)
      (Signing.message (Versions.uploadPath id) issued)) : raw = id ∧ expiry = issued := by
  have hcode := eq_code_of_carries hcarries
  have hmessage : Signing.message (Versions.uploadPath raw) expiry =
      Signing.message (Versions.uploadPath id) issued :=
    Decidable.not_not.mp fun hne => hdistinct ⟨hne, hcode.symm⟩
  obtain ⟨hpath, hexpiry⟩ := Signing.message_inj hmessage
  exact ⟨uploadPath_inj hpath, hexpiry⟩

/-- A request gets to an upload only by a path that is signed for the version in it until a moment
that has not passed; any other request for an upload is turned away blindly. Different paths and
expiries have different messages. The address that a creation tells opens the upload of its own
version until its expiry, and no request with its code opens another one, in whatever spelling,
unless two codes collide. -/
theorem one_door (a : App) :
    (∀ s o r v signature raw, Admitted a s o r (.upload signature raw) v →
      ∃ expiry : Nat, expiry ≤ Text.Decimal.maxI64 ∧ o.now.seconds ≤ expiry ∧
        signature = a.signer.segment (Versions.uploadPath raw) expiry ∧
        pathOf r = "/api/v2/signed/" ++
          Coding.Base64.encode Coding.Base64.urlSafe (Digest.Hmac.mac a.signer.key
            (Coding.Utf8.encode ("/configuration-versions/" ++ raw ++ "/upload") ++
              0x2e :: Coding.Utf8.encode (toString (expiry : Int)))) ++
          "." ++ toString (expiry : Int) ++ ("/configuration-versions/" ++ raw ++ "/upload")) ∧
    (∀ o r signature raw, Route.ofPath? (pathOf r) = some (.upload signature raw) →
      (∃ v, ∀ s, Admitted a s o r (.upload signature raw) v) ∨
        Blind fun s => respond a s o r) ∧
    (∀ (path path' : String) (expiry expiry' : Int),
      Signing.message path expiry = Signing.message path' expiry' →
        path = path' ∧ expiry = expiry') ∧
    ∀ s o r workspace draws, Route.ofPath? (pathOf r) = some (.versions workspace) →
      o.suffix = ResourceId.suffix draws → (respond a s o r).response.status = 201 →
      Tells a o r (respond a s o r).response ∧
        ∀ s' o' r' v raw (expiry : Int),
          Admitted a s' o' r'
            (.upload (a.signer.segment (Versions.uploadPath raw) expiry) raw) v →
          let id := ResourceId.make Version.idKind o.suffix
          let issued := Signing.expiryAfter o.now.seconds a.settings.uploadUrlSeconds
          Carries (a.signer.segment (Versions.uploadPath raw) expiry)
            (a.signer.code (Versions.uploadPath id) issued) →
          ¬ a.signer.Collides (Signing.message (Versions.uploadPath raw) expiry)
            (Signing.message (Versions.uploadPath id) issued) →
          raw = id ∧ textOf raw = id ∧ expiry = issued ∧ o'.now.seconds ≤ issued := by
  refine ⟨?_, ?_, ?_, ?_⟩
  · intro s o r v signature raw h
    obtain ⟨expiry, hmax, hnow, rfl⟩ := h.segment
    refine ⟨expiry, hmax, hnow, rfl, ?_⟩
    rw [← signedPath_expanded, signedPath_eq, Route.path_of_ofPath? h.routed]
  · intro o r signature raw hroute
    exact admitted_or_blind hroute
  · intro path path' expiry expiry' h
    exact Signing.message_inj h
  · intro s o r workspace draws hroute hdrawn hstatus
    refine ⟨respond_tells hroute hstatus, fun s' o' r' v raw expiry h => ?_⟩
    intro id issued hcarries hdistinct
    obtain ⟨hraw, hexpiry⟩ := opens_own_door hcarries hdistinct
    have hid : Blob.isId id = true := by
      show Blob.isId (ResourceId.make Version.idKind o.suffix) = true
      rw [hdrawn]
      exact isId_make draws
    obtain ⟨moment, _, hnow, hsegment⟩ := h.segment
    have hmoment := Signing.segment_inj hsegment
    exact ⟨hraw, hraw ▸ textOf_of_isId (hraw ▸ hid), hexpiry, by omega⟩

/-- The delivery of a small archive opens the upload of its version, and nothing else. -/
theorem one_door_delivery :
    Tells plainApp plainOccasion creation
        (respond plainApp travelSite.state plainOccasion creation).response ∧
      Admitted plainApp .empty plainOccasion delivery (.upload (plainApp.signer.segment
        (Versions.uploadPath travelVersion.id) 1700003600) travelVersion.id) ⟨none, none⟩ ∧
      textOf travelVersion.id = travelVersion.id ∧
      1700003600 = Signing.expiryAfter plainOccasion.now.seconds
        plainApp.settings.uploadUrlSeconds ∧
      plainOccasion.now.seconds ≤ 1700003600 := by
  have hroute : Route.ofPath? (pathOf creation) = some (.versions "ws") := by decide +kernel
  have hsuffix : plainOccasion.suffix = ResourceId.suffix (List.replicate 16 0) := rfl
  have hcreated := (respond_creates (a := plainApp) rfl creates_creation rfl).1
  have hissued : Signing.expiryAfter plainOccasion.now.seconds
      plainApp.settings.uploadUrlSeconds = 1700003600 := by decide
  have hadmitted : Admitted plainApp .empty plainOccasion delivery (.upload
      (plainApp.signer.segment (Versions.uploadPath travelVersion.id) (1700003600 : Nat))
      travelVersion.id) ⟨none, none⟩ :=
    admitted_signedPath (isId_make (List.replicate 16 0)) (by decide) rfl rfl (by decide)
  obtain ⟨_, _, _, hdoors⟩ := one_door plainApp
  obtain ⟨htells, hopens⟩ := hdoors travelSite.state plainOccasion creation "ws" _ hroute hsuffix
    (Response.status_of_content hcreated)
  obtain ⟨_, htext, hexpiry, hnow⟩ := hopens _ _ _ _ _ _ hadmitted
    (hissued ▸ carries_segment ..) (fun hcollides => hcollides.1 (by rw [hissued]; rfl))
  exact ⟨htells, hadmitted, htext, hexpiry, hissued ▸ hnow⟩

end Server

end ConfigRegistry
