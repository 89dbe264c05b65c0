import ConfigRegistry.Proofs.Coding.Utf8
import ConfigRegistry.Proofs.Http.Fields
import ConfigRegistry.Proofs.Login.Outcomes
import ConfigRegistry.Proofs.Server.Answers
import ConfigRegistry.Proofs.Uuid

/-!
The fields of answers. Whatever handles a request says what its bytes are and where they lead, and
leaves all other fields to the way out; so these fields say the same at every resource, and where
there is none.
-/
namespace ConfigRegistry.Server

open Http Coding

variable {a : App} {s : State} {o : Occasion} {r : Request} {route : Route} {v : Visitor}

/-! What handles a request adds none of the marks. -/

theorem plain_json (status : Nat) (value : Json.Value) : (Response.json status value).IsPlain :=
  .typed status jsonType _

theorem plain_text (status : Nat) (text : String) : (Response.text status text).IsPlain :=
  .typed status plainType _

theorem plain_page (page : String) : (Response.page page).IsPlain := .typed 200 pageType _

theorem plain_failed (a : App) (s : State) (f : Failure) :
    (Exchange.failed a s f).response.IsPlain := plain_json _ _

theorem plain_readBody {limit : Nat} {b : Body} {response : Response}
    (h : readBody limit b = .error response) : response.IsPlain := by
  unfold readBody at h
  simp only at h
  split at h
  · contradiction
  · exact Except.error.inj h ▸ plain_text _ _
  · exact Except.error.inj h ▸ plain_text _ _

theorem plain_withBody {handle : ByteArray → Exchange}
    (h : ∀ body, (handle body).response.IsPlain) :
    (withBody s route r handle).response.IsPlain := by
  unfold withBody
  split
  · exact h _
  · next hbody => exact plain_readBody hbody

theorem plain_withSubject {handle : Subject → Exchange}
    (h : ∀ subject, (handle subject).response.IsPlain) :
    (withSubject a s v handle).response.IsPlain := by
  unfold withSubject
  split
  · exact h _
  · exact plain_failed a s _

theorem plain_health (outages : Outages) (blobs : Blob.Store) :
    (Health.answer outages blobs).1.IsPlain := by
  unfold Health.answer
  simp only
  split
  · exact plain_json _ _
  · split <;> exact plain_json _ _

theorem plain_make {clientId address state : String} {response : Response}
    (h : Login.Redirect.make clientId address state = .error response) : response.IsPlain := by
  unfold Login.Redirect.make at h
  split at h
  · exact Except.error.inj h ▸ plain_text _ _
  · split at h
    · contradiction
    · exact Except.error.inj h ▸ plain_text _ _

theorem plain_authorize (settings : Settings) (visit : Login.Visit) (p : Login.Parameters) :
    (Login.authorize settings visit p).1.IsPlain := by
  unfold Login.authorize
  split
  · exact plain_text _ _
  · next q _ =>
    split
    · next hmake => exact plain_make hmake
    · next redirect _ =>
      rcases Login.decide_cases settings visit q redirect with ⟨_, hpage⟩ | ⟨_, _, hfault⟩ |
        ⟨_, _, hcode⟩
      · exact hpage ▸ plain_page _
      · exact hfault ▸ .redirect _
      · exact hcode ▸ .redirect _

theorem plain_exchange (secret : List UInt8) (tokens : Ledger) (outage : Option Failure)
    (p : Login.Parameters) (draws : Ledger.Draws) (now : Time.Instant) :
    (Login.exchange secret tokens outage p draws now).response.IsPlain := by
  unfold Login.exchange
  simp only
  split
  · next hmake => exact plain_make hmake
  · next redirect _ =>
    rcases Login.checkCode_cases secret (.ofParameters p) redirect now with
      ⟨payload, _, hcheck⟩ | ⟨fault, description, events, _, hcheck⟩
    · rw [hcheck]
      simp only
      split
      · exact .redirect _
      · exact .passing (plain_json _ _)
    · rw [hcheck]
      exact .redirect _

theorem plain_presentVersion (status : Nat) (url : String → Option String)
    (answer : Service.Answer) : (Versions.presentVersion status url answer).IsPlain := by
  cases answer with
  | version v => exact .typed _ _ _
  | page p => exact .typed _ _ _
  | archive data => exact .typed _ _ _
  | deleted => exact .empty _

theorem plain_call (opening : Service.Opening) {present : Service.Answer → Response}
    (hpresent : ∀ answer, (present answer).IsPlain) :
    (Versions.call a s o opening present).response.IsPlain := by
  unfold Versions.call
  simp only
  split
  · exact hpresent _
  · exact plain_failed a s _

theorem plain_create (subject : Subject) (workspace : String) (h : Headers) (body : ByteArray) :
    (Versions.create a s o subject workspace h body).response.IsPlain := by
  unfold Versions.create
  split
  · exact plain_failed a s _
  · exact plain_call _ fun answer => plain_presentVersion _ _ answer

theorem plain_list (subject : Subject) (workspace : String) (query : Option String) :
    (Versions.list a s o subject workspace query).response.IsPlain := by
  unfold Versions.list
  split
  · exact plain_text _ _
  · exact plain_call _ fun answer => plain_presentVersion _ _ answer

theorem plain_upload (id : String) (h : Headers) (b : Body) :
    (Versions.upload a s o id h b).response.IsPlain := by
  unfold Versions.upload
  simp only
  split
  · exact plain_failed a s _
  · split
    · exact plain_failed a s _
    · exact plain_failed a s _
    · exact plain_call _ fun _ => .empty 200

theorem plain_handle : (handle a s o v r route).response.IsPlain := by
  have hcall := fun opening => plain_call (a := a) (s := s) (o := o) opening fun answer =>
    plain_presentVersion 200 (fun _ => none) answer
  cases route with
  | discovery => exact plain_json _ _
  | health => exact plain_health _ _
  | openApi => exact plain_json _ _
  | docs => exact plain_page _
  | ping => exact .empty 204
  | authorization => exact plain_withBody fun body => plain_authorize _ _ _
  | token => exact plain_withBody fun body => plain_exchange _ _ _ _ _ _
  | versions workspace =>
    refine plain_withSubject fun subject => ?_
    split
    · exact plain_withBody fun body => plain_create _ _ _ body
    · exact plain_list _ _ _
  | latest workspace => exact plain_withSubject fun subject => hcall _
  | version id => exact plain_withSubject fun subject => hcall _
  | download id => exact plain_withSubject fun subject => hcall _
  | upload signature id => exact plain_upload _ _ _

theorem plain_admitted : (admitted a s o v r route).response.IsPlain := by
  unfold admitted
  split
  · exact .empty 405
  · split
    · exact plain_text _ _
    · exact plain_handle

theorem plain_atGate : (atGate a s o r (pathOf r) route).response.IsPlain := by
  rcases atGate_eq a s o r route with ⟨f, events, h⟩ | ⟨v, events, _, h⟩
  · rw [h]
    exact plain_failed a s f
  · rw [h]
    exact plain_admitted

/-! What is added on the way out. -/

def corsNames : List String :=
  ["vary", "access-control-allow-origin", "access-control-allow-methods",
    "access-control-allow-headers"]

def resourceNames : List String := ["content-length", "allow"]

theorem values_corsMark {name : String} (hname : name ∉ corsNames) (origins : List String)
    (h : Headers) (response : Response) :
    (Cors.mark origins h response).values name = response.values name := by
  simp only [corsNames, List.mem_cons, List.not_mem_nil, or_false, not_or] at hname
  unfold Cors.mark
  simp only
  split
  · rw [Response.values_set, if_neg hname.2.1, Response.values_set, if_neg hname.1]
  · rw [Response.values_set, if_neg hname.1]

theorem values_preflight {name : String} (hname : name ∉ corsNames) :
    Cors.preflight.values name = [] := by
  simp only [corsNames, List.mem_cons, List.not_mem_nil, or_false, not_or] at hname
  rw [Cors.preflight, Response.values_set, if_neg hname.2.2.2, Response.values_set,
    if_neg hname.2.2.1, Response.values_empty]

def described (r : Request) (route : Route) (response : Response) : Response :=
  let response := if r.method ∈ route.methods then response
    else { response with headers := response.headers.setDefault "allow" route.allow }
  if r.method = "HEAD" then response.measured.withoutBody else response.measured

theorem finished_eq_mark (a : App) (o : Occasion) (r : Request) (route : Route)
    (response : Response) :
    finished a o r route response = mark a o r.headers (described r route response) := rfl

theorem values_described {name : String} (hname : name ∉ resourceNames) (route : Route)
    (response : Response) : (described r route response).values name = response.values name := by
  simp only [resourceNames, List.mem_cons, List.not_mem_nil, or_false, not_or] at hname
  have hallowed : (if r.method ∈ route.methods then response
      else { response with
        headers := response.headers.setDefault "allow" route.allow }).values name =
      response.values name := by
    split
    · rfl
    · exact Response.values_setDefault_of_ne hname.2 ..
  unfold described
  simp only
  split
  · rw [Response.values_withoutBody, Response.values_measured_of_ne hname.1, hallowed]
  · rw [Response.values_measured_of_ne hname.1, hallowed]

/-- Whether a request is one for a resource of the programming interface, and not a question for
what is allowed. -/
def isCall (r : Request) : Bool :=
  r.method != "OPTIONS" && (Route.ofPath? (pathOf r)).any Route.isApi

/-- The fields that an answer may have before it is marked as every answer is. -/
def innerNames : List String := Response.plainNames ++ corsNames ++ resourceNames

theorem values_versioned {response : Response} (h : response.IsPlain) (route : Route)
    {name : String} (hname : name ∉ Response.plainNames) :
    (versioned route response).values name =
      if name = "tfp-api-version" ∧ route.isApi then [Utf8.encode apiVersion] else [] := by
  unfold versioned
  cases route.isApi with
  | true => simp [Response.values_set, h.values_eq_nil hname]
  | false => simp [h.values_eq_nil hname]

/-- What is marked on the way out has no other fields than these, but for the version of the
programming interface. -/
theorem respond_eq_mark (a : App) (s : State) (o : Occasion) (r : Request) :
    ∃ inner, (respond a s o r).response = mark a o r.headers inner ∧
      ∀ name ∉ innerNames, inner.values name =
        if name = "tfp-api-version" ∧ isCall r then [Utf8.encode apiVersion] else [] := by
  simp only [innerNames, List.mem_append, not_or]
  cases hroute : Route.ofPath? (pathOf r) with
  | none =>
    have hcall : isCall r = false := by simp [isCall, hroute]
    unfold pathOf at hroute
    refine ⟨if r.method = "OPTIONS" then Cors.preflight else .empty 404, ?_, fun name hname => ?_⟩
    · simp only [respond, hroute, Exchange.response_mapResponse, Exchange.response_pure]
    · simp only [hcall, Bool.false_eq_true, and_false, if_false]
      split
      · exact values_preflight hname.1.2
      · exact Response.values_empty 404 name
  | some route =>
    rw [respond_routed hroute, Exchange.response_mapResponse]
    by_cases hoptions : r.method = "OPTIONS"
    · have hcall : isCall r = false := by simp [isCall, hoptions]
      rw [if_pos hoptions]
      refine ⟨_, finished_eq_mark .., fun name hname => ?_⟩
      simp only [hcall, Bool.false_eq_true, and_false, if_false]
      rw [values_described hname.2]
      exact values_preflight hname.1.2
    · have hcall : isCall r = route.isApi := by simp [isCall, hoptions, hroute]
      rw [if_neg hoptions, Exchange.response_mapResponse]
      refine ⟨_, finished_eq_mark .., fun name hname => ?_⟩
      rw [hcall, values_described hname.2, values_versioned _ _ hname.1.1]
      split
      · exact plain_text 413 _
      · exact plain_atGate

/-! Identifiers of requests. -/

/-- Whether bytes may stand in an answer as the identifier of its request: between one and 128
visible characters, spaces and tabs. -/
def isSendable (id : List UInt8) : Bool :=
  1 ≤ id.length && id.length ≤ 128 &&
    id.all fun b => (0x21 ≤ b && b ≤ 0x7e) || b == 0x20 || b == 0x09

/-- The identifier that a request brings, if it is one to be kept. -/
def broughtId? (h : Headers) : Option (List UInt8) := (h.get? "x-request-id").filter isSendable

theorem isTextByte_iff (b : UInt8) :
    Headers.isTextByte b = ((0x21 ≤ b && b ≤ 0x7e) || b == 0x20 || b == 0x09) := by
  rw [Bool.eq_iff_iff]
  simp only [Headers.isTextByte, Bool.or_eq_true, Bool.and_eq_true, decide_eq_true_eq, beq_iff_eq,
    UInt8.le_iff_toNat_le, UInt8.lt_iff_toNat_lt, ← UInt8.toNat_inj, UInt8.reduceToNat]
  omega

theorem isSendable_iff (id : List UInt8) :
    isSendable id = (id.all Headers.isTextByte && (!id.isEmpty && id.length ≤ maxRequestId)) := by
  have hbytes : id.all (fun b => (0x21 ≤ b && b ≤ 0x7e) || b == 0x20 || b == 0x09) =
      id.all Headers.isTextByte := by
    congr 1
    funext b
    exact (isTextByte_iff b).symm
  rw [isSendable, hbytes]
  cases id with
  | nil => rfl
  | cons b rest => simp [maxRequestId, Bool.and_comm]

/-- A request keeps the identifier it brought, byte by byte, or is given the drawn one. -/
theorem encode_requestId (o : Occasion) (h : Headers) :
    Utf8.encode (requestId o h) = (broughtId? h).getD (Utf8.encode o.requestId.render) := by
  unfold requestId broughtId? Headers.text?
  cases h.get? "x-request-id" with
  | none => rfl
  | some id =>
    rw [Option.filter_some, isSendable_iff]
    by_cases htext : id.all Headers.isTextByte = true
    · have hsmall : ∀ b ∈ id, b.toNat < 128 := by
        intro b hb
        have hb := List.all_eq_true.mp htext b hb
        simp only [Headers.isTextByte, Bool.or_eq_true, Bool.and_eq_true, decide_eq_true_eq,
          beq_iff_eq, UInt8.le_iff_toNat_le, UInt8.lt_iff_toNat_lt, ← UInt8.toNat_inj,
          UInt8.reduceToNat] at hb
        omega
      have hempty : (String.ofList (id.map fun b => Char.ofNat b.toNat)).isEmpty = id.isEmpty := by
        cases id <;> simp
      simp only [htext, if_true, Option.filter_some, hempty, String.length_ofList, List.length_map,
        Bool.true_and]
      split
      · exact Utf8.encode_ofList_map hsmall
      · rfl
    · simp [htext]

/-- The drawn identifier is one that a header can carry. -/
theorem isSendable_render (u : Uuid) : isSendable (Utf8.encode u.render) := by
  have hsmall : ∀ c ∈ u.render.toList, c.toNat < 128 := fun c hc => by
    have := (Uuid.visible_render hc).2
    omega
  have hlength : u.render.toList.length = 36 := by
    rw [Uuid.toList_render]
    simp [Uuid.length_digitsAt]
  have htext : ∀ c ∈ u.render.toList, Headers.isTextByte (UInt8.ofNat c.toNat) := by
    intro c hc
    obtain ⟨hlow, hhigh⟩ := Uuid.visible_render hc
    have hbyte : (UInt8.ofNat c.toNat).toNat = c.toNat :=
      Nat.mod_eq_of_lt (by omega)
    simp only [Headers.isTextByte, Bool.or_eq_true, Bool.and_eq_true, decide_eq_true_eq,
      UInt8.le_iff_toNat_le, UInt8.lt_iff_toNat_lt, hbyte, UInt8.reduceToNat]
    omega
  rw [isSendable_iff, Utf8.encode_of_small hsmall]
  simpa [hlength, maxRequestId, ← List.length_eq_zero_iff] using htext

/-- What an answer is marked with is legal in a field, and short. -/
theorem isSendable_requestId (o : Occasion) (h : Headers) :
    isSendable (Utf8.encode (requestId o h)) := by
  rw [encode_requestId]
  cases hid : broughtId? h with
  | none => exact isSendable_render o.requestId
  | some id => exact (Option.filter_eq_some_iff.mp hid).2

/-! Marks. -/

/-- The names of the fields that tell of the request and keep the reader of an answer safe. -/
def markNames : List String :=
  ["x-request-id", "x-content-type-options", "x-frame-options", "referrer-policy",
    "strict-transport-security", "content-security-policy"]

/-- What stands in a marked answer under a name. -/
theorem values_mark (a : App) (o : Occasion) (h : Headers) (inner : Response) (name : String) :
    (mark a o h inner).values name =
      if name = "content-security-policy" then [Utf8.encode contentPolicy]
      else if name = "strict-transport-security" ∧ a.settings.isProduction then
        [Utf8.encode "max-age=31536000; includeSubDomains"]
      else if name = "referrer-policy" then [Utf8.encode "strict-origin-when-cross-origin"]
      else if name = "x-frame-options" then [Utf8.encode "DENY"]
      else if name = "x-content-type-options" then [Utf8.encode "nosniff"]
      else if name = "x-request-id" then [Utf8.encode (requestId o h)]
      else (Cors.mark a.settings.corsOrigins h inner).values name := by
  unfold mark
  cases a.settings.isProduction with
  | true => simp [Response.values_set]
  | false => simp [Response.values_set]

theorem values_mark_of_not_mem {name : String} (hmark : name ∉ markNames) (hcors : name ∉ corsNames)
    (a : App) (o : Occasion) (h : Headers) (inner : Response) :
    (mark a o h inner).values name = inner.values name := by
  simp only [markNames, List.mem_cons, List.not_mem_nil, or_false, not_or] at hmark
  obtain ⟨hid, htype, hframe, hreferrer, htransport, hcontent⟩ := hmark
  rw [values_mark, if_neg hcontent, if_neg fun h => htransport h.1, if_neg hreferrer,
    if_neg hframe, if_neg htype, if_neg hid, values_corsMark hcors]

/-- The marks of an answer to a request. -/
structure Marked (a : App) (o : Occasion) (r : Request) (response : Response) : Prop where
  requestId : response.values "x-request-id" =
    [(broughtId? r.headers).getD (Utf8.encode o.requestId.render)]
  contentType : response.values "x-content-type-options" = [Utf8.encode "nosniff"]
  frame : response.values "x-frame-options" = [Utf8.encode "DENY"]
  referrer : response.values "referrer-policy" = [Utf8.encode "strict-origin-when-cross-origin"]
  content : response.values "content-security-policy" = [Utf8.encode ("default-src 'self'; " ++
    "style-src 'self' 'unsafe-inline'; form-action 'self'; frame-ancestors 'none'")]
  transport : response.values "strict-transport-security" =
    if a.settings.isProduction then [Utf8.encode "max-age=31536000; includeSubDomains"] else []

/-- An answer without a header for strict transport comes out with each header once. -/
theorem marked_mark (a : App) (o : Occasion) (r : Request) {inner : Response}
    (hinner : inner.values "strict-transport-security" = []) :
    Marked a o r (mark a o r.headers inner) where
  requestId := by
    rw [← encode_requestId]
    simp [values_mark]
  contentType := by simp [values_mark]
  frame := by simp [values_mark]
  referrer := by simp [values_mark]
  content := by simp [values_mark, contentPolicy]
  transport := by
    have hcors : "strict-transport-security" ∉ corsNames := by decide
    simp [values_mark, values_corsMark hcors, hinner]

/-- Every answer is marked, whatever was asked for: with one identifier, the one that the request
brought or else a new one, which is a legal field and reads as an identifier, and with the fields
that keep its reader safe, each of them once. -/
theorem respond_marked (a : App) (s : State) (o : Occasion) (r : Request) :
    Marked a o r (respond a s o r).response ∧
      (∀ id ∈ (respond a s o r).response.values "x-request-id", isSendable id) ∧
      Uuid.parse o.requestId.render = .ok o.requestId := by
  obtain ⟨inner, hresponse, hinner⟩ := respond_eq_mark a s o r
  have hmarked : Marked a o r (respond a s o r).response := by
    rw [hresponse]
    exact marked_mark a o r (hinner "strict-transport-security" (by decide))
  refine ⟨hmarked, fun id hid => ?_, Uuid.parse_render o.requestId⟩
  rw [hmarked.requestId, ← encode_requestId, List.mem_singleton] at hid
  exact hid ▸ isSendable_requestId o r.headers

end ConfigRegistry.Server
