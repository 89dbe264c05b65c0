import ConfigRegistry.Login.Authorization
import ConfigRegistry.Login.Exchange
import ConfigRegistry.Server.Cors
import ConfigRegistry.Server.Description
import ConfigRegistry.Server.Health
import ConfigRegistry.Server.Versions

/-!
The answer to a request. A request passes the gate of its resource, then its method is looked at,
and then it is handled; every answer is marked on its way out.
-/
namespace ConfigRegistry.Server

open Http

/-! Gates. -/

def missingAuthorization : String := "Missing authorization header"
def badAuthorization : String := "Invalid authorization header format"

def bearer (a : App) (s : State) (o : Occasion) (h : Headers) :
    Except Failure Subject × List Log.Event :=
  match h.text? "authorization" with
  | none => (.error (.unauthorized missingAuthorization), [⟨.debug, missingAuthorization⟩])
  | some value =>
    match Signing.behind? "Bearer ".toList value.toList with
    | none => (.error (.unauthorized badAuthorization), [⟨.debug, badAuthorization⟩])
    | some token =>
      match s.tokens.authenticate o.outages.tokens (Text.trim (String.ofList token)) with
      | .error f => (.error f, [⟨.info, "Bearer authentication failed"⟩])
      | .ok record =>
        (.ok (Subject.ofUsername record.username a.settings.siteAdmins),
          [⟨.debug, "Authenticated bearer token"⟩])

def sessionUser? (a : App) (h : Headers) : Option String :=
  (fieldName? a.settings.sessionUserHeader).bind fun name =>
    ((h.text? name).map Text.trim).filter (!·.isEmpty)

def badSignature : Failure := .forbidden "invalid or expired signature"

/-- Whether a path of the programming interface is signed and still valid. -/
def isSigned (a : App) (path : String) (now : Time.Instant) : Bool :=
  match Signing.split? (path.toList.drop apiPrefix.length) with
  | some (segment, inner) =>
    (a.signer.verify segment (String.ofList inner) now.seconds).toOption.isSome
  | none => false

/-! Handling. -/

/-- What a gate found out about a request. -/
structure Visitor where
  subject : Option Subject
  username : Option String

def withBody (s : State) (route : Route) (r : Request) (handle : ByteArray → Exchange) :
    Exchange :=
  match readBody (bodyLimit route r.headers) r.body with
  | .ok body => handle body
  | .error response => .pure s response []

def withSubject (a : App) (s : State) (v : Visitor) (handle : Subject → Exchange) : Exchange :=
  match v.subject with
  | some subject => handle subject
  | none => .failed a s Subject.missing

def handle (a : App) (s : State) (o : Occasion) (v : Visitor) (r : Request) (route : Route) :
    Exchange :=
  let text := fun raw => (Route.decodeName? raw).getD ""
  match route with
  | .discovery => .pure s (.json 200 Discovery.document) []
  | .health =>
    let (response, events) := Health.answer o.outages s.world.blobs
    .pure s response events
  | .openApi => .pure s (.json 200 description.toJson) []
  | .docs => .pure s (.page Description.page) []
  | .ping => .pure s (.empty 204) []
  | .authorization =>
    withBody s route r fun body =>
      let visit : Login.Visit := ⟨r.method, v.username, o.now, o.nonce⟩
      let (response, events) :=
        Login.authorize a.settings visit (.ofRequest r.query r.headers body.toList)
      .pure s response events
  | .token =>
    withBody s route r fun body =>
      let outcome := Login.exchange a.secret s.tokens o.outages.tokens
        (.ofRequest r.query r.headers body.toList) o.token o.now
      ⟨outcome.response, { s with tokens := outcome.tokens }, outcome.events⟩
  | .versions workspace =>
    withSubject a s v fun by_ =>
      if r.method = "POST" then
        withBody s route r (Versions.create a s o by_ (text workspace) r.headers)
      else Versions.list a s o by_ (text workspace) r.query
  | .latest workspace =>
    withSubject a s v fun by_ =>
      Versions.call a s o (Service.latest by_ (text workspace)) Versions.present
  | .version id =>
    withSubject a s v fun by_ =>
      Versions.call a s o
        (if r.method = "DELETE" then Service.delete by_ (text id) else Service.get by_ (text id))
        Versions.present
  | .download id =>
    withSubject a s v fun by_ =>
      Versions.call a s o (Service.download by_ (text id)) Versions.present
  | .upload _ id => Versions.upload a s o (text id) r.headers r.body

/-- A request behind the gate: its method has to be one of the resource, and the names in its path
have to be text. -/
def admitted (a : App) (s : State) (o : Occasion) (v : Visitor) (r : Request) (route : Route) :
    Exchange :=
  if r.method ∉ route.methods then .pure s (.empty 405) []
  else
    match route.badName? with
    | some name => .pure s (.text 400 ("Invalid URL: Invalid UTF-8 in `" ++ name ++ "`")) []
    | none => handle a s o v r route

def atGate (a : App) (s : State) (o : Occasion) (r : Request) (path : String) (route : Route) :
    Exchange :=
  match route.gate with
  | .free => admitted a s o ⟨none, none⟩ r route
  | .session =>
    let username := sessionUser? a r.headers
    (admitted a s o ⟨none, username⟩ r route).after
      (if username.isSome then [⟨.debug, "Session subject attached"⟩] else [])
  | .bearer =>
    match bearer a s o r.headers with
    | (.ok subject, events) => (admitted a s o ⟨some subject, none⟩ r route).after events
    | (.error f, events) => (Exchange.failed a s f).after events
  | .signature =>
    if isSigned a path o.now then admitted a s o ⟨none, none⟩ r route
    else (Exchange.failed a s badSignature).after [⟨.info, "Rejected signed URL"⟩]

/-! Marks on answers. -/

def apiVersion : String := "2.5"

def contentPolicy : String :=
  "default-src 'self'; style-src 'self' 'unsafe-inline'; form-action 'self'; frame-ancestors 'none'"

def maxRequestId : Nat := 128

/-- The identifier of a request: its own one if it is short enough, or a new one. -/
def requestId (o : Occasion) (h : Headers) : String :=
  ((h.text? "x-request-id").filter fun s => !s.isEmpty && s.length ≤ maxRequestId).getD
    o.requestId.render

def mark (a : App) (o : Occasion) (h : Headers) (r : Response) : Response :=
  let r := (Cors.mark a.settings.corsOrigins h r).set "x-request-id" (requestId o h)
  let r := ((r.set "x-content-type-options" "nosniff").set "x-frame-options" "DENY").set
    "referrer-policy" "strict-origin-when-cross-origin"
  let r := if a.settings.isProduction then
      r.set "strict-transport-security" "max-age=31536000; includeSubDomains"
    else r
  r.set "content-security-policy" contentPolicy

/-- Whether a stated length is more than a resource takes. -/
def isOversized (route : Route) (h : Headers) : Bool :=
  route.takesSmallBodies && (h.number? "content-length").any (maxSmallBody < ·)

def atResource (a : App) (s : State) (o : Occasion) (r : Request) (path : String)
    (route : Route) : Exchange :=
  let answered :=
    if r.method = "OPTIONS" then .pure s Cors.preflight []
    else
      (if isOversized route r.headers then .pure s (.text 413 lengthExceeded) []
        else atGate a s o r path route).mapResponse fun response =>
          if route.isApi then response.set "tfp-api-version" apiVersion else response
  answered.mapResponse fun response =>
    let response := if r.method ∈ route.methods then response
      else { response with headers := response.headers.setDefault "allow" route.allow }
    if r.method = "HEAD" then response.measured.withoutBody else response.measured

def respond (a : App) (s : State) (o : Occasion) (r : Request) : Exchange :=
  let path := Route.trimmedPath r.path
  (match Route.ofPath? path with
    | some route => atResource a s o r path route
    | none => .pure s (if r.method = "OPTIONS" then Cors.preflight else .empty 404) []).mapResponse
    (mark a o r.headers)

end ConfigRegistry.Server
