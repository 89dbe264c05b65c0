import ConfigRegistry.Proofs.Service.Running
import ConfigRegistry.Server.Respond

/-!
What stands between a request and the state. A request changes something only behind the gate of
its resource, with a method of the resource, and only by a call to the service or by an exchange of
a code for a token.
-/
namespace ConfigRegistry.Server

open Http

variable {a : App} {s : State} {o : Occasion} {r : Request} {route : Route}

@[simp] theorem Exchange.state_mapResponse (f : Response → Response) (e : Exchange) :
    (e.mapResponse f).state = e.state := rfl

@[simp] theorem Exchange.state_after (events : List Log.Event) (e : Exchange) :
    (e.after events).state = e.state := rfl

@[simp] theorem Exchange.response_mapResponse (f : Response → Response) (e : Exchange) :
    (e.mapResponse f).response = f e.response := rfl

@[simp] theorem Exchange.response_after (events : List Log.Event) (e : Exchange) :
    (e.after events).response = e.response := rfl

@[simp] theorem Exchange.response_pure (s : State) (response : Response)
    (events : List Log.Event) : (Exchange.pure s response events).response = response := rfl

def pathOf (r : Request) : String := Route.trimmedPath r.path

def Presents (s : State) (o : Occasion) (h : Headers) (record : Token) : Prop :=
  ∃ value token, h.text? "authorization" = some value ∧
    Signing.behind? "Bearer ".toList value.toList = some token ∧
    s.tokens.authenticate o.outages.tokens (Text.trim (String.ofList token)) = .ok record

/-- A path carries a signature that is right at a moment. -/
def Signed (a : App) (path : String) (now : Time.Instant) : Prop :=
  ∃ segment inner, Signing.split? (path.toList.drop apiPrefix.length) = some (segment, inner) ∧
    a.signer.verify segment (String.ofList inner) now.seconds = .ok ()

/-- The test of the gate decides which paths are signed. -/
theorem isSigned_iff {path : String} {now : Time.Instant} :
    isSigned a path now = true ↔ Signed a path now := by
  unfold isSigned Signed
  split
  · next segment inner hsplit =>
    rw [Option.isSome_iff_exists]
    simp only [toOption_eq_some, hsplit, Option.some.injEq, Prod.mk.injEq]
    constructor
    · rintro ⟨_, hok⟩
      exact ⟨segment, inner, ⟨rfl, rfl⟩, hok⟩
    · rintro ⟨_, _, ⟨rfl, rfl⟩, hok⟩
      exact ⟨(), hok⟩
  · next hsplit => simp [hsplit]

/-- Whoever passes the bearer gate has presented the token of a record, and acts as its user. -/
theorem bearer_ok {h : Headers} {subject : Subject} {events : List Log.Event}
    (hb : bearer a s o h = (.ok subject, events)) :
    ∃ record, Presents s o h record ∧
      subject = Subject.ofUsername record.username a.settings.siteAdmins := by
  unfold bearer at hb
  split at hb
  · simp at hb
  · next value hvalue =>
    split at hb
    · simp at hb
    · next token htoken =>
      split at hb
      · simp at hb
      · next record hrecord =>
        obtain ⟨hsubject, _⟩ := Prod.mk.inj hb
        exact ⟨record, ⟨value, token, hvalue, htoken, hrecord⟩, (Except.ok.inj hsubject).symm⟩

/-- What a request shows at the gate of a resource, and what the gate makes of it. -/
inductive Passes (a : App) (s : State) (o : Occasion) (r : Request) : Route.Gate → Visitor → Prop
  | free : Passes a s o r .free ⟨none, none⟩
  | session : Passes a s o r .session ⟨none, sessionUser? a r.headers⟩
  | bearer {record : Token} (h : Presents s o r.headers record) :
      Passes a s o r .bearer
        ⟨some (Subject.ofUsername record.username a.settings.siteAdmins), none⟩
  | signature (h : Signed a (pathOf r) o.now) : Passes a s o r .signature ⟨none, none⟩

/-- A request that gets as far as being handled. -/
structure Admitted (a : App) (s : State) (o : Occasion) (r : Request) (route : Route)
    (v : Visitor) : Prop where
  routed : Route.ofPath? (pathOf r) = some route
  method : r.method ∈ route.methods
  named : route.badName? = none
  passes : Passes a s o r route.gate v

/-- Behind its gate a request is handled or refused for its method or its path. -/
theorem admitted_eq (a : App) (s : State) (o : Occasion) (r : Request) (route : Route)
    (v : Visitor) :
    (∃ response, admitted a s o v r route = .pure s response []) ∨
      r.method ∈ route.methods ∧ route.badName? = none ∧
        admitted a s o v r route = handle a s o v r route := by
  unfold admitted
  split
  · exact .inl ⟨_, rfl⟩
  · next hmethod =>
    split
    · exact .inl ⟨_, rfl⟩
    · next hnamed => exact .inr ⟨Decidable.not_not.mp hmethod, hnamed, rfl⟩

/-- At a gate a request is turned away or let in. -/
theorem atGate_eq (a : App) (s : State) (o : Occasion) (r : Request) (route : Route) :
    (∃ f events, atGate a s o r (pathOf r) route = (Exchange.failed a s f).after events) ∨
      ∃ v events, Passes a s o r route.gate v ∧
        atGate a s o r (pathOf r) route = (admitted a s o v r route).after events := by
  unfold atGate
  cases hgate : route.gate with
  | free => exact .inr ⟨_, [], .free, rfl⟩
  | session => exact .inr ⟨_, _, .session, rfl⟩
  | bearer =>
    simp only
    split
    · next hbearer =>
      obtain ⟨record, hrecord, rfl⟩ := bearer_ok hbearer
      exact .inr ⟨_, _, .bearer hrecord, rfl⟩
    · exact .inl ⟨_, _, rfl⟩
  | signature =>
    simp only
    split
    · next hsigned => exact .inr ⟨_, [], .signature (isSigned_iff.mp hsigned), rfl⟩
    · exact .inl ⟨_, _, rfl⟩

/-- What becomes of an answer of a resource that is not about what is allowed. -/
def versioned (route : Route) (response : Response) : Response :=
  if route.isApi then response.set "tfp-api-version" apiVersion else response

def finished (a : App) (o : Occasion) (r : Request) (route : Route) (response : Response) :
    Response :=
  let response := if r.method ∈ route.methods then response
    else { response with headers := response.headers.setDefault "allow" route.allow }
  mark a o r.headers (if r.method = "HEAD" then response.measured.withoutBody
    else response.measured)

theorem respond_routed (hroute : Route.ofPath? (pathOf r) = some route) :
    respond a s o r =
      (if r.method = "OPTIONS" then .pure s Cors.preflight []
      else
        (if isOversized route r.headers then .pure s (.text 413 lengthExceeded) []
        else atGate a s o r (pathOf r) route).mapResponse (versioned route)).mapResponse
          (finished a o r route) := by
  unfold pathOf at hroute
  unfold respond
  simp only [hroute]
  rfl

/-- The state changes only where a request is handled. -/
theorem respond_state (a : App) (s : State) (o : Occasion) (r : Request) :
    (respond a s o r).state = s ∨
      ∃ route v, Admitted a s o r route v ∧
        (respond a s o r).state = (handle a s o v r route).state := by
  cases hroute : Route.ofPath? (pathOf r) with
  | none =>
    unfold pathOf at hroute
    simp only [respond, hroute]
    exact .inl rfl
  | some route =>
    rw [respond_routed hroute, Exchange.state_mapResponse]
    split
    · exact .inl rfl
    · rw [Exchange.state_mapResponse]
      split
      · exact .inl rfl
      · rcases atGate_eq a s o r route with ⟨f, events, h⟩ | ⟨v, events, hpasses, h⟩
        · rw [h]
          exact .inl rfl
        · rw [h, Exchange.state_after]
          rcases admitted_eq a s o r route v with ⟨_, h⟩ | ⟨hmethod, hnamed, h⟩
          · rw [h]
            exact .inl rfl
          · rw [h]
            exact .inr ⟨route, v, ⟨hroute, hmethod, hnamed, hpasses⟩, rfl⟩

/-! Handling. -/

def textOf (raw : String) : String := (Route.decodeName? raw).getD ""

/-- The calls to the service that requests for a resource make. -/
inductive Asks (o : Occasion) (r : Request) : Route → Option Subject → Service.Call → Prop
  | create {subject : Subject} (workspace : String) (options : Version.Options)
      (h : r.method = "POST") :
      Asks o r (.versions workspace) (some subject)
        (.create subject o.suffix (textOf workspace) options o.now)
  | list {subject : Subject} (workspace : String) (options : Page.Options) :
      Asks o r (.versions workspace) (some subject) (.list subject (textOf workspace) options)
  | latest {subject : Subject} (workspace : String) :
      Asks o r (.latest workspace) (some subject) (.latest subject (textOf workspace))
  | get {subject : Subject} (id : String) :
      Asks o r (.version id) (some subject) (.get subject (textOf id))
  | delete {subject : Subject} (id : String) (h : r.method = "DELETE") :
      Asks o r (.version id) (some subject) (.delete subject (textOf id))
  | download {subject : Subject} (id : String) :
      Asks o r (.download id) (some subject) (.download subject (textOf id))
  | upload (signature id : String) (data : ByteArray) (subject : Option Subject) :
      Asks o r (.upload signature id) subject (.upload (textOf id) data)

def worldAfter (a : App) (s : State) (o : Occasion) (call : Service.Call) : Service.World :=
  (Service.run ⟨o.outages, o.now, o.mark⟩ s.world
    (call.opening a.settings.maxArchiveSize)).world

def exchanged (a : App) (s : State) (o : Occasion) (r : Request) (body : ByteArray) :
    Login.Outcome :=
  Login.exchange a.secret s.tokens o.outages.tokens
    (.ofRequest r.query r.headers body.toList) o.token o.now

theorem call_state (a : App) (s : State) (o : Occasion) (opening : Service.Opening)
    (present : Service.Answer → Response) :
    (Versions.call a s o opening present).state =
      { s with world := (Service.run ⟨o.outages, o.now, o.mark⟩ s.world opening).world } := by
  unfold Versions.call
  simp only
  split <;> rfl

theorem withBody_state {handle : ByteArray → Exchange} :
    (withBody s route r handle).state = s ∨
      ∃ body, readBody (bodyLimit route r.headers) r.body = .ok body ∧
        (withBody s route r handle).state = (handle body).state := by
  unfold withBody
  split
  · next body hbody => exact .inr ⟨body, hbody, rfl⟩
  · exact .inl rfl

/-- A request leaves the state alone, exchanges a code, or makes a call to the service. -/
theorem handle_state (a : App) (s : State) (o : Occasion) (v : Visitor) (r : Request)
    (route : Route) :
    (handle a s o v r route).state = s ∨
      (∃ body, route = .token ∧ readBody (bodyLimit route r.headers) r.body = .ok body ∧
        (handle a s o v r route).state = { s with tokens := (exchanged a s o r body).tokens }) ∨
      ∃ call, Asks o r route v.subject call ∧
        (handle a s o v r route).state = { s with world := worldAfter a s o call } := by
  cases route with
  | discovery => exact .inl rfl
  | health => exact .inl rfl
  | openApi => exact .inl rfl
  | docs => exact .inl rfl
  | ping => exact .inl rfl
  | authorization =>
    simp only [handle]
    rcases withBody_state with h | ⟨body, _, h⟩
    · exact .inl h
    · exact .inl (h.trans rfl)
  | token =>
    simp only [handle]
    rcases withBody_state with h | ⟨body, hbody, h⟩
    · exact .inl h
    · exact .inr (.inl ⟨body, trivial, hbody, h⟩)
  | versions workspace =>
    simp only [handle, withSubject]
    cases v.subject with
    | none => exact .inl rfl
    | some subject =>
      simp only
      split
      · next hmethod =>
        rcases withBody_state with h | ⟨body, _, h⟩
        · exact .inl h
        · rw [h]
          unfold Versions.create
          split
          · exact .inl rfl
          · exact .inr (.inr ⟨_, .create workspace _ hmethod, call_state a s o _ _⟩)
      · unfold Versions.list
        split
        · exact .inl rfl
        · exact .inr (.inr ⟨_, .list workspace _, call_state a s o _ _⟩)
  | latest workspace =>
    simp only [handle, withSubject]
    cases v.subject with
    | none => exact .inl rfl
    | some subject => exact .inr (.inr ⟨_, .latest workspace, call_state a s o _ _⟩)
  | version id =>
    simp only [handle, withSubject]
    cases v.subject with
    | none => exact .inl rfl
    | some subject =>
      simp only
      split
      · next hmethod => exact .inr (.inr ⟨_, .delete id hmethod, call_state a s o _ _⟩)
      · exact .inr (.inr ⟨_, .get id, call_state a s o _ _⟩)
  | download id =>
    simp only [handle, withSubject]
    cases v.subject with
    | none => exact .inl rfl
    | some subject => exact .inr (.inr ⟨_, .download id, call_state a s o _ _⟩)
  | upload signature id =>
    simp only [handle, Versions.upload]
    split
    · exact .inl rfl
    · split
      · exact .inl rfl
      · exact .inl rfl
      · exact .inr (.inr ⟨_, .upload signature id _ v.subject, call_state a s o _ _⟩)

/-- An answer leaves the world alone or makes one call to the service. -/
theorem respond_world (a : App) (s : State) (o : Occasion) (r : Request) :
    (respond a s o r).state.world = s.world ∨
      ∃ call, (respond a s o r).state.world = worldAfter a s o call := by
  rcases respond_state a s o r with hsame | ⟨route, v, _, hhandled⟩
  · exact .inl (congrArg State.world hsame)
  · rw [hhandled]
    rcases handle_state a s o v r route with hsame | ⟨_, _, _, htoken⟩ | ⟨call, _, hcall⟩
    · exact .inl (by rw [hsame])
    · exact .inl (by rw [htoken])
    · exact .inr ⟨call, by rw [hcall]⟩

/-- Only a POST changes the records of tokens. -/
theorem respond_tokens (hmethod : r.method ≠ "POST") :
    (respond a s o r).state.tokens = s.tokens := by
  rcases respond_state a s o r with hsame | ⟨route, v, hadmitted, hhandled⟩
  · rw [hsame]
  · rw [hhandled]
    rcases handle_state a s o v r route with hsame | ⟨_, rfl, _, _⟩ | ⟨call, _, hcall⟩
    · rw [hsame]
    · exact absurd (List.mem_singleton.mp hadmitted.method) hmethod
    · rw [hcall]

/-! A server to look at. -/

def plainApp : App where
  settings := {
    serverPort := 8080
    corsOrigins := []
    dbMaxConnections := 10
    dbTimeoutSeconds := 30
    environment := "development"
    secret := "0123456789abcdef0123456789abcdef"
    databaseUrl := none
    storeBackend := .memory
    blobBackend := .memory
    blobDirectory := "data"
    maxArchiveSize := 1048576
    siteAdmins := ["ada"]
    sessionUserHeader := "X-Forwarded-User"
    authCodeSeconds := 300
    uploadUrlSeconds := 3600 }
  withDetails := false

def plainOccasion : Occasion :=
  ⟨⟨1700000000, 0⟩, .ofRandom [], "AAAAAAAAAAAAAAAA", List.replicate 12 0,
    ⟨List.replicate 32 0, List.replicate 16 0, .ofRandom [1]⟩, (Uuid.ofRandom [2]).render, .none⟩

end ConfigRegistry.Server
