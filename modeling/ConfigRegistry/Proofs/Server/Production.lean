import ConfigRegistry.Proofs.Json.Objects
import ConfigRegistry.Proofs.Login.Outcomes
import ConfigRegistry.Proofs.Server.Answers
import ConfigRegistry.Proofs.Sequencing

/-!
What production hides. The settings and the answers about failures each have a test for production.
The settings fall back on a second variable where the first one is no text; the answers do not. A
server whose answers are made in production tells no details of failures; one that takes itself to
be in production by the second variable tells them all the same.
-/
namespace ConfigRegistry

namespace Settings

variable {env : Environment} {s : Settings}

theorem environment_of_ofEnvironment (h : ofEnvironment env = .ok s) :
    s.environment = ((env.get? "ENVIRONMENT").or (env.get? "APP_ENV")).getD "development" := by
  simp only [ofEnvironment, bind_eq_ok] at h
  obtain ⟨_, _, _, _, _, _, _, _, _, _, _, _, _, _, h⟩ := h
  obtain rfl := Except.ok.inj h
  rfl

/-- The first variable that is text decides. -/
theorem isProduction_of_ofEnvironment (h : ofEnvironment env = .ok s) :
    s.isProduction = match env.get? "ENVIRONMENT" with
      | some name => Failure.isProductionName name
      | none => (env.get? "APP_ENV").any Failure.isProductionName := by
  have hdefault : Failure.isProductionName "development" = false := by decide
  rw [isProduction, environment_of_ofEnvironment h]
  cases env.get? "ENVIRONMENT" with
  | some name => rfl
  | none =>
    cases env.get? "APP_ENV" with
    | some name => rfl
    | none => exact hdefault

def Environment.FallsBack (env : Environment) : Prop :=
  env.get? "ENVIRONMENT" = none ∧ (env.get? "APP_ENV").any Failure.isProductionName = true

theorem isProduction_eq_iff (h : ofEnvironment env = .ok s) :
    env.isProduction = s.isProduction ↔ ¬ env.FallsBack := by
  rw [isProduction_of_ofEnvironment h]
  unfold Environment.isProduction Environment.FallsBack
  cases env.get? "ENVIRONMENT" with
  | some name => simp
  | none => simp

end Settings

namespace Server

open Http Coding

/-- No reader of JSON finds details of a failure in the body of an error. -/
def Reticent (response : Response) : Prop :=
  400 ≤ response.status → ∀ v, Json.Value.parse response.body.toList = .ok v →
    v.get? "details" = none ∧ v.get? "error_type" = none

theorem reticent_of_lt {response : Response} (h : response.status < 400) : Reticent response :=
  fun hstatus => absurd hstatus (Nat.not_le_of_lt h)

theorem reticent_of_content {response response' : Response}
    (h : response.content = response'.content) (hresponse : Reticent response') :
    Reticent response := by
  intro hstatus
  obtain ⟨hsame, hbody⟩ := Prod.mk.inj h
  rw [hbody]
  exact hresponse (hsame ▸ hstatus)

theorem reticent_of_unread {response : Response}
    (h : ∃ p, Json.Value.parse response.body.toList = .error p) : Reticent response := by
  intro _ v hv
  obtain ⟨p, hp⟩ := h
  rw [hp] at hv
  contradiction

theorem reticent_of_body_empty {response : Response} (h : response.body = .empty) :
    Reticent response := by
  have hbytes : response.body.toList = [] := by
    rw [h, ByteArray.toList_empty]
  apply reticent_of_unread
  rw [hbytes]
  exact Json.parse_nil

/-- Words that do not begin like a value. -/
theorem reticent_text (status : Nat) (front : String)
    (hfront : (front.toList.flatMap String.utf8EncodeChar).head?.any (!Json.beginsValue ·) = true)
    (rest : String) : Reticent (.text status (front ++ rest)) := by
  rw [← Utf8.encode_eq_flatMap] at hfront
  apply reticent_of_unread
  show ∃ p, Json.Value.parse (Utf8.encode (front ++ rest)) = .error p
  rw [Utf8.encode_append]
  cases hbytes : Utf8.encode front with
  | nil => simp [hbytes] at hfront
  | cons b bytes =>
    have hb : Json.beginsValue b = false := by simpa [hbytes] using hfront
    exact Json.parse_of_not_beginsValue hb _

theorem reticent_json {members : List (String × Json.Value)} (status : Nat)
    (hsimple : ∀ m ∈ members, m.2.IsSimple)
    (hnames : ∀ m ∈ members, m.1 ≠ "details" ∧ m.1 ≠ "error_type") :
    Reticent (.json status (.object members)) := by
  intro _ v hv
  obtain rfl := Except.ok.inj (hv.symm.trans (Json.parse_object members hsimple))
  simp only [Json.Value.get?, Json.Value.lookup_sortMembers, List.lookup_eq_none_iff,
    List.mem_reverse, bne_iff_ne]
  exact ⟨fun m hm => (hnames m hm).1.symm, fun m hm => (hnames m hm).2.symm⟩

theorem reticent_failure (f : Failure) : Reticent (.ofFailure false f) := by
  apply reticent_json
  · intro m hm
    simp at hm
    rcases hm with rfl | rfl | rfl | rfl <;> constructor
  · simp

theorem reticent_health (outages : Outages) (blobs : Blob.Store) :
    Reticent (Health.answer outages blobs).1 := by
  unfold Health.answer
  simp only
  split
  · apply reticent_json
    · intro m hm
      simp at hm
      rcases hm with rfl | rfl | rfl <;> constructor
    · simp
  · split
    · exact reticent_of_lt (show 200 < 400 by decide)
    · exact reticent_of_lt (show 200 < 400 by decide)

variable {a : App} {s : State} {o : Occasion} {r : Request} {route : Route} {v : Visitor}

theorem reticent_readBody {limit : Nat} {b : Body} {response : Response}
    (h : readBody limit b = .error response) : Reticent response := by
  unfold readBody at h
  simp only at h
  split at h
  · contradiction
  · exact Except.error.inj h ▸ reticent_text 413 _ (by decide) _
  · exact Except.error.inj h ▸ reticent_text 400 _ (by decide) _

theorem reticent_withBody {handle : ByteArray → Exchange}
    (h : ∀ body, Reticent (handle body).response) :
    Reticent (withBody s route r handle).response := by
  unfold withBody
  split
  · exact h _
  · next hbody => exact reticent_readBody hbody

/-! Logins. -/

theorem reticent_fault (redirect : Login.Redirect) (f : Login.ClientFault)
    (description : Option String) : Reticent (redirect.fault f description) :=
  reticent_of_lt (show 302 < 400 by decide)

theorem reticent_make {clientId address state : String} {response : Response}
    (h : Login.Redirect.make clientId address state = .error response) : Reticent response := by
  have hwords : ∀ words : String,
      (words.toList.flatMap String.utf8EncodeChar).head?.any (!Json.beginsValue ·) = true →
        Reticent (.text 400 words) := fun words hfront => by
    simpa using reticent_text 400 _ hfront ""
  unfold Login.Redirect.make at h
  split at h
  · exact Except.error.inj h ▸ hwords _ (by decide)
  · split at h
    · contradiction
    · exact Except.error.inj h ▸ hwords _ (by decide)

/-- The faults of a login are told without details in any environment. -/
theorem reticent_authorize (settings : Settings) (visit : Login.Visit) (p : Login.Parameters) :
    Reticent (Login.authorize settings visit p).1 := by
  unfold Login.authorize
  split
  · exact reticent_text 422 _ (by decide) _
  · split
    · next hmake => exact reticent_make hmake
    · unfold Login.decide Login.issueCode
      split
      · exact reticent_fault _ _ _
      · split
        · exact reticent_fault _ _ _
        · split
          · exact reticent_of_lt (show 200 < 400 by decide)
          · split
            · exact reticent_fault _ _ _
            · split
              · exact reticent_fault _ _ _
              · split
                · exact reticent_fault _ _ _
                · exact reticent_of_lt (show 302 < 400 by decide)

/-- So are those of an exchange. -/
theorem reticent_exchange (secret : List UInt8) (tokens : Ledger) (outage : Option Failure)
    (p : Login.Parameters) (draws : Ledger.Draws) (now : Time.Instant) :
    Reticent (Login.exchange secret tokens outage p draws now).response := by
  unfold Login.exchange
  simp only
  split
  · next hmake => exact reticent_make hmake
  · next redirect _ =>
    rcases Login.checkCode_cases secret (.ofParameters p) redirect now with
      ⟨payload, _, hcheck⟩ | ⟨fault, description, events, _, hcheck⟩
    · rw [hcheck]
      simp only
      split
      · exact reticent_fault _ _ _
      · exact reticent_of_lt (show 200 < 400 by decide)
    · rw [hcheck]
      exact reticent_fault _ _ _

/-! Versions. -/

theorem reticent_presentVersion {status : Nat} (hstatus : status < 400)
    (url : String → Option String) (answer : Service.Answer) :
    Reticent (Versions.presentVersion status url answer) := by
  cases answer with
  | version v => exact reticent_of_lt hstatus
  | page p => exact reticent_of_lt hstatus
  | archive data => exact reticent_of_lt hstatus
  | deleted => exact reticent_of_lt (show 204 < 400 by decide)

section

variable (ha : a.withDetails = false)
include ha

theorem reticent_failed (s : State) (f : Failure) :
    Reticent (Exchange.failed a s f).response := by
  rw [Exchange.failed, ha]
  exact reticent_failure f

theorem reticent_call (opening : Service.Opening) {present : Service.Answer → Response}
    (hpresent : ∀ answer, Reticent (present answer)) :
    Reticent (Versions.call a s o opening present).response := by
  unfold Versions.call
  simp only
  split
  · exact hpresent _
  · exact reticent_failed ha s _

theorem reticent_create (subject : Subject) (workspace : String) (h : Headers)
    (body : ByteArray) :
    Reticent (Versions.create a s o subject workspace h body).response := by
  unfold Versions.create
  split
  · exact reticent_failed ha s _
  · exact reticent_call ha _ fun answer => reticent_presentVersion (by decide) _ answer

theorem reticent_list (subject : Subject) (workspace : String) (query : Option String) :
    Reticent (Versions.list a s o subject workspace query).response := by
  unfold Versions.list
  split
  · exact reticent_text 400 _ (by decide) _
  · exact reticent_call ha _ fun answer => reticent_presentVersion (by decide) _ answer

theorem reticent_upload (id : String) (h : Headers) (b : Body) :
    Reticent (Versions.upload a s o id h b).response := by
  unfold Versions.upload
  simp only
  split
  · exact reticent_failed ha s _
  · split
    · exact reticent_failed ha s _
    · exact reticent_failed ha s _
    · exact reticent_call ha _ fun _ => reticent_of_lt (show 200 < 400 by decide)

theorem reticent_withSubject {handle : Subject → Exchange}
    (h : ∀ subject, Reticent (handle subject).response) :
    Reticent (withSubject a s v handle).response := by
  unfold withSubject
  split
  · exact h _
  · exact reticent_failed ha s _

/-- Where details are withheld, no handler tells them. -/
theorem reticent_handle : Reticent (handle a s o v r route).response := by
  have hcall := fun opening => reticent_call (s := s) (o := o) ha opening fun answer =>
    reticent_presentVersion (show 200 < 400 by decide) (fun _ => none) answer
  cases route with
  | discovery => exact reticent_of_lt (show 200 < 400 by decide)
  | health => exact reticent_health _ _
  | openApi => exact reticent_of_lt (show 200 < 400 by decide)
  | docs => exact reticent_of_lt (show 200 < 400 by decide)
  | ping => exact reticent_of_lt (show 204 < 400 by decide)
  | authorization => exact reticent_withBody fun body => reticent_authorize _ _ _
  | token => exact reticent_withBody fun body => reticent_exchange _ _ _ _ _ _
  | versions workspace =>
    refine reticent_withSubject ha fun subject => ?_
    split
    · exact reticent_withBody fun body => reticent_create ha _ _ _ body
    · exact reticent_list ha _ _ _
  | latest workspace => exact reticent_withSubject ha fun subject => hcall _
  | version id => exact reticent_withSubject ha fun subject => hcall _
  | download id => exact reticent_withSubject ha fun subject => hcall _
  | upload signature id => exact reticent_upload ha _ _ _

theorem reticent_admitted : Reticent (admitted a s o v r route).response := by
  unfold admitted
  split
  · exact reticent_of_body_empty rfl
  · split
    · rw [String.append_assoc]
      exact reticent_text 400 _ (by decide) _
    · exact reticent_handle ha

theorem reticent_atGate : Reticent (atGate a s o r (pathOf r) route).response := by
  rcases atGate_eq a s o r route with ⟨f, events, h⟩ | ⟨v, events, _, h⟩
  · rw [h]
    exact reticent_failed ha s f
  · rw [h]
    exact reticent_admitted ha

/-- A server that tells no details has none in the body of any error. -/
theorem reticent_respond : Reticent (respond a s o r).response := by
  cases hroute : Route.ofPath? (pathOf r) with
  | none =>
    unfold pathOf at hroute
    simp only [respond, hroute, Exchange.response_mapResponse]
    apply reticent_of_content (content_mark a o r.headers _)
    split
    · exact reticent_of_body_empty rfl
    · exact reticent_of_body_empty rfl
  | some route =>
    rw [respond_routed hroute, Exchange.response_mapResponse]
    by_cases hhead : r.method = "HEAD"
    · apply reticent_of_body_empty
      unfold finished
      simp only [if_pos hhead]
      exact Response.body_of_content (content_mark a o r.headers _)
    · apply reticent_of_content (content_finished hhead _)
      split
      · exact reticent_of_body_empty rfl
      · apply reticent_of_content (content_versioned route _)
        split
        · have hwords := reticent_text 413 lengthExceeded (by decide) ""
          rwa [String.append_empty] at hwords
        · exact reticent_atGate ha

end

def anonymousLook : Request := ⟨"GET", "/api/v2/configuration-versions/cv-A", none, [], []⟩

def anonymous : Failure := .unauthorized missingAuthorization

theorem content_anonymousLook (a : App) (s : State) (o : Occasion) :
    (respond a s o anonymousLook).response.content =
      (Response.ofFailure a.withDetails anonymous).content := by
  have hroute : Route.ofPath? (pathOf anonymousLook) = some (.version "cv-A") := by decide +kernel
  have hhead : anonymousLook.method ≠ "HEAD" := by decide
  have hoptions : anonymousLook.method ≠ "OPTIONS" := by decide
  have hgate : atGate a s o anonymousLook (pathOf anonymousLook) (.version "cv-A") =
      (Exchange.failed a s anonymous).after [⟨.debug, missingAuthorization⟩] := rfl
  have hsmall : isOversized (.version "cv-A") anonymousLook.headers = false := rfl
  rw [respond_routed hroute, if_neg hoptions, hsmall, hgate]
  simp [content_finished hhead, content_versioned, Exchange.failed]

/-- A server that tells details tells them to anybody. -/
theorem tells_anonymousLook {a : App} (ha : a.withDetails = true) (s : State) (o : Occasion) :
    (respond a s o anonymousLook).response.status = 401 ∧
      ∃ v, Json.Value.parse (respond a s o anonymousLook).response.body.toList = .ok v ∧
        v.get? "details" = some (.string anonymous.detailed) := by
  obtain ⟨hstatus, hbody⟩ := Prod.mk.inj (content_anonymousLook a s o)
  rw [ha] at hstatus hbody
  have hparse := Json.parse_object [("error", .string missingAuthorization),
    ("details", .string anonymous.detailed), ("error_type", .string "Unauthorized"),
    ("code", .string "UNAUTHORIZED"), ("recoverable", .bool false),
    ("suggested_action", .string "Run `terraform login` to obtain a new token")] (by
      intro m hm
      simp at hm
      rcases hm with rfl | rfl | rfl | rfl | rfl | rfl <;> constructor)
  refine ⟨hstatus, _, by rw [hbody]; exact hparse, ?_⟩
  simp [Json.Value.get?, Json.Value.lookup_sortMembers, List.lookup_cons]

/-- A server that takes itself to be in production says so in every answer. -/
theorem transportSecurity_respond {a : App} (ha : a.settings.isProduction = true) (s : State)
    (o : Occasion) (r : Request) :
    ((respond a s o r).response.headers.get? "strict-transport-security").isSome = true := by
  have hmark : ∀ response,
      ((mark a o r.headers response).headers.get? "strict-transport-security").isSome = true := by
    intro response
    unfold mark
    simp [ha, Response.set, Headers.get?_set]
  exact hmark _

/-- The two tests for production agree unless only the fallback names production. Where the
answers are made in production, so are the settings, and no error tells details; elsewhere an error
tells them, whatever the settings take the server for. -/
theorem production_agrees {env : Settings.Environment} {settings : Settings}
    (h : Settings.ofEnvironment env = .ok settings) :
    (env.isProduction = settings.isProduction ↔ ¬ env.FallsBack) ∧
      (env.isProduction = true → settings.isProduction = true ∧
        ∀ s o r, Reticent (respond (.ofEnvironment settings env) s o r).response) ∧
      (env.isProduction = false →
        ∃ r, ∀ s o, ¬ Reticent (respond (.ofEnvironment settings env) s o r).response) := by
  refine ⟨Settings.isProduction_eq_iff h, fun hproduction => ⟨?_, fun s o r => ?_⟩,
    fun hother => ⟨anonymousLook, fun s o => ?_⟩⟩
  · have hagree := (Settings.isProduction_eq_iff h).mpr fun hfallback => by
      simp [Settings.Environment.isProduction, hfallback.1] at hproduction
    exact hagree.symm.trans hproduction
  · exact reticent_respond (by simp [App.ofEnvironment, hproduction])
  · intro hreticent
    obtain ⟨hstatus, v, hparse, hdetails⟩ := tells_anonymousLook
      (a := .ofEnvironment settings env) (by simp [App.ofEnvironment, hother]) s o
    have hnone := (hreticent (by rw [hstatus]; decide) v hparse).1
    rw [hdetails] at hnone
    contradiction

/-- An environment of production, where only the second variable is set. -/
def fallbackEnvironment : Settings.Environment :=
  [("APP_ENV", Utf8.encode "production"), ("CORS_ORIGINS", Utf8.encode "https://example.com"),
    ("SECRET", Utf8.encode "0123456789abcdef0123456789abcdef"),
    ("STORAGE_BACKEND", Utf8.encode "memory"), ("STORE_BACKEND", Utf8.encode "memory")]

def fallbackAnswer (settings : Settings) : Response :=
  (respond (.ofEnvironment settings fallbackEnvironment) .empty plainOccasion
    anonymousLook).response

/-- There the server takes itself to be in production, and tells details. -/
theorem fallback_tells : ∃ settings,
    Settings.ofEnvironment fallbackEnvironment = .ok settings ∧ settings.validate = .ok () ∧
      settings.isProduction = true ∧ fallbackEnvironment.isProduction = false ∧
      ((fallbackAnswer settings).headers.get? "strict-transport-security").isSome = true ∧
      (fallbackAnswer settings).status = 401 ∧
      ∃ v, Json.Value.parse (fallbackAnswer settings).body.toList = .ok v ∧
        v.get? "details" = some (.string "Unauthorized: Missing authorization header") := by
  have hloads : (Settings.ofEnvironment fallbackEnvironment).toOption.any
      (fun settings => settings.fault?.isNone && settings.isProduction) = true := by
    decide +kernel
  have hother : fallbackEnvironment.isProduction = false := by decide
  obtain ⟨settings, hsettings, hchecked⟩ := Option.any_eq_true _ _ |>.mp hloads
  obtain ⟨hvalid, hproduction⟩ := Bool.and_eq_true _ _ ▸ hchecked
  have hvalidate : settings.validate = .ok () := by
    rw [Settings.validate, Option.isNone_iff_eq_none.mp hvalid]
  obtain ⟨hstatus, htold⟩ := tells_anonymousLook
    (a := .ofEnvironment settings fallbackEnvironment) (by simp [App.ofEnvironment, hother])
    .empty plainOccasion
  exact ⟨settings, toOption_eq_some.mp hsettings, hvalidate, hproduction, hother,
    transportSecurity_respond (a := .ofEnvironment settings fallbackEnvironment) hproduction _ _ _,
    hstatus, htold⟩

/-- An environment of production, where the first variable is set. -/
def declaredEnvironment : Settings.Environment :=
  ("ENVIRONMENT", Utf8.encode "Prod") :: fallbackEnvironment

/-- Both tests say so there, and no error tells details; they differ where only the
fallback is set. -/
theorem declared_agrees :
    (∃ settings, Settings.ofEnvironment declaredEnvironment = .ok settings ∧
      declaredEnvironment.isProduction = true ∧ settings.isProduction = true ∧
      ¬ declaredEnvironment.FallsBack ∧
      ∀ s o r, Reticent (respond (.ofEnvironment settings declaredEnvironment) s o r).response) ∧
    ∃ settings, Settings.ofEnvironment fallbackEnvironment = .ok settings ∧
      fallbackEnvironment.isProduction = false ∧ settings.isProduction = true ∧
      fallbackEnvironment.FallsBack ∧
      ∃ r, ∀ s o,
        ¬ Reticent (respond (.ofEnvironment settings fallbackEnvironment) s o r).response := by
  have hloads : ∀ env, (Settings.ofEnvironment env).toOption.isSome = true →
      ∃ settings, Settings.ofEnvironment env = .ok settings := by
    intro env h
    obtain ⟨settings, hsettings⟩ := Option.isSome_iff_exists.mp h
    exact ⟨settings, toOption_eq_some.mp hsettings⟩
  constructor
  · obtain ⟨settings, hsettings⟩ := hloads declaredEnvironment (by decide +kernel)
    obtain ⟨hagree, hreticent, _⟩ := production_agrees hsettings
    have hdeclared : declaredEnvironment.isProduction = true := by decide +kernel
    obtain ⟨hproduction, hall⟩ := hreticent hdeclared
    exact ⟨settings, hsettings, hdeclared, hproduction,
      hagree.mp (hdeclared.trans hproduction.symm), hall⟩
  · obtain ⟨settings, hsettings⟩ := hloads fallbackEnvironment (by decide +kernel)
    obtain ⟨hagree, _, htells⟩ := production_agrees hsettings
    have hother : fallbackEnvironment.isProduction = false := by decide
    have hfallback : fallbackEnvironment.FallsBack := ⟨rfl, by decide +kernel⟩
    have hproduction : settings.isProduction = true := by
      cases hsame : settings.isProduction with
      | true => rfl
      | false => exact absurd hfallback (hagree.mp (hother.trans hsame.symm))
    exact ⟨settings, hsettings, hother, hproduction, hfallback, htells hother⟩

end Server
end ConfigRegistry
