import ConfigRegistry.Proofs.Server.Secrecy
import ConfigRegistry.Proofs.Service.Rewording

/-!
Failures of the machinery are opaque. Two servers in one state meet one request while the same
things are out of order, told in other words: the answers are the same, and so are the states they
leave. Only the check of the server's health tells such words.
-/
namespace ConfigRegistry.Server

open Http

variable {a : App} {s : State} {o : Occasion} {r : Request} {route : Route} {v : Visitor}
  {outages' : Outages}

/-- A client is told the same of a failure in other words, whether details are told or not. -/
theorem ofFailure_reworded (withDetails : Bool) {f f' : Failure} (h : f.Reworded f') :
    Response.ofFailure withDetails f = Response.ofFailure withDetails f' := by
  cases h with
  | same => rfl
  | _ =>
    -- The body has the text of a failure only among its details, which a sensitive one has not.
    simp [Response.ofFailure, Failure.body, Failure.presentation, Failure.clientMessage]

/-- The same answer and the same state; what is logged may differ. -/
structure Exchange.Same (e e' : Exchange) : Prop where
  response : e'.response = e.response
  state : e'.state = e.state

namespace Exchange.Same

theorem refl (e : Exchange) : e.Same e := ⟨rfl, rfl⟩

theorem mapResponse {e e' : Exchange} (h : e.Same e') (f : Response → Response) :
    (e.mapResponse f).Same (e'.mapResponse f) := ⟨congrArg f h.response, h.state⟩

theorem after {e e' : Exchange} (h : e.Same e') (events events' : List Log.Event) :
    (e.after events).Same (e'.after events') := ⟨h.response, h.state⟩

theorem failed (a : App) (s : State) {f f' : Failure} (h : f.Reworded f') :
    (Exchange.failed a s f).Same (Exchange.failed a s f') :=
  ⟨(ofFailure_reworded a.withDetails h).symm, rfl⟩

end Exchange.Same

open Exchange (Same)

def Occasion.told (o : Occasion) (outages' : Outages) : Occasion := { o with outages := outages' }

theorem now_told : (o.told outages').now = o.now := rfl

/-! Tokens. -/

theorem reworded_authenticate (l : Ledger) {outage outage' : Option Failure}
    (h : Option.Rel Failure.Reworded outage outage') (token : String) :
    Failure.RewordedResult (l.authenticate outage token) (l.authenticate outage' token) := by
  unfold Ledger.authenticate
  split
  · exact .refl _
  · cases h with
    | none => exact .refl _
    | some hf => exact .error hf

/-- The bearer gate tells failures apart by their kinds and not by their words. -/
theorem bearer_reworded (houtages : o.outages.Reworded outages') (h : Headers) :
    Failure.RewordedResult (bearer a s o h).1 (bearer a s (o.told outages') h).1 := by
  unfold bearer
  split
  · exact .refl _
  · split
    · exact .refl _
    · next token _ =>
      have hauth := reworded_authenticate s.tokens houtages.tokens
        (Text.trim (String.ofList token))
      simp only [Occasion.told]
      generalize s.tokens.authenticate o.outages.tokens _ = x at hauth
      generalize s.tokens.authenticate outages'.tokens _ = y at hauth
      cases hauth with
      | ok record => exact .ok _
      | error hf => exact .error hf

/-- The exchange of a code tells the client of a failure, but not of which one. -/
theorem exchange_reworded (secret : List UInt8) (tokens : Ledger) {outage outage' : Option Failure}
    (h : Option.Rel Failure.Reworded outage outage') (p : Login.Parameters)
    (draws : Ledger.Draws) (now : Time.Instant) :
    Login.exchange secret tokens outage p draws now =
      Login.exchange secret tokens outage' p draws now := by
  unfold Login.exchange Ledger.issue
  cases h with
  | none => rfl
  | some hf => rfl

/-! Handling. -/

/-- A call answers the same and leaves the same state, however its failures are worded. -/
theorem call_reworded (houtages : o.outages.Reworded outages') (opening : Service.Opening)
    (present : Service.Answer → Response) :
    (Versions.call a s o opening present).Same
      (Versions.call a s (o.told outages') opening present) := by
  have hrun := Service.run_reworded (e := ⟨o.outages, o.now, o.mark⟩) houtages s.world opening
  have hanswer := hrun.answer
  unfold Versions.call
  simp only [Occasion.told, hrun.world]
  generalize (Service.run ⟨o.outages, o.now, o.mark⟩ s.world opening).answer = x at hanswer
  generalize (Service.run ⟨outages', o.now, o.mark⟩ s.world opening).answer = y at hanswer
  cases hanswer with
  | ok answer => exact ⟨rfl, rfl⟩
  | error hf => exact (Same.failed a _ hf).after _ _

theorem withBody_same {handle handle' : ByteArray → Exchange}
    (h : ∀ body, (handle body).Same (handle' body)) :
    (withBody s route r handle).Same (withBody s route r handle') := by
  unfold withBody
  split
  · exact h _
  · exact .refl _

theorem withSubject_same {handle handle' : Subject → Exchange}
    (h : ∀ subject, (handle subject).Same (handle' subject)) :
    (withSubject a s v handle).Same (withSubject a s v handle') := by
  unfold withSubject
  split
  · exact h _
  · exact .refl _

/-- Only the check of the server's health tells words for what is out of order. -/
theorem handle_reworded (houtages : o.outages.Reworded outages') (hroute : route ≠ .health) :
    (handle a s o v r route).Same (handle a s (o.told outages') v r route) := by
  have hcall := fun opening present => call_reworded (a := a) (s := s) houtages opening present
  cases route with
  | discovery => exact .refl _
  | health => exact absurd rfl hroute
  | openApi => exact .refl _
  | docs => exact .refl _
  | ping => exact .refl _
  | authorization => exact withBody_same fun body => .refl _
  | token =>
    refine withBody_same fun body => ?_
    rw [exchange_reworded a.secret s.tokens houtages.tokens]
    exact .refl _
  | versions workspace =>
    refine withSubject_same fun by_ => ?_
    split
    · refine withBody_same fun body => ?_
      unfold Versions.create
      split
      · exact .refl _
      · exact hcall _ _
    · unfold Versions.list
      split
      · exact .refl _
      · exact hcall _ _
  | latest workspace => exact withSubject_same fun by_ => hcall _ _
  | version id => exact withSubject_same fun by_ => hcall _ _
  | download id => exact withSubject_same fun by_ => hcall _ _
  | upload signature id =>
    unfold handle Versions.upload
    simp only
    split
    · exact .refl _
    · split
      · exact .refl _
      · exact .refl _
      · exact hcall _ _

theorem admitted_reworded (houtages : o.outages.Reworded outages') (hroute : route ≠ .health) :
    (admitted a s o v r route).Same (admitted a s (o.told outages') v r route) := by
  unfold admitted
  split
  · exact .refl _
  · split
    · exact .refl _
    · exact handle_reworded houtages hroute

/-- Behind every gate but that of the health check, answers do not tell how failures are worded. -/
theorem atGate_reworded (houtages : o.outages.Reworded outages') (hroute : route ≠ .health)
    (path : String) :
    (atGate a s o r path route).Same (atGate a s (o.told outages') r path route) := by
  unfold atGate
  cases route.gate with
  | free => exact admitted_reworded houtages hroute
  | session => exact (admitted_reworded houtages hroute).after _ _
  | bearer =>
    have hbearer := bearer_reworded (a := a) (s := s) houtages r.headers
    simp only
    generalize bearer a s o r.headers = x at hbearer
    generalize bearer a s (o.told outages') r.headers = y at hbearer
    obtain ⟨result, events⟩ := x
    obtain ⟨result', events'⟩ := y
    cases hbearer with
    | ok subject => exact (admitted_reworded houtages hroute).after _ _
    | error hf => exact (Same.failed a s hf).after _ _
  | signature =>
    simp only
    rw [now_told]
    split
    · exact admitted_reworded houtages hroute
    · exact .refl _

/-- For every server in every state, and whatever is out of order: if the same is told in other
words, a request gets the same answer and leaves the same state, unless it asks for the health of
the server. -/
theorem respond_reworded (houtages : o.outages.Reworded outages')
    (hroute : Route.ofPath? (pathOf r) ≠ some .health) :
    (respond a s { o with outages := outages' } r).response = (respond a s o r).response ∧
      (respond a s { o with outages := outages' } r).state = (respond a s o r).state := by
  suffices h : (respond a s o r).Same (respond a s (o.told outages') r) from ⟨h.response, h.state⟩
  cases hpath : Route.ofPath? (pathOf r) with
  | none =>
    unfold pathOf at hpath
    simp only [respond, hpath]
    exact .refl _
  | some route =>
    have hgate := atGate_reworded (a := a) (s := s) (r := r) houtages
      (fun h => hroute (hpath.trans (congrArg some h))) (pathOf r)
    rw [respond_routed hpath, respond_routed hpath]
    apply Same.mapResponse
    split
    · exact .refl _
    · apply Same.mapResponse
      split
      · exact .refl _
      · exact hgate

/-- No record of a token can be read, for want of a connection. -/
def exhausted : Occasion :=
  { plainOccasion with outages := ⟨[], [], some (.database .poolTimedOut)⟩ }

def unreachable : Outages := ⟨[], [], some (.database (.io "10.0.0.7: connection refused"))⟩

/-- A download fails in two wordings, and is answered in one. -/
theorem strayDownload_reworded :
    exhausted.outages.Reworded unreachable ∧
      Route.ofPath? (pathOf strayDownload) ≠ some .health ∧
      (respond plainApp filled exhausted strayDownload).response.status = 500 ∧
      (respond plainApp filled { exhausted with outages := unreachable } strayDownload).response =
        (respond plainApp filled exhausted strayDownload).response ∧
      (respond plainApp filled { exhausted with outages := unreachable } strayDownload).state =
        (respond plainApp filled exhausted strayDownload).state := by
  have houtages : exhausted.outages.Reworded unreachable :=
    ⟨fun _ => .none, fun _ => .none, .some (.database _ _)⟩
  have hroute : Route.ofPath? (pathOf strayDownload) ≠ some .health := by decide +kernel
  have hstatus : (respond plainApp filled exhausted strayDownload).response.status = 500 := by
    decide +kernel
  exact ⟨houtages, hroute, hstatus, respond_reworded houtages hroute⟩

end ConfigRegistry.Server
